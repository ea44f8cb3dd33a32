import ThanosOperator.Apply

/-! # What the apply loop leaves in the cluster

The loop of both `syncResources` writes through `CreateOrUpdate` only. An object under a key
the loop made no `CreateOrUpdate` for keeps its stored value, nothing stored is removed, and
every object the loop configured is stored under its key afterwards. When the mutate function
is idempotent and the loop's keys are distinct, the loop converges: run again over the
cluster it left, with every call answered, it reports every object unchanged and writes
nothing. -/

namespace ThanosOperator.Converge
open ThanosOperator.Kube.Meta ThanosOperator.Kube.Objects ThanosOperator.Kube.Client
open ThanosOperator.Interfaces ThanosOperator.Apply

variable (m : Manifests) (scheme : Scheme) (owner : Object) (ns : String)

/-- One turn of the loop: the object's step, then the rest of the list from the world it left. -/
theorem applyObjects_cons (obj : Object) (objs : List Object) (errCount : BitVec 32) (w : World) :
    applyObjects m scheme owner ns (obj :: objs) errCount w =
      let r := applyObject m scheme owner ns obj w
      let rest := applyObjects m scheme owner ns objs
        (if r.1.failed then errCount + 1 else errCount) r.2
      (rest.1, r.1 :: rest.2.1, rest.2.2) := rfl

/-- One object's step, through the owner step and `CreateOrUpdate`. -/
theorem applyObject_eq (obj : Object) (w : World) :
    applyObject m scheme owner ns obj w =
      match ownerStep m scheme owner ns obj with
      | .error e => (.ownerReferenceFailed e, w)
      | .ok o =>
        (match (w.createOrUpdate m.mutateFuncFor o).1 with
          | .error e => .applyFailed e
          | .ok op => .configured op,
         (w.createOrUpdate m.mutateFuncFor o).2) := by
  unfold applyObject
  cases ownerStep m scheme owner ns obj with
  | error e => rfl
  | ok o =>
    dsimp only
    rcases w.createOrUpdate m.mutateFuncFor o with ⟨_ | _, _⟩ <;> rfl

theorem mem_applyCall_iff {obj : Object} {c : Call} :
    c ∈ applyCall m scheme owner ns obj ↔
      ∃ o, ownerStep m scheme owner ns obj = .ok o ∧ c = .createOrUpdate o.kind o.meta.key := by
  unfold applyCall
  split <;> simp_all

section Footprint

variable {P : Call → Prop}

theorem footprint_applyObject (obj : Object) (w : World)
    (hP : ∀ c ∈ applyCall m scheme owner ns obj, P c) :
    World.Footprint P w (applyObject m scheme owner ns obj w).2 := by
  rw [applyObject_eq]
  split
  · exact .refl w
  · rename_i o ho
    exact World.footprint_createOrUpdate
      (hP _ ((mem_applyCall_iff m scheme owner ns).mpr ⟨o, ho, rfl⟩)) w

/-- The loop appends its calls, writes only under the keys of its `CreateOrUpdate`s, and
removes nothing. -/
theorem footprint_applyObjects (objs : List Object) (errCount : BitVec 32) (w : World)
    (hP : ∀ c ∈ objs.flatMap (applyCall m scheme owner ns), P c) :
    World.Footprint P w (applyObjects m scheme owner ns objs errCount w).2.2 := by
  induction objs generalizing errCount w with
  | nil => exact .refl w
  | cons obj objs ih =>
    simp only [List.flatMap_cons, List.mem_append] at hP
    rw [applyObjects_cons]
    exact (footprint_applyObject m scheme owner ns obj w fun c h => hP c (.inl h)).trans
      (ih _ _ fun c h => hP c (.inr h))

end Footprint

theorem applyObjects_get_of_not_called (objs : List Object) (errCount : BitVec 32) (w : World)
    {k : Kind × NamespacedName}
    (hk : Call.createOrUpdate k.1 k.2 ∉ objs.flatMap (applyCall m scheme owner ns)) :
    (applyObjects m scheme owner ns objs errCount w).2.2.store.get k = w.store.get k := by
  have hf : World.Footprint (fun _ => True) w
      (applyObjects m scheme owner ns objs errCount w).2.2 :=
    footprint_applyObjects m scheme owner ns objs errCount w fun _ _ => trivial
  exact hf.written k (by rwa [applyObjects_calls, List.drop_left])

theorem applyObjects_isSome (objs : List Object) (errCount : BitVec 32) (w : World)
    {k : Kind × NamespacedName} (hk : (w.store.get k).isSome) :
    ((applyObjects m scheme owner ns objs errCount w).2.2.store.get k).isSome := by
  have hf : World.Footprint (fun _ => True) w
      (applyObjects m scheme owner ns objs errCount w).2.2 :=
    footprint_applyObjects m scheme owner ns objs errCount w fun _ _ => trivial
  exact hf.kept k hk

/-- A configured object is stored under its key once its step is done. -/
theorem applyObject_configured {obj : Object} {w : World}
    (h : (applyObject m scheme owner ns obj w).1.failed = false) :
    ∃ o r, ownerStep m scheme owner ns obj = .ok o ∧
      m.mutateFuncFor ((w.store.get o.key).getD o) o = .ok r ∧ r.key = o.key ∧
      (applyObject m scheme owner ns obj w).2.store.get o.key = some r := by
  rw [applyObject_eq] at h ⊢
  split at h
  · cases h
  · rename_i o ho
    simp only [ho]
    rcases World.createOrUpdate_cases m.mutateFuncFor o w with
      ⟨⟨e, he⟩, -⟩ | ⟨r, -, hm, hr, -, hs⟩
    · rw [he] at h; cases h
    · exact ⟨o, r, rfl, hm, hr, by rw [hs, if_pos rfl]⟩

theorem applyObjects_present (objs : List Object) (errCount : BitVec 32) (w : World) :
    ∀ p ∈ objs.zip (applyObjects m scheme owner ns objs errCount w).2.1, p.2.failed = false →
      ∃ o, ownerStep m scheme owner ns p.1 = .ok o ∧
        ((applyObjects m scheme owner ns objs errCount w).2.2.store.get o.key).isSome := by
  induction objs generalizing errCount w with
  | nil => simp [applyObjects]
  | cons obj objs ih =>
    simp only [applyObjects_cons, List.zip_cons_cons, List.mem_cons, forall_eq_or_imp]
    refine ⟨fun h => ?_, ih _ _⟩
    obtain ⟨o, r, ho, -, -, hs⟩ := applyObject_configured m scheme owner ns h
    exact ⟨o, ho, applyObjects_isSome m scheme owner ns _ _ _ (by rw [hs]; rfl)⟩

/-- The loop's footprint on the cluster, for every list and every outcome of every call: an
object under a key the loop made no `CreateOrUpdate` for keeps its value, no stored object is
removed, and every object the loop configured is stored under its key afterwards. -/
theorem applyObjects_cluster (objs : List Object) (errCount : BitVec 32) (w : World) :
    (∀ k : Kind × NamespacedName,
      Call.createOrUpdate k.1 k.2 ∉ objs.flatMap (applyCall m scheme owner ns) →
      (applyObjects m scheme owner ns objs errCount w).2.2.store.get k = w.store.get k) ∧
    (∀ k : Kind × NamespacedName, (w.store.get k).isSome →
      ((applyObjects m scheme owner ns objs errCount w).2.2.store.get k).isSome) ∧
    (∀ p ∈ objs.zip (applyObjects m scheme owner ns objs errCount w).2.1, p.2.failed = false →
      ∃ o, ownerStep m scheme owner ns p.1 = .ok o ∧
        ((applyObjects m scheme owner ns objs errCount w).2.2.store.get o.key).isSome) :=
  ⟨fun _ hk => applyObjects_get_of_not_called m scheme owner ns objs errCount w hk,
    fun _ hk => applyObjects_isSome m scheme owner ns objs errCount w hk,
    applyObjects_present m scheme owner ns objs errCount w⟩

/-! ## Convergence -/

/-- Every object of the list goes through its owner step, and the cluster holds under its key
an object with that key that the mutate function keeps as it is. -/
def Converged (objs : List Object) (s : Store) : Prop :=
  ∀ obj ∈ objs, ∃ o r, ownerStep m scheme owner ns obj = .ok o ∧ s.get o.key = some r ∧
    r.key = o.key ∧ m.mutateFuncFor r o = .ok r

/-- A loop that configured every object, with distinct keys and an idempotent mutate function,
leaves the cluster converged for its list: a later object never overwrites an earlier one. -/
theorem applyObjects_establishes (objs : List Object) (errCount : BitVec 32) (w : World)
    (hmut : ∀ e d r, m.mutateFuncFor e d = .ok r → m.mutateFuncFor r d = .ok r)
    (hkeys : (objs.flatMap (applyCall m scheme owner ns)).Nodup)
    (hok : ∀ out ∈ (applyObjects m scheme owner ns objs errCount w).2.1, out.failed = false) :
    Converged m scheme owner ns objs
      (applyObjects m scheme owner ns objs errCount w).2.2.store := by
  induction objs generalizing errCount w with
  | nil => intro _ h; cases h
  | cons obj objs ih =>
    rw [applyObjects_cons] at hok ⊢
    simp only [List.mem_cons, forall_eq_or_imp] at hok
    rw [List.flatMap_cons, List.nodup_append] at hkeys
    intro x hx
    rcases List.mem_cons.mp hx with rfl | hx
    · obtain ⟨o, r, ho, hm, hr, hs⟩ := applyObject_configured m scheme owner ns hok.1
      have hcall := (mem_applyCall_iff m scheme owner ns).mpr ⟨o, ho, rfl⟩
      refine ⟨o, r, ho, ?_, hr, hmut _ _ _ hm⟩
      rw [applyObjects_get_of_not_called m scheme owner ns _ _ _ (hkeys.2.2 hcall), hs]
    · exact ih _ _ hkeys.2.1 hok.2 x hx

/-- Over a converged cluster with every call answered, the loop reports every object unchanged
and only logs its calls. -/
theorem applyObjects_of_converged (objs : List Object) (errCount : BitVec 32) (w : World)
    (hfree : ∀ i, w.faults i = none) (hc : Converged m scheme owner ns objs w.store) :
    applyObjects m scheme owner ns objs errCount w =
      (errCount, objs.map fun _ => .configured .unchanged,
        { w with calls := w.calls ++ objs.flatMap (applyCall m scheme owner ns) }) := by
  induction objs generalizing w with
  | nil => simp [applyObjects]
  | cons obj objs ih =>
    obtain ⟨o, r, ho, hs, hr, hm⟩ := hc obj (List.mem_cons_self _ _)
    have hstep : applyObject m scheme owner ns obj w =
        (.configured .unchanged, w.log (.createOrUpdate o.kind o.meta.key)) := by
      rw [applyObject_eq, ho]
      simp only [World.createOrUpdate_of_stable (hfree _) hs hr hm]
    have hcall : applyCall m scheme owner ns obj = [.createOrUpdate o.kind o.meta.key] := by
      simp only [applyCall, ho]
    rw [applyObjects_cons, hstep]
    simp only [ObjectOutcome.failed, Bool.false_eq_true, if_false]
    rw [ih (w.log _) hfree fun x hx => hc x (List.mem_cons_of_mem _ hx)]
    simp [hcall, World.log]

/-- The apply loop converges. A run with distinct keys and an idempotent mutate function that
configured every object leaves a cluster over which a second run, from any world with that
store and every call answered, configures every object as unchanged, fails none, and writes
nothing: it only logs its calls. -/
theorem applyObjects_converges (objs : List Object) (errCount errCount₂ : BitVec 32)
    (w w₂ : World)
    (hmut : ∀ e d r, m.mutateFuncFor e d = .ok r → m.mutateFuncFor r d = .ok r)
    (hkeys : (objs.flatMap (applyCall m scheme owner ns)).Nodup)
    (hok : ∀ out ∈ (applyObjects m scheme owner ns objs errCount w).2.1, out.failed = false)
    (hstore : w₂.store = (applyObjects m scheme owner ns objs errCount w).2.2.store)
    (hfree : ∀ i, w₂.faults i = none) :
    applyObjects m scheme owner ns objs errCount₂ w₂ =
      (errCount₂, objs.map fun _ => .configured .unchanged,
        { w₂ with calls := w₂.calls ++ objs.flatMap (applyCall m scheme owner ns) }) :=
  applyObjects_of_converged m scheme owner ns objs errCount₂ w₂ hfree
    (hstore ▸ applyObjects_establishes m scheme owner ns objs errCount w hmut hkeys hok)

/-- A querier, and a Deployment and a Service of it, applied into an empty cluster. -/
def querier : ThanosQuery where
  meta := { name := "q", «namespace» := "ns" }
  spec := { image := none, logLevel := none, logFormat := none, replicas := 1,
            querierReplicaLabels := [], storeLabelSelector := ⟨GoMap.empty, []⟩ }

def querierObjects : List Object :=
  [.workload "Deployment" { name := "q", «namespace» := "ns" } "v1",
   .workload "Service" { name := "q", «namespace» := "ns" } "grpc"]

def emptyCluster : World := ⟨⟨[], by decide⟩, fun _ => none, [], []⟩

theorem applyObjects_converges_querier :
    (∀ e d r, sampleManifests.mutateFuncFor e d = .ok r →
      sampleManifests.mutateFuncFor r d = .ok r) ∧
    (querierObjects.flatMap
      (applyCall sampleManifests sampleScheme (.thanosQuery querier) "ns")).Nodup ∧
    (∀ out ∈ (applyObjects sampleManifests sampleScheme (.thanosQuery querier) "ns"
        querierObjects 0 emptyCluster).2.1,
      out.failed = false) ∧
    applyObjects sampleManifests sampleScheme (.thanosQuery querier) "ns" querierObjects 0
        (applyObjects sampleManifests sampleScheme (.thanosQuery querier) "ns" querierObjects 0
          emptyCluster).2.2 =
      (0, querierObjects.map fun _ => .configured .unchanged,
        { (applyObjects sampleManifests sampleScheme (.thanosQuery querier) "ns" querierObjects 0
            emptyCluster).2.2 with
          calls := (applyObjects sampleManifests sampleScheme (.thanosQuery querier) "ns"
              querierObjects 0 emptyCluster).2.2.calls ++
            querierObjects.flatMap
              (applyCall sampleManifests sampleScheme (.thanosQuery querier) "ns") }) := by
  have hmut : ∀ e d r, sampleManifests.mutateFuncFor e d = .ok r →
      sampleManifests.mutateFuncFor r d = .ok r := fun _ _ _ h => by
    injection h with h
    rw [← h]
    rfl
  have hkeys : (querierObjects.flatMap
      (applyCall sampleManifests sampleScheme (.thanosQuery querier) "ns")).Nodup := by
    decide
  have hok : ∀ out ∈ (applyObjects sampleManifests sampleScheme (.thanosQuery querier) "ns"
      querierObjects 0 emptyCluster).2.1, out.failed = false := by decide
  exact ⟨hmut, hkeys, hok, applyObjects_converges sampleManifests sampleScheme
    (.thanosQuery querier) "ns" querierObjects 0 0 emptyCluster _ hmut hkeys hok rfl fun _ => rfl⟩

end ThanosOperator.Converge
