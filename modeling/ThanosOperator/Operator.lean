import ThanosOperator.Converge
import ThanosOperator.Query.Reconcile
import ThanosOperator.Query.Watch
import ThanosOperator.Receive.Controller

/-! # Both controllers on one cluster

`SetupWithManager` registers the querier's and the receiver's controllers with one manager, so
they work on one cluster through one client. A step of the manager is a pass or a watch event of
either. Every call the controllers make appends to the log, and only `CreateOrUpdate` writes: so
over every run, from any cluster and whatever the calls answer, no object is removed, and an
object changes only under a key the run made a `CreateOrUpdate` for. -/

namespace ThanosOperator.Operator
open ThanosOperator.Kube.Meta ThanosOperator.Kube.Objects ThanosOperator.Kube.Client
open ThanosOperator.Kube.Watch ThanosOperator.Interfaces ThanosOperator.Apply
open ThanosOperator.Converge ThanosOperator.Receive.Hashring ThanosOperator.Receive.Reconcile
open World (Footprint)

variable (lc : ManifestLabels) (m : Manifests) (scheme : Scheme)

/-! ## The calls the controllers make -/

/-- An object the manifests build: a querier's, an ingester's, or the hashring ConfigMap. -/
def Built (obj : Object) : Prop :=
  (∃ opts, obj ∈ m.buildQuerier opts) ∨ (∃ opts, obj ∈ m.buildIngesters opts) ∨
    ∃ cm opts, obj = (m.buildHashrings cm opts).1

/-- The reads the controllers make: `Get` of a querier, a receiver, a ConfigMap or a Service,
and `List` of Services, queriers or EndpointSlices. -/
def ReadCall : Call → Prop
  | .get k _ => k = .thanosQuery ∨ k = .thanosReceive ∨ k = .configMap ∨ k = .service
  | .list k _ _ => k = .service ∨ k = .thanosQuery ∨ k = .endpointSlice
  | .createOrUpdate _ _ => False

/-- The calls the controllers make: their reads, and `CreateOrUpdate` of a built object once its
owner step went through. -/
def OperatorCall : Call → Prop
  | .createOrUpdate k key => ∃ owner ns obj o, Built m obj ∧
      ownerStep m scheme owner ns obj = .ok o ∧ o.kind = k ∧ o.meta.key = key
  | c => ReadCall c

theorem operatorCall_of_readCall {c : Call} (h : ReadCall c) : OperatorCall m scheme c := by
  cases c with
  | createOrUpdate _ _ => exact h.elim
  | _ => exact h

/-- Work that only reads leaves every object of the cluster as it was. -/
theorem get_of_footprint_read {w w' : World} (h : Footprint ReadCall w w')
    (k : Kind × NamespacedName) :
    w'.store.get k = w.store.get k :=
  h.written k fun hc => h.made _ hc

theorem operatorCall_flatMap {owner : Object} {ns : String} {objs : List Object}
    (hb : ∀ obj ∈ objs, Built m obj) :
    ∀ c ∈ objs.flatMap (applyCall m scheme owner ns), OperatorCall m scheme c := by
  intro c hc
  obtain ⟨obj, hobj, hc⟩ := List.mem_flatMap.mp hc
  obtain ⟨o, ho, rfl⟩ := (mem_applyCall_iff m scheme owner ns).mp hc
  exact ⟨owner, ns, obj, o, hb obj hobj, ho, rfl, rfl⟩

/-- The hashring ConfigMap `buildHashringConfig` hands back is the one `BuildHashrings` built. -/
theorem built_buildHashringConfig (receiver : ThanosReceive) (metrics : Metrics) (w : World) :
    ∀ obj, (buildHashringConfig lc m receiver metrics w).1.1 = some obj → Built m obj := by
  have hconf : ∀ cm metrics w obj,
      (configFromConfigMap lc m receiver cm metrics w).1.1 = some obj → Built m obj := by
    intro cm metrics w obj h
    unfold configFromConfigMap at h
    dsimp only at h
    split at h
    · cases h
    · exact .inr (.inr ⟨cm, _, (Option.some.inj h).symm⟩)
  intro obj h
  unfold buildHashringConfig at h
  split at h
  · split at h
    · cases h
    · exact hconf _ _ _ _ h
  · exact hconf _ _ _ _ h

theorem built_desiredObjects (receiver : ThanosReceive) (metrics : Metrics) (w : World) :
    ∀ objs, (desiredObjects lc m receiver metrics w).1 = .ok objs → ∀ obj ∈ objs, Built m obj := by
  have hconf := built_buildHashringConfig lc m receiver metrics w
  unfold desiredObjects
  generalize buildHashringConfig lc m receiver metrics w = r at hconf ⊢
  obtain ⟨⟨conf, err⟩, _, _⟩ := r
  have hok : ∀ obj ∈ buildHashrings m receiver ++ conf.toList, Built m obj := by
    intro obj hobj
    rcases List.mem_append.mp hobj with h | h
    · exact .inr (.inl ⟨_, h⟩)
    · exact hconf obj (by simpa using h)
  intro objs h
  cases err with
  | none => cases h; exact hok
  | some err =>
    dsimp only at h
    split at h
    · cases h
    · cases h; exact hok

/-! ## The querier's controller -/

theorem footprint_querySyncResources (query : ThanosQuery) (w : World) :
    Footprint (OperatorCall m scheme) w (Query.Reconcile.syncResources lc m scheme query w).2 := by
  have hb : Footprint (OperatorCall m scheme) w (Query.Reconcile.buildQuerier lc m query w).2 := by
    rw [Query.Reconcile.buildQuerier_world]
    exact World.footprint_log (by exact Or.inl rfl) w
  exact hb.trans (footprint_applyObjects m scheme _ _ _ _ _
    (operatorCall_flatMap m scheme fun _ h => .inl ⟨_, h⟩))

theorem footprint_queryReconcile (req : NamespacedName) (w : World) :
    Footprint (OperatorCall m scheme) w (Query.Reconcile.reconcile lc m scheme req w).2 := by
  have hg : Footprint (OperatorCall m scheme) w (w.getThanosQuery req).2 :=
    World.footprint_read (by exact Or.inl rfl) _ w
  unfold Query.Reconcile.reconcile
  rcases hq : w.getThanosQuery req with ⟨_ | query, w'⟩ <;> rw [hq] at hg
  · dsimp only
    split <;> exact hg
  · exact hg.trans (footprint_querySyncResources lc m scheme query w')

theorem footprint_enqueueForService (obj : Service) (w : World) :
    Footprint ReadCall w (Query.Watch.enqueueForService lc obj w).2 := by
  have hl : Footprint ReadCall w (w.listThanosQueries obj.meta.namespace).2 :=
    World.footprint_read (by exact Or.inr (Or.inl rfl)) _ w
  unfold Query.Watch.enqueueForService
  split
  · exact .refl w
  · rcases hq : w.listThanosQueries obj.meta.namespace with ⟨_ | _, w'⟩ <;> rw [hq] at hl <;>
      exact hl

/-! ## The receiver's controller -/

theorem footprint_collectSettings (receiver : ThanosReceive) (n : Nat) (i : Nat)
    (hashrings : List IngestorHashringSpec) (settings : GoMap HashringMeta) (w : World) :
    Footprint ReadCall w (collectSettings lc receiver n i hashrings settings w).2 := by
  induction hashrings generalizing i settings w with
  | nil => exact .refl w
  | cons hashring rest ih =>
    unfold collectSettings
    dsimp only
    generalize GoMap.singleton _ _ = sel
    have hl : Footprint ReadCall w
        (w.listEndpointSlices receiver.meta.namespace sel).2 :=
      World.footprint_read (by exact Or.inr (Or.inr rfl)) _ w
    rcases he : w.listEndpointSlices receiver.meta.namespace sel with ⟨_ | eps, w'⟩ <;>
      rw [he] at hl
    · exact hl
    · exact hl.trans (ih _ _ w')

theorem footprint_buildHashringConfig (receiver : ThanosReceive) (metrics : Metrics) (w : World) :
    Footprint ReadCall w (buildHashringConfig lc m receiver metrics w).2.2 := by
  have hconf : ∀ cm metrics w,
      Footprint ReadCall w (configFromConfigMap lc m receiver cm metrics w).2.2 := by
    intro cm metrics w
    have hc := footprint_collectSettings lc receiver receiver.spec.hashrings.length 0
      receiver.spec.hashrings GoMap.empty w
    unfold configFromConfigMap
    dsimp only
    rcases hs : collectSettings lc receiver receiver.spec.hashrings.length 0 receiver.spec.hashrings
      GoMap.empty w with ⟨_ | _, w'⟩ <;> rw [hs] at hc <;> exact hc
  have hg : Footprint ReadCall w (w.getConfigMap receiver.meta.key).2 :=
    World.footprint_read (by exact Or.inr (Or.inr (Or.inl rfl))) _ w
  unfold buildHashringConfig
  rcases hq : w.getConfigMap receiver.meta.key with ⟨_ | cm, w'⟩ <;> rw [hq] at hg
  · dsimp only
    split
    · exact hg
    · exact hg.trans (hconf _ _ w')
  · exact hg.trans (hconf _ _ w')

theorem footprint_desiredObjects (receiver : ThanosReceive) (metrics : Metrics) (w : World) :
    Footprint ReadCall w (desiredObjects lc m receiver metrics w).2.2 := by
  have hb := footprint_buildHashringConfig lc m receiver metrics w
  unfold desiredObjects
  rcases hbc : buildHashringConfig lc m receiver metrics w with ⟨⟨_, _ | _⟩, _, w'⟩ <;>
    rw [hbc] at hb <;> dsimp only
  · exact hb
  · split <;> exact hb

theorem footprint_receiveSyncResources (receiver : ThanosReceive) (metrics : Metrics) (w : World) :
    Footprint (OperatorCall m scheme) w (syncResources lc m scheme receiver metrics w).2.2 := by
  have hd := (footprint_desiredObjects lc m receiver metrics w).mono
    fun _ => operatorCall_of_readCall m scheme
  have hbuilt := built_desiredObjects lc m receiver metrics w
  rw [syncResources_world]
  rcases hr : desiredObjects lc m receiver metrics w with ⟨_ | objs, _, w'⟩ <;>
    rw [hr] at hd hbuilt
  · exact hd
  · exact hd.trans (footprint_applyObjects m scheme _ _ _ _ _
      (operatorCall_flatMap m scheme (hbuilt objs rfl)))

theorem footprint_receiveReconcile (req : NamespacedName) (metrics : Metrics) (w : World) :
    Footprint (OperatorCall m scheme) w (reconcile lc m scheme req metrics w).2.2 := by
  have hg : Footprint (OperatorCall m scheme) w (w.getThanosReceive req).2 :=
    World.footprint_read (by exact Or.inr (Or.inl rfl)) _ w
  unfold reconcile
  rcases hq : w.getThanosReceive req with ⟨_ | receiver, w'⟩ <;> rw [hq] at hg
  · dsimp only
    split <;> exact hg
  · dsimp only
    split
    · refine hg.trans (.of_store ?_ ?_ ?_ ?_) <;> unfold handleDeletionTimestamp <;> split
      exacts [List.prefix_refl _, List.prefix_refl _, by simp, by simp, rfl, rfl, rfl, rfl]
    · split <;> rename_i h <;> have hw := congrArg (fun r => r.2.2) h <;> dsimp only at hw <;>
        rw [← hw] <;> exact hg.trans (footprint_receiveSyncResources lc m scheme receiver _ w')

theorem footprint_enqueueForEndpointSlice (obj : EndpointSlice) (s : Metrics × World) :
    Footprint ReadCall s.2 (Receive.Watch.enqueueForEndpointSlice obj s).2.2 := by
  unfold Receive.Watch.enqueueForEndpointSlice
  split
  · exact .refl s.2
  · rename_i svcName _
    have hg : Footprint ReadCall s.2
        (s.2.getService ⟨obj.meta.namespace, svcName⟩).2 :=
      World.footprint_read (by exact Or.inr (Or.inr (Or.inr rfl))) _ s.2
    rcases hq : s.2.getService ⟨obj.meta.namespace, svcName⟩ with ⟨_ | svc, w'⟩ <;> rw [hq] at hg
    · exact hg
    · dsimp only
      split <;> exact hg

/-! ## Both passes apply their objects best effort -/

/-- One step of the manager: a pass or a watch event of either controller. A Service event goes
to both of the querier's Service watches, `Owns` and `Watches`; only the second makes a call. -/
inductive Step
  | queryReconcile (req : NamespacedName)
  | serviceEvent (e : Event Service)
  | receiver (st : Receive.Controller.Step)

/-- The querier's controller has no metrics: its steps leave the receiver's as they are. -/
def step (s : Metrics × World) : Step → Metrics × World
  | .queryReconcile req => (s.1, (Query.Reconcile.reconcile lc m scheme req s.2).2)
  | .serviceEvent e => (s.1, (Query.Watch.serviceEvent lc e s.2).2)
  | .receiver st => Receive.Controller.step lc m scheme s st

def runSteps (s : Metrics × World) (steps : List Step) : Metrics × World :=
  steps.foldl (step lc m scheme) s

theorem footprint_step (s : Metrics × World) (st : Step) :
    Footprint (OperatorCall m scheme) s.2 (step lc m scheme s st).2 := by
  cases st with
  | queryReconcile req => exact footprint_queryReconcile lc m scheme req s.2
  | serviceEvent e =>
    exact @watch_preserves Service World (·.meta) (Query.Watch.servicePredicate lc)
      (Query.Watch.enqueueForService lc) (Footprint (OperatorCall m scheme)) Footprint.refl
      (fun h₁ h₂ => h₁.trans h₂)
      (fun obj w => (footprint_enqueueForService lc obj w).mono
        fun _ => operatorCall_of_readCall m scheme)
      e s.2
  | receiver st =>
    cases st with
    | reconcile req => exact footprint_receiveReconcile lc m scheme req s.1 s.2
    | sliceEvent e =>
      exact @watch_preserves EndpointSlice (Metrics × World) (·.meta)
        (Receive.Watch.endpointSlicePredicate lc) Receive.Watch.enqueueForEndpointSlice
        (fun s s' => Footprint (OperatorCall m scheme) s.2 s'.2) (fun s => .refl s.2)
        (fun h₁ h₂ => h₁.trans h₂)
        (fun obj s => (footprint_enqueueForEndpointSlice obj s).mono
          fun _ => operatorCall_of_readCall m scheme) e s

/-- Over every run of both controllers, from any cluster and whatever the calls answer, calls
are only appended to the log, each a `Get` or `List` of the kinds the passes and handlers read
or a `CreateOrUpdate` of a built object; no object is removed, and an object changes only under
a key the run made a `CreateOrUpdate` for. -/
theorem runSteps_footprint (s : Metrics × World) (steps : List Step) :
    Footprint (OperatorCall m scheme) s.2 (runSteps lc m scheme s steps).2 := by
  induction steps generalizing s with
  | nil => exact .refl s.2
  | cons st steps ih => exact (footprint_step lc m scheme s st).trans (ih _)

end ThanosOperator.Operator
