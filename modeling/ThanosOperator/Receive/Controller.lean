import ThanosOperator.Receive.Reconcile
import ThanosOperator.Receive.Watch

/-! # The receive controller over a run

The controller interleaves reconcile passes with the EndpointSlice watch's handler, and both
count into the same metrics. A step is one pass or one event reaching the handler. Over every
run, from any state, no counter falls, no more passes fail than run, and
`reconciliations_total` counts the passes. -/

namespace ThanosOperator.Receive.Controller
open ThanosOperator.Kube.Meta ThanosOperator.Kube.Client ThanosOperator.Kube.Objects
open ThanosOperator.Kube.Watch ThanosOperator.Interfaces ThanosOperator.Apply
open ThanosOperator.Receive.Hashring ThanosOperator.Receive.Reconcile ThanosOperator.Receive.Watch

/-- One step of the controller: a reconcile pass, or an EndpointSlice event. -/
inductive Step
  | reconcile (req : NamespacedName)
  | sliceEvent (e : Event EndpointSlice)

def Step.isReconcile : Step → Bool
  | .reconcile _ => true
  | .sliceEvent _ => false

variable (lc : ManifestLabels) (m : Manifests) (scheme : Scheme)

def step (s : Metrics × World) : Step → Metrics × World
  | .reconcile req => (reconcile lc m scheme req s.1 s.2).2
  | .sliceEvent e => (watchEndpointSlice lc e s).2

def runSteps (s : Metrics × World) (steps : List Step) : Metrics × World :=
  steps.foldl (step lc m scheme) s

/-- How the counters may move from `a` to `b`: none falls, and no more passes fail than run. -/
structure CountersGrow (a b : Metrics) : Prop where
  total : a.reconciliationsTotal ≤ b.reconciliationsTotal
  failed : a.reconciliationsFailedTotal ≤ b.reconciliationsFailedTotal
  failed_le_total : b.reconciliationsFailedTotal - a.reconciliationsFailedTotal ≤
    b.reconciliationsTotal - a.reconciliationsTotal
  clientErrors : a.clientErrorsTotal ≤ b.clientErrorsTotal
  endpointWatches : a.endpointWatchesReconciliationsTotal ≤ b.endpointWatchesReconciliationsTotal

theorem CountersGrow.refl (a : Metrics) : CountersGrow a a :=
  ⟨le_rfl, le_rfl, by omega, le_rfl, le_rfl⟩

theorem CountersGrow.trans {a b c : Metrics} (h₁ : CountersGrow a b) (h₂ : CountersGrow b c) :
    CountersGrow a c where
  total := h₁.total.trans h₂.total
  failed := h₁.failed.trans h₂.failed
  failed_le_total := by
    have := h₁.failed_le_total
    have := h₂.failed_le_total
    have := h₁.total
    have := h₂.total
    omega
  clientErrors := h₁.clientErrors.trans h₂.clientErrors
  endpointWatches := h₁.endpointWatches.trans h₂.endpointWatches

/-- The handler only adds to `endpoint_event_reconciliations_total`. -/
theorem watchEndpointSlice_counters (e : Event EndpointSlice) (s : Metrics × World) :
    CountersGrow s.1 (watchEndpointSlice lc e s).2.1 ∧
    (watchEndpointSlice lc e s).2.1.reconciliationsTotal = s.1.reconciliationsTotal := by
  refine @watch_preserves EndpointSlice (Metrics × World) (·.meta) (endpointSlicePredicate lc)
    enqueueForEndpointSlice
    (fun s s' => CountersGrow s.1 s'.1 ∧ s'.1.reconciliationsTotal = s.1.reconciliationsTotal)
    (fun s => ⟨.refl s.1, rfl⟩) (fun h₁ h₂ => ⟨h₁.1.trans h₂.1, h₂.2.trans h₁.2⟩) ?_ e s
  intro obj s
  rw [enqueueForEndpointSlice_metrics]
  exact ⟨⟨le_rfl, le_rfl, by simp, le_rfl, Nat.le_add_right _ _⟩, rfl⟩

/-- A pass counts itself once, and its failure at most once. -/
theorem reconcile_counters (req : NamespacedName) (metrics : Metrics) (w : World) :
    CountersGrow metrics (reconcile lc m scheme req metrics w).2.1 ∧
    (reconcile lc m scheme req metrics w).2.1.reconciliationsTotal =
      metrics.reconciliationsTotal + 1 := by
  obtain ⟨g, k, h⟩ := reconcile_metrics lc m scheme req metrics w
  rw [h]
  refine ⟨⟨Nat.le_succ _, Nat.le_add_right _ _, ?_, Nat.le_add_right _ _, le_rfl⟩, rfl⟩
  split <;> simp

theorem step_counters (s : Metrics × World) (st : Step) :
    CountersGrow s.1 (step lc m scheme s st).1 ∧
    (step lc m scheme s st).1.reconciliationsTotal =
      s.1.reconciliationsTotal + if st.isReconcile then 1 else 0 := by
  cases st with
  | reconcile req => exact reconcile_counters lc m scheme req s.1 s.2
  | sliceEvent e => exact watchEndpointSlice_counters lc e s

/-- Over every run of passes and EndpointSlice events, from any state, no counter falls, no
more passes fail than run, and `reconciliations_total` grows by the number of passes. -/
theorem runSteps_counters (s : Metrics × World) (steps : List Step) :
    CountersGrow s.1 (runSteps lc m scheme s steps).1 ∧
    (runSteps lc m scheme s steps).1.reconciliationsTotal =
      s.1.reconciliationsTotal + steps.countP Step.isReconcile := by
  induction steps generalizing s with
  | nil => exact ⟨.refl s.1, rfl⟩
  | cons st steps ih =>
    obtain ⟨hg, ht⟩ := step_counters lc m scheme s st
    obtain ⟨ihg, iht⟩ := ih (step lc m scheme s st)
    refine ⟨hg.trans ihg, ?_⟩
    simp only [runSteps, List.foldl_cons, List.countP_cons] at iht ⊢
    rw [iht, ht]
    omega

/-! ## The `hashrings_configured` gauge -/

/-- A receiver a `Get` returns is stored under the requested key. -/
theorem key_of_getThanosReceive {w w' : World} {req : NamespacedName} {receiver : ThanosReceive}
    (h : w.getThanosReceive req = (.ok receiver, w')) : receiver.meta.key = req := by
  unfold World.getThanosReceive World.read at h
  split at h
  · cases h
  · have hfound := (Prod.mk.inj h).1
    dsimp only at hfound
    cases hfind : w.store.thanosReceives.find? (·.meta.key == req) with
    | none => rw [hfind] at hfound; cases hfound
    | some r =>
      rw [hfind] at hfound
      cases hfound
      simpa using List.find?_some hfind

/-- `buildHashringConfig` sets its receiver's series to the number of its hashrings, or leaves
the gauge as it was. -/
theorem buildHashringConfig_gauge (receiver : ThanosReceive) (metrics : Metrics) (w : World) :
    (buildHashringConfig lc m receiver metrics w).2.1.hashringsConfigured =
      metrics.hashringsConfigured ∨
    (buildHashringConfig lc m receiver metrics w).2.1.hashringsConfigured =
      Function.update metrics.hashringsConfigured receiver.meta.key receiver.spec.hashrings.length := by
  have hconf : ∀ cm w, (configFromConfigMap lc m receiver cm metrics w).2.1.hashringsConfigured =
      metrics.hashringsConfigured ∨
      (configFromConfigMap lc m receiver cm metrics w).2.1.hashringsConfigured =
      Function.update metrics.hashringsConfigured receiver.meta.key receiver.spec.hashrings.length := by
    intro cm w
    unfold configFromConfigMap
    dsimp only
    split
    · exact .inl rfl
    · exact .inr rfl
  unfold buildHashringConfig
  split
  · split
    · exact .inl rfl
    · exact hconf _ _
  · exact hconf _ _

theorem desiredObjects_gauge (receiver : ThanosReceive) (metrics : Metrics) (w : World) :
    (desiredObjects lc m receiver metrics w).2.1 = (buildHashringConfig lc m receiver metrics w).2.1 := by
  unfold desiredObjects
  rcases buildHashringConfig lc m receiver metrics w with ⟨⟨_, _ | _⟩, _, _⟩
  · rfl
  · dsimp only
    split <;> rfl

theorem syncResources_gauge (receiver : ThanosReceive) (metrics : Metrics) (w : World) :
    (syncResources lc m scheme receiver metrics w).2.1.hashringsConfigured =
      (desiredObjects lc m receiver metrics w).2.1.hashringsConfigured := by
  unfold syncResources
  rcases desiredObjects lc m receiver metrics w with ⟨_ | objs, _, w'⟩
  · rfl
  · dsimp only
    rcases applyHashrings m scheme receiver objs w' with ⟨_, _, _⟩
    dsimp only
    split <;> rfl

/-- A pass leaves every other receiver's series of the gauge as it was. -/
theorem reconcile_gauge_other (req : NamespacedName) (metrics : Metrics) (w : World)
    {k : NamespacedName} (hk : k ≠ req) :
    (reconcile lc m scheme req metrics w).2.1.hashringsConfigured k = metrics.hashringsConfigured k := by
  unfold reconcile
  split
  · split <;> rfl
  · rename_i receiver w' hget
    have hkey := key_of_getThanosReceive hget
    split
    · rfl
    · generalize hmt : ({ metrics with reconciliationsTotal := metrics.reconciliationsTotal + 1 } :
        Metrics) = mt
      have hsync : (syncResources lc m scheme receiver mt w').2.1.hashringsConfigured k =
          metrics.hashringsConfigured k := by
        rw [syncResources_gauge, desiredObjects_gauge, ← hmt]
        rcases buildHashringConfig_gauge lc m receiver _ w' with h | h <;> rw [h]
        exact Function.update_noteq (hkey ▸ hk) _ _
      dsimp only
      split <;> rename_i h <;> rw [h] at hsync <;> exact hsync

/-- Over every run, the gauge's series of a receiver no pass of the run was for keeps its value:
passes for other receivers and EndpointSlice events never touch it. -/
theorem runSteps_gauge_other (s : Metrics × World) (steps : List Step) (k : NamespacedName)
    (hk : Step.reconcile k ∉ steps) :
    (runSteps lc m scheme s steps).1.hashringsConfigured k = s.1.hashringsConfigured k := by
  induction steps generalizing s with
  | nil => rfl
  | cons st steps ih =>
    rw [List.mem_cons, not_or] at hk
    have hstep : (step lc m scheme s st).1.hashringsConfigured k = s.1.hashringsConfigured k := by
      cases st with
      | reconcile req =>
        exact reconcile_gauge_other lc m scheme req s.1 s.2 fun h => hk.1 (h ▸ rfl)
      | sliceEvent e =>
        refine @watch_preserves EndpointSlice (Metrics × World) (·.meta) (endpointSlicePredicate lc)
          enqueueForEndpointSlice
          (fun s s' => s'.1.hashringsConfigured k = s.1.hashringsConfigured k)
          (fun _ => rfl) (fun h₁ h₂ => h₂.trans h₁) ?_ e s
        intro obj s
        rw [enqueueForEndpointSlice_metrics]
    exact (ih _ hk.2).trans hstep

/-- The cluster holding the receiver `r` of namespace `ns`, whose calls all go through. -/
def receiverWorld : World :=
  ⟨⟨[.thanosReceive twoHashringReceiver], by decide⟩, fun _ => none, [], []⟩

/-- A pass for `ns/r` leaves the series of the receiver of the same name in namespace `other`. -/
theorem runSteps_gauge_other_namespace :
    Step.reconcile ⟨"other", "r"⟩ ∉ [Step.reconcile twoHashringReceiver.meta.key] ∧
    (runSteps sampleLabels sampleManifests sampleScheme (initialMetrics, receiverWorld)
        [.reconcile twoHashringReceiver.meta.key]).1.hashringsConfigured ⟨"other", "r"⟩ =
      initialMetrics.hashringsConfigured ⟨"other", "r"⟩ := by
  have hk : Step.reconcile ⟨"other", "r"⟩ ∉ [Step.reconcile twoHashringReceiver.meta.key] := by
    simp [twoHashringReceiver, ObjectMeta.key]
  exact ⟨hk, runSteps_gauge_other sampleLabels sampleManifests sampleScheme _ _ _ hk⟩

example : (runSteps sampleLabels sampleManifests sampleScheme (initialMetrics, receiverWorld)
    [.reconcile twoHashringReceiver.meta.key]).1.hashringsConfigured ⟨"ns", "r"⟩ = 2 := by decide

end ThanosOperator.Receive.Controller
