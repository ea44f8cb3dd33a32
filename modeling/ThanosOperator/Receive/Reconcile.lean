import ThanosOperator.Receive.Hashring
import ThanosOperator.Apply

/-! # The receiver's reconcile pass and its metrics

`Reconcile` counts the pass and fetches the `ThanosReceive`: a failed `Get` is a client error,
and a missing receiver ends the pass quietly. A receiver being deleted gets the finalizer's
notice and nothing else. Otherwise `syncResources` applies the ingesters of `buildHashrings` and
then the hashring ConfigMap with the shared loop, and a pass that returns an error is counted as
failed. -/

namespace ThanosOperator.Receive.Reconcile
open ThanosOperator.Kube.Meta ThanosOperator.Kube.Objects ThanosOperator.Kube.Client
open ThanosOperator.Interfaces ThanosOperator.Apply ThanosOperator.Receive.Hashring

def receiveFinalizer : String := "monitoring.thanos.io/receive-finalizer"

/-- The format of the error `syncResources` returns when objects failed. -/
def hashringsCountFormat : String := "failed to create or update %d resources for the hashrings"

variable (lc : ManifestLabels) (m : Manifests) (scheme : Scheme)

/-- The objects `syncResources` applies, or the error that ends it before it applies any. -/
def desiredObjects (receiver : ThanosReceive) (metrics : Metrics) (w : World) :
    Except Error (List Object) × Metrics × World :=
  let objs := buildHashrings m receiver
  match buildHashringConfig lc m receiver metrics w with
  | ((conf, some err), metrics, w) =>
    if !err.isHashringsEmpty then
      (.error (.wrapf "failed to build hashring configuration: %w" [] err), metrics, w)
    else (.ok (objs ++ conf.toList), metrics, w)
  | ((conf, none), metrics, w) => (.ok (objs ++ conf.toList), metrics, w)

/-- The shared loop over the desired objects, owned by the receiver. -/
def applyHashrings (receiver : ThanosReceive) (objs : List Object) (w : World) :
    BitVec 32 × List ObjectOutcome × World :=
  applyObjects m scheme (.thanosReceive receiver) receiver.meta.namespace objs 0 w

def syncResources (receiver : ThanosReceive) (metrics : Metrics) (w : World) :
    Option Error × Metrics × World :=
  match desiredObjects lc m receiver metrics w with
  | (.error err, metrics, w) => (some err, metrics, w)
  | (.ok objs, metrics, w) =>
    let (errCount, _, w) := applyHashrings m scheme receiver objs w
    match countError hashringsCountFormat errCount with
    | some err =>
      (some err, { metrics with clientErrorsTotal := metrics.clientErrorsTotal + errCount.toInt.toNat },
        w)
    | none => (none, metrics, w)

def handleDeletionTimestamp (receiver : ThanosReceive) (w : World) : World :=
  if receiver.meta.containsFinalizer receiveFinalizer then
    { w with events := w.events ++
      [⟨receiver.meta.key, "Warning", "Deleting", "Custom Resource " ++ receiver.meta.name ++
        " is being deleted from the namespace " ++ receiver.meta.namespace⟩] }
  else w

/-- `Reconcile`; the `ctrl.Result` is always empty and left out. -/
def reconcile (req : NamespacedName) (metrics : Metrics) (w : World) :
    Option Error × Metrics × World :=
  let metrics := { metrics with reconciliationsTotal := metrics.reconciliationsTotal + 1 }
  match w.getThanosReceive req with
  | (.error err, w) =>
    let metrics := { metrics with clientErrorsTotal := metrics.clientErrorsTotal + 1 }
    if err.isNotFound then (none, metrics, w)
    else
      (some err,
        { metrics with reconciliationsFailedTotal := metrics.reconciliationsFailedTotal + 1 }, w)
  | (.ok receiver, w) =>
    if !receiver.meta.deletionTimestampIsZero then
      (none, metrics, handleDeletionTimestamp receiver w)
    else match syncResources lc m scheme receiver metrics w with
      | (some err, metrics, w) =>
        (some err,
          { metrics with reconciliationsFailedTotal := metrics.reconciliationsFailedTotal + 1 }, w)
      | (none, metrics, w) => (none, metrics, w)

/-- A run of passes, one per request, in order. -/
def run : List NamespacedName → Metrics → World → List (Option Error) × Metrics × World
  | [], metrics, w => ([], metrics, w)
  | req :: reqs, metrics, w =>
    let (r, metrics, w) := reconcile lc m scheme req metrics w
    let (rs, metrics, w) := run reqs metrics w
    (r :: rs, metrics, w)

theorem configFromConfigMap_metrics (receiver : ThanosReceive) (cm : ConfigMap) (metrics : Metrics)
    (w : World) :
    ∃ g, (configFromConfigMap lc m receiver cm metrics w).2.1 =
      { metrics with hashringsConfigured := g } := by
  unfold configFromConfigMap
  dsimp only
  split <;> exact ⟨_, rfl⟩

/-- `buildHashringConfig` changes no metric but the `hashrings_configured` gauge. -/
theorem buildHashringConfig_metrics (receiver : ThanosReceive) (metrics : Metrics) (w : World) :
    ∃ g, (buildHashringConfig lc m receiver metrics w).2.1 =
      { metrics with hashringsConfigured := g } := by
  unfold buildHashringConfig
  split
  · split
    · exact ⟨_, rfl⟩
    · exact configFromConfigMap_metrics lc m receiver _ metrics _
  · exact configFromConfigMap_metrics lc m receiver _ metrics _

theorem desiredObjects_metrics (receiver : ThanosReceive) (metrics : Metrics) (w : World) :
    ∃ g, (desiredObjects lc m receiver metrics w).2.1 = { metrics with hashringsConfigured := g } := by
  obtain ⟨g, hg⟩ := buildHashringConfig_metrics lc m receiver metrics w
  refine ⟨g, ?_⟩
  unfold desiredObjects
  split <;> rename_i h <;> rw [h] at hg
  · split <;> exact hg
  · exact hg

/-- `syncResources` changes the gauge and adds to `client_errors_total`, nothing else. -/
theorem syncResources_metrics (receiver : ThanosReceive) (metrics : Metrics) (w : World) :
    ∃ g k, (syncResources lc m scheme receiver metrics w).2.1 =
      { metrics with hashringsConfigured := g, clientErrorsTotal := metrics.clientErrorsTotal + k } := by
  obtain ⟨g, hd⟩ := desiredObjects_metrics lc m receiver metrics w
  unfold syncResources
  split <;> rename_i h <;> rw [h] at hd <;> dsimp only at hd <;> subst hd
  · exact ⟨g, 0, rfl⟩
  · dsimp only
    split
    · exact ⟨g, _, rfl⟩
    · exact ⟨g, 0, rfl⟩

/-- The pass ends in the world the loop leaves, or where `desiredObjects` stopped. -/
theorem syncResources_world (receiver : ThanosReceive) (metrics : Metrics) (w : World) :
    (syncResources lc m scheme receiver metrics w).2.2 =
      match desiredObjects lc m receiver metrics w with
      | (.error _, _, w) => w
      | (.ok objs, _, w) => (applyHashrings m scheme receiver objs w).2.2 := by
  unfold syncResources
  split
  · rfl
  · dsimp only
    split <;> rfl

/-- The receiver's pass applies, after the calls of `buildHashringConfig`, the ingesters and then
the hashring ConfigMap when `buildHashringConfig` returned no error or only `ErrHashringsEmpty`,
and applies nothing otherwise. -/
theorem syncResources_call_log (receiver : ThanosReceive) (metrics : Metrics) (w : World) :
    (syncResources lc m scheme receiver metrics w).2.2.calls =
      (buildHashringConfig lc m receiver metrics w).2.2.calls ++
        if (buildHashringConfig lc m receiver metrics w).1.2.all Error.isHashringsEmpty then
          (buildHashrings m receiver ++ (buildHashringConfig lc m receiver metrics w).1.1.toList).flatMap
            (applyCall m scheme (.thanosReceive receiver) receiver.meta.namespace)
        else [] := by
  rw [syncResources_world]
  unfold desiredObjects
  generalize buildHashringConfig lc m receiver metrics w = r
  obtain ⟨⟨conf, _ | err⟩, mt, w'⟩ := r
  · simp [applyHashrings, applyObjects_calls]
  · by_cases h : err.isHashringsEmpty <;> simp [h, applyHashrings, applyObjects_calls]

theorem syncResources_calls (receiver : ThanosReceive) (metrics : Metrics) (w : World) :
    (syncResources lc m scheme receiver metrics w).2.2.calls =
      (buildHashringConfig lc m receiver metrics w).2.2.calls ++
        if (buildHashringConfig lc m receiver metrics w).1.2.all Error.isHashringsEmpty then
          (buildHashrings m receiver ++ (buildHashringConfig lc m receiver metrics w).1.1.toList).flatMap
            (applyCall m scheme (.thanosReceive receiver) receiver.meta.namespace)
        else [] :=
  syncResources_call_log lc m scheme receiver metrics w

/-- A pass counts itself and its failure, may add client errors and set the gauge, and changes
no other metric. -/
theorem reconcile_metrics (req : NamespacedName) (metrics : Metrics) (w : World) :
    ∃ g k, (reconcile lc m scheme req metrics w).2.1 =
      { metrics with
        reconciliationsTotal := metrics.reconciliationsTotal + 1,
        reconciliationsFailedTotal := metrics.reconciliationsFailedTotal +
          if (reconcile lc m scheme req metrics w).1.isSome then 1 else 0,
        hashringsConfigured := g,
        clientErrorsTotal := metrics.clientErrorsTotal + k } := by
  unfold reconcile
  split
  · split <;> exact ⟨_, 1, rfl⟩
  · rename_i receiver w' _
    split
    · exact ⟨_, 0, rfl⟩
    · obtain ⟨g, k, hs⟩ := syncResources_metrics lc m scheme receiver
        { metrics with reconciliationsTotal := metrics.reconciliationsTotal + 1 } w'
      dsimp only
      split <;> rename_i h <;> rw [h] at hs <;> dsimp only at hs <;> subst hs <;> exact ⟨g, k, rfl⟩

/-- Every pass adds one to `reconciliations_total`, and one to `reconciliations_failed_total`
exactly when it returns an error. -/
theorem reconcile_counts (req : NamespacedName) (metrics : Metrics) (w : World) :
    (reconcile lc m scheme req metrics w).2.1.reconciliationsTotal =
      metrics.reconciliationsTotal + 1 ∧
    (reconcile lc m scheme req metrics w).2.1.reconciliationsFailedTotal =
      metrics.reconciliationsFailedTotal +
        if (reconcile lc m scheme req metrics w).1.isSome then 1 else 0 := by
  obtain ⟨g, k, h⟩ := reconcile_metrics lc m scheme req metrics w
  rw [h]
  exact ⟨rfl, rfl⟩

theorem run_cons (req : NamespacedName) (reqs : List NamespacedName) (metrics : Metrics)
    (w : World) :
    run lc m scheme (req :: reqs) metrics w =
      let r := reconcile lc m scheme req metrics w
      let rs := run lc m scheme reqs r.2.1 r.2.2
      (r.1 :: rs.1, rs.2) := rfl

/-- Over a run, `reconciliations_total` counts the passes and `reconciliations_failed_total`
the passes that returned an error. -/
theorem run_counts (reqs : List NamespacedName) (metrics : Metrics) (w : World) :
    (run lc m scheme reqs metrics w).2.1.reconciliationsTotal =
      metrics.reconciliationsTotal + reqs.length ∧
    (run lc m scheme reqs metrics w).2.1.reconciliationsFailedTotal =
      metrics.reconciliationsFailedTotal + (run lc m scheme reqs metrics w).1.countP Option.isSome := by
  induction reqs generalizing metrics w with
  | nil => simp [run]
  | cons req reqs ih =>
    obtain ⟨ht, hf⟩ := reconcile_counts lc m scheme req metrics w
    obtain ⟨iht, ihf⟩ := ih (reconcile lc m scheme req metrics w).2.1
      (reconcile lc m scheme req metrics w).2.2
    simp only [run_cons]
    rw [iht, ihf, ht, hf, List.length_cons, List.countP_cons]
    constructor <;> omega

/-- The receiver `r` stored; call `n` of the pass times out and every other call goes through. -/
def timeoutAt (n : Nat) : World where
  store := ⟨[.thanosReceive twoHashringReceiver], by decide⟩
  faults := fun k => if k = n then some (.other "ServerTimeout") else none
  calls := []
  events := []

theorem reconcile_timeout_uncounted :
    ((reconcile lc m scheme twoHashringReceiver.meta.key initialMetrics (timeoutAt 1)).1.isSome ∧
      (reconcile lc m scheme twoHashringReceiver.meta.key initialMetrics
        (timeoutAt 1)).2.1.reconciliationsFailedTotal = 1 ∧
      (reconcile lc m scheme twoHashringReceiver.meta.key initialMetrics
        (timeoutAt 1)).2.1.clientErrorsTotal = 0) ∧
    ((reconcile lc m scheme twoHashringReceiver.meta.key initialMetrics (timeoutAt 2)).1.isSome ∧
      (reconcile lc m scheme twoHashringReceiver.meta.key initialMetrics
        (timeoutAt 2)).2.1.reconciliationsFailedTotal = 1 ∧
      (reconcile lc m scheme twoHashringReceiver.meta.key initialMetrics
        (timeoutAt 2)).2.1.clientErrorsTotal = 0) :=
  ⟨⟨rfl, rfl, rfl⟩, ⟨rfl, rfl, rfl⟩⟩

end ThanosOperator.Receive.Reconcile
