import ThanosOperator.Query.Endpoints
import ThanosOperator.Converge

/-! # The querier's reconcile pass

`Reconcile` fetches the `ThanosQuery`; a missing one ends the pass quietly. Otherwise
`syncResources` builds the querier's objects, its StoreAPI endpoints included, and applies them
with the shared loop of `Apply`. -/

namespace ThanosOperator.Query.Reconcile
open ThanosOperator.Kube.Meta ThanosOperator.Kube.Objects ThanosOperator.Kube.Client
open ThanosOperator.Interfaces ThanosOperator.Query.Endpoints ThanosOperator.Apply
open ThanosOperator.Converge

variable (lc : ManifestLabels) (m : Manifests) (scheme : Scheme)

def buildQuerier (query : ThanosQuery) (w : World) : List Object × World :=
  let metaOpts := m.applyDefaults
    { name := query.meta.name, «namespace» := query.meta.namespace,
      replicas := query.spec.replicas, labels := query.meta.labels, image := query.spec.image,
      logLevel := query.spec.logLevel, logFormat := query.spec.logFormat }
  let (endpoints, w) := getStoreAPIServiceEndpoints lc query w
  (m.buildQuerier
    { options := metaOpts, replicaLabels := query.spec.querierReplicaLabels, timeout := "15m",
      lookbackDelta := "5m", maxConcurrent := 20, endpoints := endpoints }, w)

/-- The format of the error `syncResources` returns when objects failed. -/
def querierCountFormat : String := "failed to create or update %d resources for the querier"

/-- The shared loop over what `buildQuerier` built, owned by the query. -/
def applyDesired (query : ThanosQuery) (w : World) : BitVec 32 × List ObjectOutcome × World :=
  let (objs, w) := buildQuerier lc m query w
  applyObjects m scheme (.thanosQuery query) query.meta.namespace objs 0 w

def syncResources (query : ThanosQuery) (w : World) : Option Error × World :=
  let (errCount, _, w) := applyDesired lc m scheme query w
  (countError querierCountFormat errCount, w)

/-- `Reconcile`; the `ctrl.Result` is always empty and left out. -/
def reconcile (req : NamespacedName) (w : World) : Option Error × World :=
  match w.getThanosQuery req with
  | (.error err, w) => if err.isNotFound then (none, w) else (some err, w)
  | (.ok query, w) => syncResources lc m scheme query w

theorem buildQuerier_world (query : ThanosQuery) (w : World) :
    (buildQuerier lc m query w).2 =
      w.log (.list .service query.meta.namespace query.spec.storeLabelSelector.matchLabels) := by
  simp only [buildQuerier, getStoreAPIServiceEndpoints_eq]

theorem syncResources_fst (query : ThanosQuery) (w : World) :
    (syncResources lc m scheme query w).1 =
      countError querierCountFormat (applyDesired lc m scheme query w).1 := rfl

/-- The pass makes the one `List` of Services, then a `CreateOrUpdate` for each object
`buildQuerier` built whose owner step goes through, in order, and no other call. -/
theorem syncResources_call_log (query : ThanosQuery) (w : World) :
    (syncResources lc m scheme query w).2.calls =
      w.calls ++ [.list .service query.meta.namespace query.spec.storeLabelSelector.matchLabels] ++
        (buildQuerier lc m query w).1.flatMap
          (applyCall m scheme (.thanosQuery query) query.meta.namespace) := by
  simp [syncResources, applyDesired, applyObjects_calls, buildQuerier_world]

/-- What `buildQuerier` builds depends on the cluster only through the endpoints it federates. -/
theorem buildQuerier_fst_eq {query : ThanosQuery} {w w' : World}
    (h : (getStoreAPIServiceEndpoints lc query w').1 = (getStoreAPIServiceEndpoints lc query w).1) :
    (buildQuerier lc m query w').1 = (buildQuerier lc m query w).1 := by
  unfold buildQuerier
  rcases h₁ : getStoreAPIServiceEndpoints lc query w with ⟨e, _⟩
  rcases h₂ : getStoreAPIServiceEndpoints lc query w' with ⟨e', _⟩
  rw [h₁, h₂] at h
  cases h
  rfl

/-- A querier pass converges. After a pass that configured every object it built, with distinct
keys and an idempotent mutate function, a second pass for the same querier over the cluster it
left, with every call answered and the same endpoints federated, reports every object unchanged,
returns no error and writes nothing. -/
theorem syncResources_converges (query : ThanosQuery) (w w₂ : World)
    (hmut : ∀ e d r, m.mutateFuncFor e d = .ok r → m.mutateFuncFor r d = .ok r)
    (hkeys : ((buildQuerier lc m query w).1.flatMap
      (applyCall m scheme (.thanosQuery query) query.meta.namespace)).Nodup)
    (hok : ∀ out ∈ (applyDesired lc m scheme query w).2.1, out.failed = false)
    (hstore : w₂.store = (syncResources lc m scheme query w).2.store)
    (hfree : ∀ i, w₂.faults i = none)
    (hends : (getStoreAPIServiceEndpoints lc query w₂).1 =
      (getStoreAPIServiceEndpoints lc query w).1) :
    (applyDesired lc m scheme query w₂).2.1 =
      (buildQuerier lc m query w).1.map (fun _ => .configured .unchanged) ∧
    (syncResources lc m scheme query w₂).1 = none ∧
    (syncResources lc m scheme query w₂).2.store = w₂.store := by
  have hc := applyObjects_establishes m scheme _ _ _ 0 _ hmut hkeys hok
  have hloop : applyDesired lc m scheme query w₂ =
      (0, (buildQuerier lc m query w).1.map (fun _ => .configured .unchanged),
        { (buildQuerier lc m query w₂).2 with
          calls := (buildQuerier lc m query w₂).2.calls ++ (buildQuerier lc m query w).1.flatMap
            (applyCall m scheme (.thanosQuery query) query.meta.namespace) }) := by
    show applyObjects m scheme _ _ (buildQuerier lc m query w₂).1 0 (buildQuerier lc m query w₂).2 = _
    rw [buildQuerier_fst_eq lc m hends]
    refine applyObjects_of_converged m scheme _ _ _ 0 _ (fun i => ?_) ?_
    · rw [buildQuerier_world]
      exact hfree i
    · rw [buildQuerier_world, World.log_store, hstore]
      exact hc
  refine ⟨by rw [hloop], by rw [syncResources_fst, hloop]; rfl, ?_⟩
  show (applyDesired lc m scheme query w₂).2.2.store = w₂.store
  rw [hloop, buildQuerier_world]
  rfl

/-- Manifests whose querier is one Deployment recording how many endpoints it federates. -/
def endpointCountQuerier : Manifests :=
  { sampleManifests with
    buildQuerier := fun opts =>
      [.workload "Deployment" { name := opts.options.name, «namespace» := opts.options.namespace }
        (toString opts.endpoints.length)] }

theorem syncResources_converges_team :
    (∀ e d r, endpointCountQuerier.mutateFuncFor e d = .ok r →
      endpointCountQuerier.mutateFuncFor r d = .ok r) ∧
    ((buildQuerier sampleLabels endpointCountQuerier teamQuery teamWorld).1.flatMap
      (applyCall endpointCountQuerier sampleScheme (.thanosQuery teamQuery) "ns")).Nodup ∧
    (∀ out ∈ (applyDesired sampleLabels endpointCountQuerier sampleScheme teamQuery teamWorld).2.1,
      out.failed = false) ∧
    (getStoreAPIServiceEndpoints sampleLabels teamQuery
        (syncResources sampleLabels endpointCountQuerier sampleScheme teamQuery teamWorld).2).1 =
      (getStoreAPIServiceEndpoints sampleLabels teamQuery teamWorld).1 ∧
    (applyDesired sampleLabels endpointCountQuerier sampleScheme teamQuery
        (syncResources sampleLabels endpointCountQuerier sampleScheme teamQuery teamWorld).2).2.1 =
      (buildQuerier sampleLabels endpointCountQuerier teamQuery teamWorld).1.map
        (fun _ => .configured .unchanged) ∧
    (syncResources sampleLabels endpointCountQuerier sampleScheme teamQuery
        (syncResources sampleLabels endpointCountQuerier sampleScheme teamQuery teamWorld).2).1 =
      none ∧
    (syncResources sampleLabels endpointCountQuerier sampleScheme teamQuery
        (syncResources sampleLabels endpointCountQuerier sampleScheme teamQuery teamWorld).2).2.store =
      (syncResources sampleLabels endpointCountQuerier sampleScheme teamQuery teamWorld).2.store := by
  have hmut : ∀ e d r, endpointCountQuerier.mutateFuncFor e d = .ok r →
      endpointCountQuerier.mutateFuncFor r d = .ok r := fun _ _ _ h => by
    injection h with h
    rw [← h]
    rfl
  have hkeys : ((buildQuerier sampleLabels endpointCountQuerier teamQuery teamWorld).1.flatMap
      (applyCall endpointCountQuerier sampleScheme (.thanosQuery teamQuery) "ns")).Nodup := by
    decide
  have hok : ∀ out ∈ (applyDesired sampleLabels endpointCountQuerier sampleScheme teamQuery
      teamWorld).2.1, out.failed = false := by decide
  have hends : (getStoreAPIServiceEndpoints sampleLabels teamQuery
      (syncResources sampleLabels endpointCountQuerier sampleScheme teamQuery teamWorld).2).1 =
      (getStoreAPIServiceEndpoints sampleLabels teamQuery teamWorld).1 := by decide
  exact ⟨hmut, hkeys, hok, hends, syncResources_converges sampleLabels endpointCountQuerier
    sampleScheme teamQuery teamWorld _ hmut hkeys hok rfl (fun _ => rfl) hends⟩

end ThanosOperator.Query.Reconcile
