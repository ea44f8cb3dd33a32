import ThanosOperator.Receive.Hashring
import ThanosOperator.Kube.Watch

/-! # Which EndpointSlice events reconcile which receiver

`buildController` watches EndpointSlices through `enqueueForEndpointSlice`, behind
`GenerationChangedPredicate` and a label predicate that wants the ingest component label. The
map function follows the slice's only owner reference to a Service, gets it, and follows the
Service's only owner reference to a `ThanosReceive`. Each request it returns is counted in
`endpoint_event_reconciliations_total`, before the handler drops duplicates. -/

namespace ThanosOperator.Receive.Watch
open ThanosOperator.Kube.Meta ThanosOperator.Kube.Objects ThanosOperator.Kube.Client
open ThanosOperator.Kube.Watch ThanosOperator.Interfaces ThanosOperator.Receive.Hashring

/-- The `MatchLabels` of the EndpointSlice predicate: the ingest component label. -/
def carriesIngestLabel (lc : ManifestLabels) (eps : EndpointSlice) : Bool :=
  eps.meta.labels.get? lc.componentLabel == some lc.ingestComponentName

/-- `endpointSlicePredicate`, the `predicate.LabelSelectorPredicate` `buildController` builds. -/
def endpointSlicePredicate (lc : ManifestLabels) : Event EndpointSlice → Bool :=
  objectPredicate (carriesIngestLabel lc)

/-- The name of an object's owner when it has exactly one owner reference, of the given kind. -/
def soleOwner (kind : String) (m : ObjectMeta) : Option String :=
  match m.ownerReferences with
  | [ref] => if ref.kind = kind then some ref.name else none
  | _ => none

/-- The map function of `enqueueForEndpointSlice`, with the counter it increments. -/
def enqueueForEndpointSlice (obj : EndpointSlice) (s : Metrics × World) :
    List NamespacedName × Metrics × World :=
  match soleOwner "Service" obj.meta with
  | none => ([], s)
  | some svcName =>
    match s.2.getService ⟨obj.meta.namespace, svcName⟩ with
    | (.error _, w) => ([], s.1, w)
    | (.ok svc, w) =>
      match soleOwner "ThanosReceive" svc.meta with
      | none => ([], s.1, w)
      | some name =>
        ([⟨obj.meta.namespace, name⟩],
          { s.1 with
            endpointWatchesReconciliationsTotal := s.1.endpointWatchesReconciliationsTotal + 1 },
          w)

/-- The requests one EndpointSlice event puts on the receiver's queue. -/
def watchEndpointSlice (lc : ManifestLabels) :
    Event EndpointSlice → Metrics × World → List NamespacedName × Metrics × World :=
  watch (·.meta) (endpointSlicePredicate lc) enqueueForEndpointSlice

/-- The map function counts every request it returns, and changes no other metric. -/
theorem enqueueForEndpointSlice_metrics (obj : EndpointSlice) (s : Metrics × World) :
    (enqueueForEndpointSlice obj s).2.1 =
      { s.1 with
        endpointWatchesReconciliationsTotal :=
          s.1.endpointWatchesReconciliationsTotal + (enqueueForEndpointSlice obj s).1.length } := by
  unfold enqueueForEndpointSlice
  split
  · rfl
  · split
    · rfl
    · split <;> rfl

end ThanosOperator.Receive.Watch
