import ThanosOperator.Interfaces

/-! # The StoreAPI endpoints of a querier

`getStoreAPIServiceEndpoints` lists the Services of the query's namespace that hold every pair of
the `StoreLabelSelector`'s `MatchLabels` and makes one `manifestquery.Endpoint` of each, in list
order. The slice is filled in place: for slot `i` the loop first writes the port of the Service's
`grpc` port, then overwrites the whole slot with a literal that sets no port. The selector's
`MatchExpressions` are never read. -/

namespace ThanosOperator.Query.Endpoints
open ThanosOperator.Kube.Meta ThanosOperator.Kube.Objects ThanosOperator.Kube.Client
open ThanosOperator.Interfaces

variable (lc : ManifestLabels)

/-- The `if`/`else if` chain over the strictness labels. -/
def endpointType (svc : Service) : EndpointType :=
  if svc.meta.labels.hasLabel lc.strictLabel then .strictLabel
  else if svc.meta.labels.hasLabel lc.groupStrictLabel then .groupStrictLabel
  else if svc.meta.labels.hasLabel lc.groupLabel then .groupLabel
  else .regularLabel

/-- The inner loop: the port of the first of the Service's ports named `grpc`. -/
def grpcPort? (svc : Service) : Option Int := (svc.ports.find? (·.name == "grpc")).map (·.port)

/-- The literal `manifestquery.Endpoint{ServiceName, Namespace, Type}` the loop stores. -/
def endpointOf (svc : Service) : Endpoint :=
  { serviceName := svc.meta.name, «namespace» := svc.meta.namespace, type := endpointType lc svc }

/-- The body of the loop over `services.Items`, for slot `i`. -/
def fillEndpoint (endpoints : List Endpoint) (i : Nat) (svc : Service) : List Endpoint :=
  let endpoints := match grpcPort? svc with
    | some p => endpoints.modify (fun (e : Endpoint) => { e with port := p }) i
    | none => endpoints
  endpoints.set i (endpointOf lc svc)

/-- `for i, svc := range services.Items`. -/
def fillEndpoints : Nat → List Service → List Endpoint → List Endpoint
  | _, [], endpoints => endpoints
  | i, svc :: rest, endpoints => fillEndpoints (i + 1) rest (fillEndpoint lc endpoints i svc)

/-- What `client.MatchingLabels(MatchLabels)` with `client.InNamespace` lets through. -/
def selectsService (query : ThanosQuery) (svc : Service) : Bool :=
  listed query.meta.namespace query.spec.storeLabelSelector.matchLabels svc.meta

def getStoreAPIServiceEndpoints (query : ThanosQuery) (w : World) : List Endpoint × World :=
  match w.listServices query.meta.namespace query.spec.storeLabelSelector.matchLabels with
  | (.error _, w) => ([], w)
  | (.ok items, w) =>
    if items.length = 0 then ([], w)
    else (fillEndpoints lc 0 items (List.replicate items.length default), w)

theorem fillEndpoint_eq (endpoints : List Endpoint) (i : Nat) (svc : Service) :
    fillEndpoint lc endpoints i svc = endpoints.set i (endpointOf lc svc) := by
  unfold fillEndpoint
  split
  · rw [List.modify_eq_set, List.set_set]
  · rfl

theorem fillEndpoints_eq (pre : List Endpoint) (items : List Service) :
    fillEndpoints lc pre.length items (pre ++ List.replicate items.length default) =
      pre ++ items.map (endpointOf lc) := by
  induction items generalizing pre with
  | nil => simp [fillEndpoints]
  | cons svc rest ih =>
    have hset : (pre ++ List.replicate (rest.length + 1) default).set pre.length (endpointOf lc svc)
        = (pre ++ [endpointOf lc svc]) ++ List.replicate rest.length default := by
      rw [List.set_append_right _ _ (Nat.le_refl _)]
      simp [List.replicate_succ]
    simpa [fillEndpoints, fillEndpoint_eq, hset] using ih (pre ++ [endpointOf lc svc])

/-- The spec of `getStoreAPIServiceEndpoints`: one listed call, and when it goes through, the
literal endpoint of every selected Service in store order. -/
theorem getStoreAPIServiceEndpoints_eq (query : ThanosQuery) (w : World) :
    getStoreAPIServiceEndpoints lc query w =
      (match w.faults w.calls.length with
        | some _ => []
        | none => (w.store.services.filter (selectsService query)).map (endpointOf lc),
       w.log (.list .service query.meta.namespace query.spec.storeLabelSelector.matchLabels)) := by
  unfold getStoreAPIServiceEndpoints World.listServices World.read
  cases w.faults w.calls.length with
  | some _ => rfl
  | none =>
    have hs : selectsService query = fun svc =>
        listed query.meta.namespace query.spec.storeLabelSelector.matchLabels svc.meta := rfl
    dsimp only
    rw [hs]
    split
    · rename_i h; simp [List.length_eq_zero.mp h]
    · simpa using fillEndpoints_eq lc [] _

/-- Every endpoint leaves the loop with port 0: the literal overwrites the port written before. -/
theorem getStoreAPIServiceEndpoints_port (query : ThanosQuery) (w : World) :
    (getStoreAPIServiceEndpoints lc query w).1.all (·.port == 0) := by
  rw [getStoreAPIServiceEndpoints_eq]
  cases w.faults w.calls.length with
  | some _ => rfl
  | none =>
    refine List.all_eq_true.mpr fun _ he => ?_
    obtain ⟨svc, -, rfl⟩ := List.mem_map.mp he
    rfl

/-- The strictness labels, highest precedence first, with the class each one marks. -/
def strictnessPrecedence : List (String × EndpointType) :=
  [(lc.strictLabel, .strictLabel), (lc.groupStrictLabel, .groupStrictLabel),
    (lc.groupLabel, .groupLabel)]

/-- The class of the highest-precedence strictness label key a Service carries, `RegularLabel`
when it carries none. -/
def precedenceClass (svc : Service) : EndpointType :=
  ((strictnessPrecedence lc).find? (svc.meta.labels.hasLabel ·.1)).elim .regularLabel (·.2)

theorem endpointType_eq_precedenceClass (svc : Service) :
    endpointType lc svc = precedenceClass lc svc := by
  unfold endpointType precedenceClass
  split_ifs <;> simp_all [strictnessPrecedence]

/-- The endpoints a whole `metav1.LabelSelector` describes: one per Service of the namespace
that every `MatchLabels` pair and every `MatchExpressions` requirement selects, with the port
of its first `grpc` port (0 without one). -/
def selectorEndpoints (query : ThanosQuery) (services : List Service) : List Endpoint :=
  (services.filter fun svc => svc.meta.namespace == query.meta.namespace &&
      query.spec.storeLabelSelector.selectorMatches svc.meta.labels).map
    fun svc => { endpointOf lc svc with port := (grpcPort? svc).getD 0 }

/-- A query whose selector asks for the `team` label through `MatchExpressions` only. -/
def teamQuery : ThanosQuery where
  meta := { name := "q", «namespace» := "ns" }
  spec := { image := none, logLevel := none, logFormat := none, replicas := 1,
            querierReplicaLabels := [],
            storeLabelSelector := ⟨GoMap.empty, [⟨"team", .opExists, []⟩]⟩ }

/-- Service `a` without the `team` label and Service `b` with it and a `grpc` port 10901. -/
def teamWorld : World where
  store := ⟨[.service ⟨{ name := "a", «namespace» := "ns" }, []⟩,
            .service ⟨{ name := "b", «namespace» := "ns", labels := ⟨[("team", "x")], by decide⟩ },
              [⟨"grpc", 10901⟩]⟩], by decide⟩
  faults := fun _ => none
  calls := []
  events := []

/-- `getStoreAPIServiceEndpoints` federates by `MatchLabels` alone and drops every port. For
every query and cluster, once the `List` goes through, the endpoints are one per Service of the
query's namespace that holds every `MatchLabels` pair, in store order, each with the Service's
name and namespace, the class of its highest-precedence strictness label, and port 0. So the
query whose selector asks for `team` through `MatchExpressions` federates Service `a`, which
lacks the label, and federates `b` with port 0 where the selector's reading gives its `grpc`
port 10901. -/
theorem getStoreAPIServiceEndpoints_by_matchLabels :
    (∀ (lc : ManifestLabels) (query : ThanosQuery) (w : World),
      (getStoreAPIServiceEndpoints lc query w).1 =
        match w.faults w.calls.length with
        | some _ => []
        | none =>
          (w.store.services.filter fun svc => svc.meta.namespace == query.meta.namespace &&
              query.spec.storeLabelSelector.matchLabels.selectorMatches svc.meta.labels).map
            fun svc => { serviceName := svc.meta.name, «namespace» := svc.meta.namespace,
                         type := precedenceClass lc svc, port := 0 }) ∧
    (getStoreAPIServiceEndpoints sampleLabels teamQuery teamWorld).1 =
      [⟨"a", "ns", .regularLabel, 0⟩, ⟨"b", "ns", .regularLabel, 0⟩] ∧
    selectorEndpoints sampleLabels teamQuery teamWorld.store.services =
      [⟨"b", "ns", .regularLabel, 10901⟩] := by
  refine ⟨fun lc query w => ?_, rfl, rfl⟩
  rw [getStoreAPIServiceEndpoints_eq]
  cases w.faults w.calls.length with
  | some _ => rfl
  | none => exact List.map_congr_left fun svc _ => by rw [endpointOf, endpointType_eq_precedenceClass]

end ThanosOperator.Query.Endpoints
