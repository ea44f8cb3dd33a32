import ThanosOperator.Query.Endpoints
import ThanosOperator.Kube.Watch

/-! # Which Service events reconcile which querier

`SetupWithManager` watches Services twice. `Owns(&corev1.Service{})` asks, on every event, for
the Service's controller owner when that is a `ThanosQuery`. `Watches` runs `enqueueForService`
behind two predicates: `GenerationChangedPredicate`, which only filters updates, and a label
predicate that wants both the part-of label and the store-API label. The handler's map function
checks the store-API label again, lists the queriers of the Service's namespace and asks for a
reconcile of each one whose `MatchLabels` the Service holds. -/

namespace ThanosOperator.Query.Watch
open ThanosOperator.Kube.Meta ThanosOperator.Kube.Objects ThanosOperator.Kube.Client
open ThanosOperator.Interfaces ThanosOperator.Query.Endpoints ThanosOperator.Kube.Watch

/-- The `MatchLabels` of the Service predicate: the part-of label and the store-API label. -/
def carriesDiscoveryLabels (lc : ManifestLabels) (svc : Service) : Bool :=
  svc.meta.labels.get? lc.partOfLabel == some lc.defaultPartOfLabel &&
    svc.meta.labels.get? lc.defaultStoreAPILabel == some lc.defaultStoreAPIValue

/-- `servicePredicate`, the `predicate.LabelSelectorPredicate` `SetupWithManager` builds. -/
def servicePredicate (lc : ManifestLabels) : Event Service → Bool :=
  objectPredicate (carriesDiscoveryLabels lc)

/-- The map function of `enqueueForService`. -/
def enqueueForService (lc : ManifestLabels) (obj : Service) (w : World) :
    List NamespacedName × World :=
  if obj.meta.labels.get lc.defaultStoreAPILabel != lc.defaultStoreAPIValue then ([], w)
  else match w.listThanosQueries obj.meta.namespace with
    | (.error _, w) => ([], w)
    | (.ok queriers, w) =>
      (queriers.filterMap fun query =>
        if query.spec.storeLabelSelector.matchLabels.selectorMatches obj.meta.labels then
          some ⟨query.meta.namespace, query.meta.name⟩
        else none, w)

/-- The requests one Service event puts on the querier's queue through
`Watches(&corev1.Service{}, r.enqueueForService(), ...)`. -/
def watchService (lc : ManifestLabels) : Event Service → World → List NamespacedName × World :=
  watch (·.meta) (servicePredicate lc) (enqueueForService lc)

/-- The requests one Service event puts on the querier's queue through `Owns(&corev1.Service{})`:
the Service's controller owner, when it is a `ThanosQuery`. -/
def ownsService : Event Service → List NamespacedName :=
  enqueueForOwner (·.meta) "ThanosQuery"

/-- The requests one Service event puts on the querier's queue, through both watches
`SetupWithManager` registers on Services. -/
def serviceEvent (lc : ManifestLabels) (e : Event Service) (w : World) :
    List NamespacedName × World :=
  (ownsService e ++ (watchService lc e w).1, (watchService lc e w).2)

/-- No two queriers of a store share a key. -/
theorem Store.thanosQuery_eq_of_key {s : Store} {q₁ q₂ : ThanosQuery}
    (h₁ : q₁ ∈ s.thanosQueries) (h₂ : q₂ ∈ s.thanosQueries) (hk : q₁.meta.key = q₂.meta.key) :
    q₁ = q₂ := by
  simp only [Store.thanosQueries, List.mem_filterMap] at h₁ h₂
  obtain ⟨o₁, ho₁, hq₁⟩ := h₁
  obtain ⟨o₂, ho₂, hq₂⟩ := h₂
  cases o₁ <;> cases o₂ <;> simp only [Object.asThanosQuery?, Option.some.injEq,
    reduceCtorEq] at hq₁ hq₂
  subst hq₁ hq₂
  have := List.inj_on_of_nodup_map s.keys_nodup ho₁ ho₂ (by simp [Object.key, Object.kind,
    Object.meta, hk])
  simpa using this

/-- When the Service carries the store-API label and the `List` goes through, the map function
asks for exactly the queriers of the Service's namespace that select it. -/
theorem enqueueForService_eq (lc : ManifestLabels) (obj : Service) (w : World)
    (hLabel : obj.meta.labels.get lc.defaultStoreAPILabel = lc.defaultStoreAPIValue)
    (hList : w.faults w.calls.length = none) :
    (enqueueForService lc obj w).1 =
      (w.store.thanosQueries.filter fun q => selectsService q obj).map (·.meta.key) := by
  simp only [enqueueForService, hLabel, bne_self_eq_false, Bool.false_eq_true, if_false,
    World.listThanosQueries, World.read, hList]
  simp only [selectsService, listed, GoMap.selectorMatches_empty, Bool.and_true]
  induction w.store.thanosQueries with
  | nil => rfl
  | cons q qs ih =>
    by_cases hn : q.meta.namespace = obj.meta.namespace
    · by_cases hm : q.spec.storeLabelSelector.matchLabels.selectorMatches obj.meta.labels <;>
        simp [List.filter_cons, ObjectMeta.key, hn, hm, ih]
    · simp [List.filter_cons, hn, Ne.symm hn, ih]

theorem storeAPILabel_of_carries {lc : ManifestLabels} {svc : Service}
    (hd : carriesDiscoveryLabels lc svc = true) :
    svc.meta.labels.get lc.defaultStoreAPILabel = lc.defaultStoreAPIValue := by
  simp only [carriesDiscoveryLabels, Bool.and_eq_true, beq_iff_eq] at hd
  exact GoMap.get_of_get? hd.2

/-- A querier of the store is among the map function's requests exactly when the Service
carries the store-API label and the querier selects it. -/
theorem mem_enqueueForService (lc : ManifestLabels) (obj : Service) (query : ThanosQuery)
    (w : World) (hQuery : query ∈ w.store.thanosQueries) (hList : w.faults w.calls.length = none) :
    query.meta.key ∈ (enqueueForService lc obj w).1 ↔
      obj.meta.labels.get lc.defaultStoreAPILabel = lc.defaultStoreAPIValue ∧
        selectsService query obj = true := by
  by_cases hLabel : obj.meta.labels.get lc.defaultStoreAPILabel = lc.defaultStoreAPIValue
  · simp only [hLabel, true_and, enqueueForService_eq lc obj w hLabel hList, List.mem_map,
      List.mem_filter]
    constructor
    · rintro ⟨q, ⟨hq, hs⟩, hk⟩
      rwa [← Store.thanosQuery_eq_of_key hq hQuery hk]
    · exact fun hs => ⟨query, ⟨hQuery, hs⟩, rfl⟩
  · simp [enqueueForService, hLabel]

/-- The map function lists the queriers at most once and changes nothing else. -/
theorem enqueueForService_world (lc : ManifestLabels) (obj : Service) (w : World) :
    (enqueueForService lc obj w).2.store = w.store ∧
    (enqueueForService lc obj w).2.faults = w.faults ∧
    ((enqueueForService lc obj w).2.calls.length = w.calls.length ∨
      (enqueueForService lc obj w).2.calls.length = w.calls.length + 1) := by
  unfold enqueueForService
  split
  · simp
  · split <;> rename_i heq <;> have hw := congrArg Prod.snd heq <;>
      simp only [World.listThanosQueries, World.read_snd] at hw <;> subst hw <;> simp

/-- Through the label watch, the creation or deletion of a Service reconciles a querier of the
store exactly when the Service carries both discovery labels and the querier federates it. -/
theorem mem_watchService_object (lc : ManifestLabels) {svc : Service} {e : Event Service}
    (query : ThanosQuery) (w : World) (hQuery : query ∈ w.store.thanosQueries)
    (hList : w.faults w.calls.length = none) (he : e = .create svc ∨ e = .delete svc) :
    query.meta.key ∈ (watchService lc e w).1 ↔
      carriesDiscoveryLabels lc svc = true ∧ selectsService query svc = true := by
  rw [watchService, servicePredicate, watch_of_object he]
  by_cases hd : carriesDiscoveryLabels lc svc = true
  · simp only [hd, if_true, mem_addRequests, List.not_mem_nil, false_or, true_and,
      mem_enqueueForService lc svc query w hQuery hList, storeAPILabel_of_carries hd]
  · simp [hd]

/-- Through the label watch, an update of a Service reconciles a querier of the store exactly
when the generation changed, the new Service carries both discovery labels, and the querier
federates the new Service or federated the old one while it carried the store-API label. -/
theorem mem_watchService_update (lc : ManifestLabels) (old new : Service)
    (query : ThanosQuery) (w : World) (hQuery : query ∈ w.store.thanosQueries)
    (hList : ∀ k < 2, w.faults (w.calls.length + k) = none) :
    query.meta.key ∈ (watchService lc (.update old new) w).1 ↔
      new.meta.generation ≠ old.meta.generation ∧ carriesDiscoveryLabels lc new = true ∧
        ((old.meta.labels.get lc.defaultStoreAPILabel = lc.defaultStoreAPIValue ∧
            selectsService query old = true) ∨ selectsService query new = true) := by
  by_cases hg : new.meta.generation = old.meta.generation
  · simp [watchService, watch_update_of_generation hg, hg]
  by_cases hd : carriesDiscoveryLabels lc new = true
  · obtain ⟨hs, hf, hc⟩ := enqueueForService_world lc old w
    have hList₀ : w.faults w.calls.length = none := by simpa using hList 0 (by omega)
    have hList₁ : (enqueueForService lc old w).2.faults
        (enqueueForService lc old w).2.calls.length = none := by
      rw [hf]
      rcases hc with hc | hc <;> rw [hc]
      exacts [hList₀, hList 1 (by omega)]
    rw [watchService, servicePredicate, watch_update hg hd]
    simp only [mem_addRequests, List.not_mem_nil, false_or,
      mem_enqueueForService lc old query w hQuery hList₀,
      mem_enqueueForService lc new query _ (by rw [hs]; exact hQuery) hList₁,
      storeAPILabel_of_carries hd, true_and, hg, hd, ne_eq, not_false_eq_true]
  · simp [watchService, watch, servicePredicate, objectPredicate, hd]

/-- On the creation or deletion of a Service, a querier of the store is reconciled exactly when
it is the Service's controller owner, or the Service carries both discovery labels and the
querier federates it. -/
theorem serviceEvent_enqueues_iff (lc : ManifestLabels) (svc : Service) (query : ThanosQuery)
    (w : World) (hQuery : query ∈ w.store.thanosQueries) (hList : w.faults w.calls.length = none) :
    ∀ e ∈ [Event.create svc, Event.delete svc],
      query.meta.key ∈ (serviceEvent lc e w).1 ↔
        (∃ ref, svc.meta.controllerOf = some ref ∧ ref.kind = "ThanosQuery" ∧
          svc.meta.namespace = query.meta.namespace ∧ ref.name = query.meta.name) ∨
        (carriesDiscoveryLabels lc svc = true ∧ selectsService query svc = true) := by
  intro e he
  have he' : e = .create svc ∨ e = .delete svc := by simpa using he
  rw [serviceEvent, List.mem_append, ownsService, enqueueForOwner_of_object he', mem_ownerRequests,
    mem_watchService_object lc query w hQuery hList he']
  simp only [ObjectMeta.key, NamespacedName.mk.injEq]

/-- On an update of a Service, a querier of the store is reconciled exactly when it is the
controller owner of the old or the new Service, whatever changed, or when the generation
changed, the new Service carries both discovery labels, and the querier federates the new
Service or federated the old one while it carried the store-API label. An update of a Service
the querier does not control that keeps the generation, as a change of labels alone does,
reconciles nothing. -/
theorem serviceEvent_update_enqueues_iff (lc : ManifestLabels) (old new : Service)
    (query : ThanosQuery) (w : World) (hQuery : query ∈ w.store.thanosQueries)
    (hList : ∀ k < 2, w.faults (w.calls.length + k) = none) :
    query.meta.key ∈ (serviceEvent lc (.update old new) w).1 ↔
      (∃ svc ∈ [old, new], ∃ ref, svc.meta.controllerOf = some ref ∧ ref.kind = "ThanosQuery" ∧
          svc.meta.namespace = query.meta.namespace ∧ ref.name = query.meta.name) ∨
      (new.meta.generation ≠ old.meta.generation ∧ carriesDiscoveryLabels lc new = true ∧
        ((old.meta.labels.get lc.defaultStoreAPILabel = lc.defaultStoreAPIValue ∧
            selectsService query old = true) ∨ selectsService query new = true)) := by
  rw [serviceEvent, List.mem_append, ownsService, mem_enqueueForOwner_update, mem_ownerRequests,
    mem_ownerRequests, mem_watchService_update lc old new query w hQuery hList]
  simp only [ObjectMeta.key, NamespacedName.mk.injEq, List.mem_cons, List.mem_singleton,
    List.not_mem_nil, or_false, exists_eq_or_imp, exists_eq_left]

/-- A querier with empty `MatchLabels`, which federates every Service of its namespace. -/
def openQuery : ThanosQuery where
  meta := { name := "q", «namespace» := "ns" }
  spec := { image := none, logLevel := none, logFormat := none, replicas := 1,
            querierReplicaLabels := [], storeLabelSelector := ⟨GoMap.empty, []⟩ }

/-- A Service without labels in the querier's namespace. -/
def plainService : Service := ⟨{ name := "s", «namespace» := "ns" }, []⟩

/-- A Service of the querier's namespace with both discovery labels, at a given generation. -/
def labelledService (generation : Nat) : Service :=
  ⟨{ name := "store", «namespace» := "ns",
     labels := ⟨[("part-of", "thanos-operator"), ("store-api", "true")], by decide⟩,
     generation := generation }, []⟩

def openQueryWorld : World where
  store := ⟨[.thanosQuery openQuery], by decide⟩
  faults := fun _ => none
  calls := []
  events := []

theorem serviceEvent_enqueues_iff_labelled :
    openQuery ∈ openQueryWorld.store.thanosQueries ∧
    openQueryWorld.faults openQueryWorld.calls.length = none ∧
    ∀ e ∈ [Event.create (labelledService 1), Event.delete (labelledService 1)],
      openQuery.meta.key ∈ (serviceEvent sampleLabels e openQueryWorld).1 ↔
        (∃ ref, (labelledService 1).meta.controllerOf = some ref ∧ ref.kind = "ThanosQuery" ∧
          (labelledService 1).meta.namespace = openQuery.meta.namespace ∧
          ref.name = openQuery.meta.name) ∨
        (carriesDiscoveryLabels sampleLabels (labelledService 1) = true ∧
          selectsService openQuery (labelledService 1) = true) :=
  ⟨by decide, rfl, serviceEvent_enqueues_iff sampleLabels (labelledService 1) openQuery
    openQueryWorld (by decide) rfl⟩

/-- The labelled Service reconciles the querier through `Watches`; a Service the querier
controls, without labels, reconciles it through `Owns` alone. -/
example : openQuery.meta.key ∈ (serviceEvent sampleLabels (.create (labelledService 1))
      openQueryWorld).1 ∧
    openQuery.meta.key ∈ (serviceEvent sampleLabels
      (.create ⟨{ name := "q", «namespace» := "ns",
                  ownerReferences := [⟨"ThanosQuery", "q", true⟩] }, []⟩) openQueryWorld).1 := by
  decide

theorem serviceEvent_update_enqueues_iff_labelled :
    openQuery ∈ openQueryWorld.store.thanosQueries ∧
    (∀ k < 2, openQueryWorld.faults (openQueryWorld.calls.length + k) = none) ∧
    (openQuery.meta.key ∈
        (serviceEvent sampleLabels (.update (labelledService 1) (labelledService 2))
          openQueryWorld).1 ↔
      (∃ svc ∈ [labelledService 1, labelledService 2], ∃ ref,
          svc.meta.controllerOf = some ref ∧ ref.kind = "ThanosQuery" ∧
          svc.meta.namespace = openQuery.meta.namespace ∧ ref.name = openQuery.meta.name) ∨
      ((labelledService 2).meta.generation ≠ (labelledService 1).meta.generation ∧
        carriesDiscoveryLabels sampleLabels (labelledService 2) = true ∧
        (((labelledService 1).meta.labels.get sampleLabels.defaultStoreAPILabel =
            sampleLabels.defaultStoreAPIValue ∧
            selectsService openQuery (labelledService 1) = true) ∨
          selectsService openQuery (labelledService 2) = true))) :=
  ⟨by decide, fun _ _ => rfl, serviceEvent_update_enqueues_iff sampleLabels (labelledService 1)
    (labelledService 2) openQuery openQueryWorld (by decide) fun _ _ => rfl⟩

/-- A new generation of the labelled Service reconciles the querier; the same generation does
not. -/
example : openQuery.meta.key ∈ (serviceEvent sampleLabels
      (.update (labelledService 1) (labelledService 2)) openQueryWorld).1 ∧
    openQuery.meta.key ∉ (serviceEvent sampleLabels
      (.update (labelledService 1) (labelledService 1)) openQueryWorld).1 := by
  decide

/-- Whatever the label constants, the querier federates the unlabelled Service it does not
control, yet its creation reconciles nothing. -/
theorem serviceEvent_misses_federated_service :
    ¬ ∃ lc : ManifestLabels,
      (openQuery.meta.key ∈ (serviceEvent lc (.create plainService) openQueryWorld).1 ↔
        selectsService openQuery plainService = true) := by
  rintro ⟨lc, h⟩
  have hd : ¬ carriesDiscoveryLabels lc plainService = true := by
    simp [carriesDiscoveryLabels, plainService]
  rw [serviceEvent, watchService, servicePredicate, watch_of_object (.inl rfl), if_neg hd] at h
  exact absurd (h.mpr (by decide)) (List.not_mem_nil _)

end ThanosOperator.Query.Watch
