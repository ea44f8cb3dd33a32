import ThanosOperator.Interfaces

/-! # The ingesters and the hashring configuration of a receiver

`buildHashrings` turns every declared hashring into the options of one ingester, named after the
receiver and the hashring. `buildHashringConfig` reads the receiver's ConfigMap (a missing one
reads as the empty ConfigMap), lists, for every hashring in declaration order, the endpoint
slices Kubernetes labels with that ingester's Service name, records them with the hashring's
settings and a priority of `n - i` in a map keyed by the ingester's name, sets the
`hashrings_configured` gauge to `n` and hands everything to `receive.BuildHashrings`. -/

namespace ThanosOperator.Receive.Hashring
open ThanosOperator.Kube.Meta ThanosOperator.Kube.Objects ThanosOperator.Kube.Client
open ThanosOperator.Interfaces

/-- The receive reconciler's Prometheus metrics. Counters are read as exact naturals; the
`hashrings_configured` gauge is kept per resource name and namespace. -/
structure Metrics where
  reconciliationsTotal : Nat
  reconciliationsFailedTotal : Nat
  hashringsConfigured : NamespacedName → Nat
  endpointWatchesReconciliationsTotal : Nat
  clientErrorsTotal : Nat

/-- Every metric at zero, as `promauto` registers them. -/
def initialMetrics : Metrics := ⟨0, 0, fun _ => 0, 0, 0⟩

variable (lc : ManifestLabels) (m : Manifests)

/-- The loop body of `buildHashrings`: the options of one hashring's ingester. -/
def ingesterOptions (receiver : ThanosReceive) (hashring : IngestorHashringSpec) :
    IngesterOptions :=
  let objStoreSecret := hashring.objectStorageConfig.getD receiver.spec.defaultObjectStorageConfig
  let metaOpts := m.applyDefaults
    { name := ingesterNameFromParent receiver.meta.name hashring.name,
      «namespace» := receiver.meta.namespace, replicas := hashring.replicas,
      labels := m.mergeLabels receiver.meta.labels hashring.labels, image := receiver.spec.image,
      logLevel := receiver.spec.logLevel, logFormat := receiver.spec.logFormat }
  { options := metaOpts, retention := hashring.retention, storageSize := hashring.storageSize,
    objStoreSecret := objStoreSecret, externalLabels := hashring.externalLabels }

def buildHashrings (receiver : ThanosReceive) : List Object :=
  m.buildIngesters (receiver.spec.hashrings.map (ingesterOptions m receiver))

/-- The `receive.HashringMeta` of hashring `i` of `n`, with its endpoint slices. -/
def hashringMeta (n i : Nat) (hashring : IngestorHashringSpec) (eps : List EndpointSlice) :
    HashringMeta :=
  { desiredReplicasReplicas := hashring.replicas, originalName := hashring.name,
    tenants := hashring.tenants, tenantMatcherType := hashring.tenantMatcherType,
    associatedEndpointSlices := eps, priority := (n : Int) - i }

/-- The loop of `buildHashringConfig` from hashring `i` on, filling `settings`; the first
failed `List` ends it. -/
def collectSettings (receiver : ThanosReceive) (n : Nat) :
    Nat → List IngestorHashringSpec → GoMap HashringMeta → World →
      Except Error (GoMap HashringMeta) × World
  | _, [], settings, w => (.ok settings, w)
  | i, hashring :: rest, settings, w =>
    let labelValue := ingesterNameFromParent receiver.meta.name hashring.name
    match w.listEndpointSlices receiver.meta.namespace
        (.singleton lc.labelServiceName labelValue) with
    | (.error err, w) =>
      (.error (.wrapf "failed to list endpoint slices for resource %s: %w"
        [.str receiver.meta.name] err), w)
    | (.ok eps, w) =>
      collectSettings receiver n (i + 1) rest (settings.insert labelValue (hashringMeta n i hashring eps)) w

/-- The ConfigMap a `Get` that found nothing leaves behind. -/
def emptyConfigMap : ConfigMap := ⟨{ name := "", «namespace» := "" }, GoMap.empty⟩

/-- The `receive.HashringOptions` literal, around the settings the loop filled. -/
def hashringOptions (receiver : ThanosReceive) (settings : GoMap HashringMeta) : HashringOptions :=
  { options := { name := receiver.meta.name, «namespace» := receiver.meta.namespace,
                 replicas := 0, labels := receiver.meta.labels, image := none,
                 logLevel := none, logFormat := none },
    desiredReplicationFactor := receiver.spec.replicationFactor,
    hashringSettings := settings }

/-- The rest of `buildHashringConfig` once the ConfigMap `cm` is read. -/
def configFromConfigMap (receiver : ThanosReceive) (cm : ConfigMap) (metrics : Metrics)
    (w : World) : (Option Object × Option Error) × Metrics × World :=
  let totalHashrings := receiver.spec.hashrings.length
  match collectSettings lc receiver totalHashrings 0 receiver.spec.hashrings GoMap.empty w with
  | (.error err, w) => ((none, some err), metrics, w)
  | (.ok settings, w) =>
    let opts := hashringOptions receiver settings
    let metrics := { metrics with
      hashringsConfigured :=
        Function.update metrics.hashringsConfigured receiver.meta.key totalHashrings }
    let built := m.buildHashrings cm opts
    ((some built.1, built.2), metrics, w)

/-- `buildHashringConfig`, with Go's `(client.Object, error)` pair as its first component. -/
def buildHashringConfig (receiver : ThanosReceive) (metrics : Metrics) (w : World) :
    (Option Object × Option Error) × Metrics × World :=
  match w.getConfigMap receiver.meta.key with
  | (.error err, w) =>
    if !err.isNotFound then
      ((none, some (.wrapf "failed to get config map for resource %s: %w"
        [.str receiver.meta.name] err)), metrics, w)
    else configFromConfigMap lc m receiver emptyConfigMap metrics w
  | (.ok cm, w) => configFromConfigMap lc m receiver cm metrics w

/-- The name of a hashring's ingester, which keys its settings. -/
def ingesterKey (receiver : ThanosReceive) (hashring : IngestorHashringSpec) : String :=
  ingesterNameFromParent receiver.meta.name hashring.name

/-- The endpoint slices of the receiver's namespace that Kubernetes labels with the Service
name of a hashring's ingester. -/
def slicesFor (receiver : ThanosReceive) (s : Store) (hashring : IngestorHashringSpec) :
    List EndpointSlice :=
  s.endpointSlices.filter
    (listed receiver.meta.namespace (.singleton lc.labelServiceName (ingesterKey receiver hashring))
      ·.meta)

/-- The loop, with every `List` going through and keys it has not met, appends one entry per
hashring in order. -/
theorem collectSettings_ok (receiver : ThanosReceive) (n : Nat) (hs : List IngestorHashringSpec)
    (i : Nat) (settings : GoMap HashringMeta) (w : World)
    (hKeys : (settings.entries.map Prod.fst ++ hs.map (ingesterKey receiver)).Nodup)
    (hf : ∀ k < hs.length, w.faults (w.calls.length + k) = none) :
    ∃ settings', (collectSettings lc receiver n i hs settings w).1 = .ok settings' ∧
      settings'.entries = settings.entries ++ (hs.enumFrom i).map fun (j, h) =>
        (ingesterKey receiver h, hashringMeta n j h (slicesFor lc receiver w.store h)) := by
  induction hs generalizing i settings w with
  | nil => exact ⟨settings, rfl, by simp⟩
  | cons h rest ih =>
    have h0 : w.faults w.calls.length = none := hf 0 (by simp)
    have hnew : ingesterKey receiver h ∉ settings.entries.map Prod.fst :=
      fun hm => (List.nodup_append.mp hKeys).2.2 hm (List.mem_cons_self _ _)
    have hins := GoMap.insert_entries_of_not_mem
      (hashringMeta n i h (slicesFor lc receiver w.store h)) hnew
    let c := Call.list .endpointSlice receiver.meta.namespace
      (.singleton lc.labelServiceName (ingesterKey receiver h))
    obtain ⟨s', hs', he⟩ := ih (i + 1) _ (w.log c)
      (by rw [hins]; simpa [ingesterKey] using hKeys)
      (fun k hk => by
        rw [show (w.log c).calls.length + k = w.calls.length + (k + 1) by simp; omega]
        exact hf (k + 1) (by simp; omega))
    refine ⟨s', ?_, ?_⟩
    · simpa [collectSettings, World.listEndpointSlices, World.read, h0, ingesterKey, slicesFor]
        using hs'
    · rw [he, hins]
      simp [List.enumFrom_cons]

/-- The ConfigMap the `Get` reads: the stored one, or the empty one when there is none. -/
def readConfigMap (receiver : ThanosReceive) (s : Store) : ConfigMap :=
  (s.configMaps.find? (·.meta.key == receiver.meta.key)).getD emptyConfigMap

/-- A `Get` that goes through hands the rest of the pass the stored or the empty ConfigMap. -/
theorem buildHashringConfig_of_get (receiver : ThanosReceive) (metrics : Metrics) (w : World)
    (h : w.faults w.calls.length = none) :
    buildHashringConfig lc m receiver metrics w =
      configFromConfigMap lc m receiver (readConfigMap receiver w.store) metrics
        (w.log (.get .configMap receiver.meta.key)) := by
  simp only [buildHashringConfig, World.getConfigMap, World.read, h, readConfigMap]
  cases w.store.configMaps.find? (·.meta.key == receiver.meta.key) <;> rfl

/-- Once the loop went through, the pass sets the gauge to `n` and hands the settings over. -/
theorem configFromConfigMap_ok (receiver : ThanosReceive) (cm : ConfigMap) (metrics : Metrics)
    (w : World) (settings : GoMap HashringMeta)
    (hok : (collectSettings lc receiver receiver.spec.hashrings.length 0 receiver.spec.hashrings
      GoMap.empty w).1 = .ok settings) :
    configFromConfigMap lc m receiver cm metrics w =
      ((some (m.buildHashrings cm (hashringOptions receiver settings)).1,
          (m.buildHashrings cm (hashringOptions receiver settings)).2),
        { metrics with
          hashringsConfigured :=
            Function.update metrics.hashringsConfigured receiver.meta.key
              receiver.spec.hashrings.length },
        (collectSettings lc receiver receiver.spec.hashrings.length 0 receiver.spec.hashrings
          GoMap.empty w).2) := by
  unfold configFromConfigMap
  dsimp only
  generalize collectSettings lc receiver receiver.spec.hashrings.length 0 receiver.spec.hashrings
    GoMap.empty w = p at hok ⊢
  obtain ⟨r, w'⟩ := p
  simp only at hok
  subst hok
  rfl

/-- The entries the loop of `buildHashringConfig` fills, in declaration order. -/
def settingsEntries (receiver : ThanosReceive) (s : Store) : List (String × HashringMeta) :=
  receiver.spec.hashrings.enum.map fun (i, h) =>
    (ingesterKey receiver h,
      hashringMeta receiver.spec.hashrings.length i h (slicesFor lc receiver s h))

/-- With distinct hashring names and every call answered, the loop after the ConfigMap `Get`
fills exactly these entries. -/
theorem collectSettings_of_get (receiver : ThanosReceive) (w : World)
    (hNames : (receiver.spec.hashrings.map (·.name)).Nodup)
    (hCalls : ∀ k ≤ receiver.spec.hashrings.length, w.faults (w.calls.length + k) = none) :
    ∃ settings, (collectSettings lc receiver receiver.spec.hashrings.length 0
        receiver.spec.hashrings GoMap.empty (w.log (.get .configMap receiver.meta.key))).1 =
        .ok settings ∧
      settings.entries = settingsEntries lc receiver w.store := by
  have hKeys : (receiver.spec.hashrings.map (ingesterKey receiver)).Nodup := by
    simpa [ingesterKey, List.map_map, Function.comp_def] using
      hNames.map (ingesterNameFromParent_injective receiver.meta.name)
  obtain ⟨settings, hok, he⟩ := collectSettings_ok lc receiver _ receiver.spec.hashrings 0
    GoMap.empty (w.log (.get .configMap receiver.meta.key)) (by simpa using hKeys)
    (fun k hk => by
      rw [show (w.log (.get .configMap receiver.meta.key)).calls.length + k =
        w.calls.length + (k + 1) by simp; omega]
      exact hCalls (k + 1) hk)
  exact ⟨settings, hok, by simpa [settingsEntries, List.enum_eq_enumFrom] using he⟩

theorem settingsEntries_priorities (receiver : ThanosReceive) (s : Store) :
    (settingsEntries lc receiver s).map (·.2.priority) =
      (List.range receiver.spec.hashrings.length).map
        fun (i : Nat) => (receiver.spec.hashrings.length : Int) - i := by
  rw [settingsEntries, ← List.enum_map_fst, List.map_map, List.map_map]
  rfl

/-- The entries are keyed by the names `buildHashrings` gives the ingesters, in order, when
`ApplyDefaults` keeps the name it is given. -/
theorem settingsEntries_keys (receiver : ThanosReceive) (s : Store)
    (hDefaults : ∀ o, (m.applyDefaults o).name = o.name) :
    (settingsEntries lc receiver s).map Prod.fst =
      (receiver.spec.hashrings.map (ingesterOptions m receiver)).map (·.options.name) := by
  rw [settingsEntries, List.map_map, List.map_map, ← List.enum_map_snd receiver.spec.hashrings,
    List.map_map, List.enum_map_snd]
  exact List.map_congr_left fun _ _ => by simp [ingesterKey, ingesterOptions, hDefaults]

/-- What `buildHashringConfig` hands `receive.BuildHashrings`, once the ConfigMap `Get` and every
`List` go through: the options literal around one settings entry per hashring, in declaration
order, keyed by the name `buildHashrings` gives the hashring's ingester, carrying the hashring's
fields, the endpoint slices listed under that name and the priority `n - i`. -/
theorem buildHashringConfig_settings (receiver : ThanosReceive) (metrics : Metrics) (w : World)
    (hNames : (receiver.spec.hashrings.map (·.name)).Nodup)
    (hDefaults : ∀ o, (m.applyDefaults o).name = o.name)
    (hCalls : ∀ k ≤ receiver.spec.hashrings.length, w.faults (w.calls.length + k) = none) :
    ∃ opts : HashringOptions,
      (buildHashringConfig lc m receiver metrics w).1 =
        (some (m.buildHashrings (readConfigMap receiver w.store) opts).1,
          (m.buildHashrings (readConfigMap receiver w.store) opts).2) ∧
      opts.options =
        { name := receiver.meta.name, «namespace» := receiver.meta.namespace, replicas := 0,
          labels := receiver.meta.labels, image := none, logLevel := none, logFormat := none } ∧
      opts.desiredReplicationFactor = receiver.spec.replicationFactor ∧
      opts.hashringSettings.entries = receiver.spec.hashrings.enum.map (fun (i, h) =>
        (ingesterNameFromParent receiver.meta.name h.name,
          { desiredReplicasReplicas := h.replicas, originalName := h.name, tenants := h.tenants,
            tenantMatcherType := h.tenantMatcherType,
            associatedEndpointSlices := w.store.endpointSlices.filter fun eps =>
              listed receiver.meta.namespace
                (.singleton lc.labelServiceName (ingesterNameFromParent receiver.meta.name h.name))
                eps.meta,
            priority := (receiver.spec.hashrings.length : Int) - i })) ∧
      opts.hashringSettings.entries.map Prod.fst =
        (receiver.spec.hashrings.map (ingesterOptions m receiver)).map (·.options.name) ∧
      (opts.hashringSettings.entries.map (·.2.priority)).Pairwise (· > ·) ∧
      (∀ p ∈ opts.hashringSettings.entries.map (·.2.priority),
        1 ≤ p ∧ p ≤ (receiver.spec.hashrings.length : Int)) ∧
      (buildHashringConfig lc m receiver metrics w).2.1.hashringsConfigured receiver.meta.key =
        opts.hashringSettings.size := by
  obtain ⟨settings, hok, he⟩ := collectSettings_of_get lc receiver w hNames hCalls
  have hcfg := buildHashringConfig_of_get lc m receiver metrics w (by simpa using hCalls 0 (by omega))
  rw [configFromConfigMap_ok lc m _ _ _ _ settings hok] at hcfg
  have hp := settingsEntries_priorities lc receiver w.store
  refine ⟨hashringOptions receiver settings, by rw [hcfg], rfl, rfl, he, ?_, ?_, ?_, ?_⟩ <;>
    dsimp only [hashringOptions]
  · rw [he, settingsEntries_keys lc m receiver w.store hDefaults]
  · rw [he, hp, List.pairwise_map]
    exact (List.pairwise_lt_range _).imp fun h => by omega
  · rw [he, hp]
    intro p hp'
    obtain ⟨i, hi, rfl⟩ := List.mem_map.mp hp'
    have := List.mem_range.mp hi
    omega
  · rw [hcfg]
    simp [GoMap.size, he, settingsEntries]

/-- A hashring of the given name with one tenant and three replicas. -/
def sampleHashring (name : String) : IngestorHashringSpec :=
  { name := name, labels := GoMap.empty, externalLabels := GoMap.empty, replicas := 3,
    retention := "2h", storageSize := "100Mi", objectStorageConfig := none,
    tenants := ["tenant"], tenantMatcherType := "exact" }

/-- A receiver declaring the hashrings `a` and `b`. -/
def twoHashringReceiver : ThanosReceive :=
  ⟨{ name := "r", «namespace» := "ns" },
   { image := none, logLevel := none, logFormat := none, replicationFactor := 1,
     defaultObjectStorageConfig := ⟨"secret", "key"⟩,
     hashrings := [sampleHashring "a", sampleHashring "b"] }⟩

/-- The hashring ConfigMap the sample manifests build for receiver `r` from an empty read. -/
def twoHashringConfigMap : ConfigMap := ⟨{ name := "r", «namespace» := "ns" }, GoMap.empty⟩

/-- An empty cluster whose calls all go through. -/
def emptyWorld : World := ⟨Store.empty, fun _ => none, [], []⟩

theorem buildHashringConfig_settings_two :
    (twoHashringReceiver.spec.hashrings.map (·.name)).Nodup ∧
    (∀ o, (sampleManifests.applyDefaults o).name = o.name) ∧
    (∀ k ≤ twoHashringReceiver.spec.hashrings.length,
      emptyWorld.faults (emptyWorld.calls.length + k) = none) ∧
    ∃ opts : HashringOptions,
      (buildHashringConfig sampleLabels sampleManifests twoHashringReceiver initialMetrics
          emptyWorld).1 =
        (some (sampleManifests.buildHashrings (readConfigMap twoHashringReceiver emptyWorld.store)
            opts).1,
          (sampleManifests.buildHashrings (readConfigMap twoHashringReceiver emptyWorld.store)
            opts).2) ∧
      opts.options =
        { name := twoHashringReceiver.meta.name, «namespace» := twoHashringReceiver.meta.namespace,
          replicas := 0, labels := twoHashringReceiver.meta.labels, image := none,
          logLevel := none, logFormat := none } ∧
      opts.desiredReplicationFactor = twoHashringReceiver.spec.replicationFactor ∧
      opts.hashringSettings.entries = twoHashringReceiver.spec.hashrings.enum.map (fun (i, h) =>
        (ingesterNameFromParent twoHashringReceiver.meta.name h.name,
          { desiredReplicasReplicas := h.replicas, originalName := h.name, tenants := h.tenants,
            tenantMatcherType := h.tenantMatcherType,
            associatedEndpointSlices := emptyWorld.store.endpointSlices.filter fun eps =>
              listed twoHashringReceiver.meta.namespace
                (.singleton sampleLabels.labelServiceName
                  (ingesterNameFromParent twoHashringReceiver.meta.name h.name))
                eps.meta,
            priority := (twoHashringReceiver.spec.hashrings.length : Int) - i })) ∧
      opts.hashringSettings.entries.map Prod.fst =
        (twoHashringReceiver.spec.hashrings.map
          (ingesterOptions sampleManifests twoHashringReceiver)).map (·.options.name) ∧
      (opts.hashringSettings.entries.map (·.2.priority)).Pairwise (· > ·) ∧
      (∀ p ∈ opts.hashringSettings.entries.map (·.2.priority),
        1 ≤ p ∧ p ≤ (twoHashringReceiver.spec.hashrings.length : Int)) ∧
      (buildHashringConfig sampleLabels sampleManifests twoHashringReceiver initialMetrics
          emptyWorld).2.1.hashringsConfigured twoHashringReceiver.meta.key =
        opts.hashringSettings.size :=
  ⟨by decide, fun _ => rfl, fun _ _ => rfl,
    buildHashringConfig_settings sampleLabels sampleManifests twoHashringReceiver initialMetrics
      emptyWorld (by decide) (fun _ => rfl) fun _ _ => rfl⟩

end ThanosOperator.Receive.Hashring
