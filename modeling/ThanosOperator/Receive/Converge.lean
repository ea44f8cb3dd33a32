import ThanosOperator.Operator

/-! # The receiver's pass converges

The objects a receiver's pass applies are its ingesters and its hashring ConfigMap, built from
the ConfigMap and the EndpointSlices it reads. Once they are stable, the pass is a fixpoint:
over the cluster left by a pass that configured all of them, a second pass that builds the
same objects, with every call answered, returns no error, counts no client error and writes
nothing, since building them only reads. -/

namespace ThanosOperator.Receive.Converge
open ThanosOperator.Kube.Meta ThanosOperator.Kube.Objects ThanosOperator.Kube.Client
open ThanosOperator.Interfaces ThanosOperator.Apply ThanosOperator.Converge ThanosOperator.Operator
open ThanosOperator.Receive.Hashring ThanosOperator.Receive.Reconcile
open ThanosOperator.Receive.Controller (receiverWorld)

variable (lc : ManifestLabels) (m : Manifests) (scheme : Scheme)

/-- A pass whose objects were all configured leaves the cluster converged for them. -/
theorem syncResources_converged (receiver : ThanosReceive) (metrics : Metrics) (w : World)
    {objs : List Object}
    (hmut : ∀ e d r, m.mutateFuncFor e d = .ok r → m.mutateFuncFor r d = .ok r)
    (hdes : (desiredObjects lc m receiver metrics w).1 = .ok objs)
    (hkeys : (objs.flatMap (applyCall m scheme (.thanosReceive receiver) receiver.meta.namespace)).Nodup)
    (hok : ∀ out ∈ (applyHashrings m scheme receiver objs
      (desiredObjects lc m receiver metrics w).2.2).2.1, out.failed = false) :
    Converged m scheme (.thanosReceive receiver) receiver.meta.namespace objs
      (syncResources lc m scheme receiver metrics w).2.2.store := by
  rw [syncResources_world]
  rcases hd : desiredObjects lc m receiver metrics w with ⟨r, mt, w₁⟩
  rw [hd] at hdes hok
  cases hdes
  exact applyObjects_establishes m scheme _ _ objs 0 w₁ hmut hkeys hok

/-- The receiver's pass converges. After a pass that configured every object it built, with
distinct keys and an idempotent mutate function, a second pass for the receiver over the
cluster it left, building the same objects with every call answered, returns no error, counts
no client error (the metrics are those `buildHashringConfig` left) and leaves every object of
the cluster as it was. -/
theorem syncResources_fixpoint (receiver : ThanosReceive) (metrics metrics₂ : Metrics)
    (w w₂ : World) (objs : List Object)
    (hmut : ∀ e d r, m.mutateFuncFor e d = .ok r → m.mutateFuncFor r d = .ok r)
    (hdes : (desiredObjects lc m receiver metrics w).1 = .ok objs)
    (hkeys : (objs.flatMap (applyCall m scheme (.thanosReceive receiver) receiver.meta.namespace)).Nodup)
    (hok : ∀ out ∈ (applyHashrings m scheme receiver objs
      (desiredObjects lc m receiver metrics w).2.2).2.1, out.failed = false)
    (hstore : w₂.store = (syncResources lc m scheme receiver metrics w).2.2.store)
    (hfree : ∀ i, w₂.faults i = none)
    (hdes₂ : (desiredObjects lc m receiver metrics₂ w₂).1 = .ok objs) :
    (syncResources lc m scheme receiver metrics₂ w₂).1 = none ∧
    (syncResources lc m scheme receiver metrics₂ w₂).2.1 =
      (desiredObjects lc m receiver metrics₂ w₂).2.1 ∧
    ∀ k, (syncResources lc m scheme receiver metrics₂ w₂).2.2.store.get k = w₂.store.get k := by
  have hc := syncResources_converged lc m scheme receiver metrics w hmut hdes hkeys hok
  have hr := footprint_desiredObjects lc m receiver metrics₂ w₂
  unfold syncResources
  rcases hd : desiredObjects lc m receiver metrics₂ w₂ with ⟨r, mt, w₃⟩
  rw [hd] at hdes₂ hr
  cases hdes₂
  have hconv :
      Converged m scheme (.thanosReceive receiver) receiver.meta.namespace objs w₃.store :=
    fun obj hobj => by
      obtain ⟨o, r, ho, hs, hrk, hm⟩ := hc obj hobj
      exact ⟨o, r, ho, by rw [get_of_footprint_read hr, hstore, hs], hrk, hm⟩
  have hloop : applyHashrings m scheme receiver objs w₃ = _ :=
    applyObjects_of_converged m scheme _ _ objs 0 w₃
      (fun i => by rw [hr.faults]; exact hfree i) hconv
  dsimp only
  rw [hloop, show countError hashringsCountFormat 0 = none from rfl]
  dsimp only
  exact ⟨rfl, rfl, get_of_footprint_read hr⟩

theorem syncResources_fixpoint_two :
    (∀ e d r, sampleManifests.mutateFuncFor e d = .ok r → sampleManifests.mutateFuncFor r d = .ok r) ∧
    (desiredObjects sampleLabels sampleManifests twoHashringReceiver initialMetrics receiverWorld).1 =
      .ok [.configMap twoHashringConfigMap] ∧
    ([Object.configMap twoHashringConfigMap].flatMap (applyCall sampleManifests sampleScheme
      (.thanosReceive twoHashringReceiver) twoHashringReceiver.meta.namespace)).Nodup ∧
    (∀ out ∈ (applyHashrings sampleManifests sampleScheme twoHashringReceiver [.configMap twoHashringConfigMap]
      (desiredObjects sampleLabels sampleManifests twoHashringReceiver initialMetrics
        receiverWorld).2.2).2.1, out.failed = false) ∧
    (desiredObjects sampleLabels sampleManifests twoHashringReceiver initialMetrics
      (syncResources sampleLabels sampleManifests sampleScheme twoHashringReceiver initialMetrics
        receiverWorld).2.2).1 = .ok [.configMap twoHashringConfigMap] ∧
    (syncResources sampleLabels sampleManifests sampleScheme twoHashringReceiver initialMetrics
      (syncResources sampleLabels sampleManifests sampleScheme twoHashringReceiver initialMetrics
        receiverWorld).2.2).1 = none ∧
    (syncResources sampleLabels sampleManifests sampleScheme twoHashringReceiver initialMetrics
      (syncResources sampleLabels sampleManifests sampleScheme twoHashringReceiver initialMetrics
        receiverWorld).2.2).2.1 =
      (desiredObjects sampleLabels sampleManifests twoHashringReceiver initialMetrics
        (syncResources sampleLabels sampleManifests sampleScheme twoHashringReceiver initialMetrics
          receiverWorld).2.2).2.1 ∧
    ∀ k, (syncResources sampleLabels sampleManifests sampleScheme twoHashringReceiver initialMetrics
      (syncResources sampleLabels sampleManifests sampleScheme twoHashringReceiver initialMetrics
        receiverWorld).2.2).2.2.store.get k =
      (syncResources sampleLabels sampleManifests sampleScheme twoHashringReceiver initialMetrics
        receiverWorld).2.2.store.get k := by
  have hmut : ∀ e d r, sampleManifests.mutateFuncFor e d = .ok r →
      sampleManifests.mutateFuncFor r d = .ok r := fun _ _ _ h => by
    injection h with h
    rw [← h]
    rfl
  have hdes : (desiredObjects sampleLabels sampleManifests twoHashringReceiver initialMetrics
      receiverWorld).1 = .ok [.configMap twoHashringConfigMap] := rfl
  have hkeys : ([Object.configMap twoHashringConfigMap].flatMap (applyCall sampleManifests sampleScheme
      (.thanosReceive twoHashringReceiver) twoHashringReceiver.meta.namespace)).Nodup := by decide
  have hok : ∀ out ∈ (applyHashrings sampleManifests sampleScheme twoHashringReceiver
      [.configMap twoHashringConfigMap] (desiredObjects sampleLabels sampleManifests twoHashringReceiver
        initialMetrics receiverWorld).2.2).2.1, out.failed = false := by decide
  have hdes₂ : (desiredObjects sampleLabels sampleManifests twoHashringReceiver initialMetrics
      (syncResources sampleLabels sampleManifests sampleScheme twoHashringReceiver initialMetrics
        receiverWorld).2.2).1 = .ok [.configMap twoHashringConfigMap] := rfl
  exact ⟨hmut, hdes, hkeys, hok, hdes₂, syncResources_fixpoint sampleLabels sampleManifests
    sampleScheme twoHashringReceiver initialMetrics initialMetrics receiverWorld _ _ hmut hdes hkeys hok
    rfl (fun _ => rfl) hdes₂⟩

end ThanosOperator.Receive.Converge
