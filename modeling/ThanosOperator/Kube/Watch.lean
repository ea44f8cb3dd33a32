import ThanosOperator.Kube.Client

/-! # Watches

What controller-runtime does with a watch event before a reconciler sees it. The builder's
`WithPredicates` lets an event through when every predicate does; the handler
`EnqueueRequestsFromMapFunc` maps the event's object, both objects of an update, and adds each
request once. The map function runs against a state `σ`: the cluster, and any metrics it
counts. `Owns` registers the owner handler with no predicate: it reads nothing but the event's
objects and asks for their controller owner. -/

namespace ThanosOperator.Kube.Watch
open ThanosOperator.Kube.Meta

/-- A watch event on an object. -/
inductive Event (α : Type)
  | create (obj : α)
  | update (old new : α)
  | delete (obj : α)
  | generic (obj : α)

variable {α σ : Type}

/-- `predicate.GenerationChangedPredicate{}`: it only drops updates that keep the generation. -/
def generationChanged (meta : α → ObjectMeta) : Event α → Bool
  | .update old new => (meta new).generation != (meta old).generation
  | _ => true

/-- `predicate.NewPredicateFuncs(f)`: an update is judged by its new object. -/
def objectPredicate (f : α → Bool) : Event α → Bool
  | .create obj | .delete obj | .generic obj => f obj
  | .update _ new => f new

/-- `mapAndEnqueue`: add the requests not added yet, in order. -/
def addRequests (reqs : List NamespacedName) : List NamespacedName → List NamespacedName
  | [] => reqs
  | r :: rest => addRequests (if r ∈ reqs then reqs else reqs ++ [r]) rest

/-- `handler.EnqueueRequestsFromMapFunc(mapFn)`. -/
def enqueueRequests (mapFn : α → σ → List NamespacedName × σ) :
    Event α → σ → List NamespacedName × σ
  | .create obj, s | .delete obj, s | .generic obj, s =>
    let (reqs, s) := mapFn obj s
    (addRequests [] reqs, s)
  | .update old new, s =>
    let (reqsOld, s) := mapFn old s
    let (reqsNew, s) := mapFn new s
    (addRequests (addRequests [] reqsOld) reqsNew, s)

/-- A watch behind `GenerationChangedPredicate` and one more predicate: the requests an event
puts on the queue. -/
def watch (meta : α → ObjectMeta) (pred : Event α → Bool) (mapFn : α → σ → List NamespacedName × σ)
    (e : Event α) (s : σ) : List NamespacedName × σ :=
  if generationChanged meta e && pred e then enqueueRequests mapFn e s else ([], s)

/-- `handler.EnqueueRequestForOwner(scheme, mapper, owner, handler.OnlyControllerOwner())` for
one object, with a namespaced owner of kind `ownerKind`: the object's controller owner, in the
object's namespace, when it is of that kind. -/
def ownerRequests (ownerKind : String) (m : ObjectMeta) : List NamespacedName :=
  match m.controllerOf with
  | some ref => if ref.kind = ownerKind then [⟨m.namespace, ref.name⟩] else []
  | none => []

/-- The handler `Owns` registers: the controller owners of the event's objects, those of both
objects of an update. -/
def enqueueForOwner (meta : α → ObjectMeta) (ownerKind : String) : Event α → List NamespacedName
  | .create obj | .delete obj | .generic obj => ownerRequests ownerKind (meta obj)
  | .update old new =>
    addRequests (ownerRequests ownerKind (meta old)) (ownerRequests ownerKind (meta new))

theorem mem_addRequests {r : NamespacedName} (reqs new : List NamespacedName) :
    r ∈ addRequests reqs new ↔ r ∈ reqs ∨ r ∈ new := by
  induction new generalizing reqs with
  | nil => simp [addRequests]
  | cons x rest ih =>
    by_cases hx : x ∈ reqs
    · simp only [addRequests, hx, if_true, ih, List.mem_cons]
      constructor
      · rintro (h | h) <;> simp [h]
      · rintro (h | rfl | h) <;> simp [*]
    · simp [addRequests, hx, ih, or_assoc]

/-- A map function that asks for at most one request asks for it once. -/
@[simp] theorem addRequests_nil_toList (o : Option NamespacedName) :
    addRequests [] o.toList = o.toList := by
  cases o <;> rfl

/-- An object asks for an owner exactly when its controller reference is of the owner's kind and
names it, in the object's namespace. -/
theorem mem_ownerRequests {ownerKind : String} {m : ObjectMeta} {r : NamespacedName} :
    r ∈ ownerRequests ownerKind m ↔
      ∃ ref, m.controllerOf = some ref ∧ ref.kind = ownerKind ∧ ⟨m.namespace, ref.name⟩ = r := by
  unfold ownerRequests
  cases m.controllerOf with
  | none => simp
  | some ref => by_cases h : ref.kind = ownerKind <;> simp [h, @eq_comm _ r]

theorem enqueueForOwner_of_object {meta : α → ObjectMeta} {ownerKind : String} {obj : α}
    {e : Event α} (he : e = .create obj ∨ e = .delete obj) :
    enqueueForOwner meta ownerKind e = ownerRequests ownerKind (meta obj) := by
  rcases he with rfl | rfl <;> rfl

theorem mem_enqueueForOwner_update {meta : α → ObjectMeta} {ownerKind : String} {old new : α}
    {r : NamespacedName} :
    r ∈ enqueueForOwner meta ownerKind (.update old new) ↔
      r ∈ ownerRequests ownerKind (meta old) ∨ r ∈ ownerRequests ownerKind (meta new) :=
  mem_addRequests _ _

/-- A creation or a deletion passes `GenerationChangedPredicate`, so only the object predicate
decides whether the map function runs. -/
theorem watch_of_object {meta : α → ObjectMeta} {f : α → Bool}
    {mapFn : α → σ → List NamespacedName × σ} {obj : α} {e : Event α}
    (he : e = .create obj ∨ e = .delete obj) (s : σ) :
    watch meta (objectPredicate f) mapFn e s =
      if f obj then (addRequests [] (mapFn obj s).1, (mapFn obj s).2) else ([], s) := by
  rcases he with rfl | rfl <;> simp [watch, generationChanged, objectPredicate, enqueueRequests]

/-- An update that keeps the generation is dropped before any map function runs. -/
theorem watch_update_of_generation {meta : α → ObjectMeta} {pred : Event α → Bool}
    {mapFn : α → σ → List NamespacedName × σ} {old new : α}
    (h : (meta new).generation = (meta old).generation) (s : σ) :
    watch meta pred mapFn (.update old new) s = ([], s) := by
  simp [watch, generationChanged, h]

/-- An update that passes both predicates maps its old object, then its new one. -/
theorem watch_update {meta : α → ObjectMeta} {f : α → Bool}
    {mapFn : α → σ → List NamespacedName × σ} {old new : α}
    (h : (meta new).generation ≠ (meta old).generation) (hf : f new = true) (s : σ) :
    watch meta (objectPredicate f) mapFn (.update old new) s =
      (addRequests (addRequests [] (mapFn old s).1) (mapFn new (mapFn old s).2).1,
        (mapFn new (mapFn old s).2).2) := by
  simp [watch, generationChanged, objectPredicate, enqueueRequests, h, hf]

/-- A relation between states that every run of the map function establishes, and that
composes, holds from before to after a watch event. -/
theorem watch_preserves {meta : α → ObjectMeta} {pred : Event α → Bool}
    {mapFn : α → σ → List NamespacedName × σ} (R : σ → σ → Prop) (hrefl : ∀ s, R s s)
    (htrans : ∀ {s₁ s₂ s₃}, R s₁ s₂ → R s₂ s₃ → R s₁ s₃) (hmap : ∀ obj s, R s (mapFn obj s).2)
    (e : Event α) (s : σ) : R s (watch meta pred mapFn e s).2 := by
  unfold watch
  split
  · cases e with
    | create obj => exact hmap obj s
    | update old new => exact htrans (hmap old s) (hmap new _)
    | delete obj => exact hmap obj s
    | generic obj => exact hmap obj s
  · exact hrefl s

end ThanosOperator.Kube.Watch
