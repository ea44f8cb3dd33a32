import ThanosOperator.Kube.Objects

/-! # The kube client

A cluster is a store of objects, at most one per kind and key. The controllers reach it through
the client's `Get` and `List` and through `ctrl.CreateOrUpdate`, and any of these calls may fail:
which one does is the environment's choice, so the `n`-th call of a run fails with `faults n`
when that is `some`. Every call is logged, so the calls of a run can be read back in order.
`client.InNamespace` is read as equality of namespaces: every object the controllers list is
namespaced. -/

namespace ThanosOperator.Kube.Client
open ThanosOperator.Kube.Meta ThanosOperator.Kube.Objects

/-- What the API server answers a failed request with. -/
inductive ApiError
  | notFound
  | other (reason : String)
  deriving DecidableEq, Repr

/-- A `%s` or `%d` argument of `fmt.Errorf`. -/
inductive FmtArg
  | str (s : String)
  | int (i : Int)
  deriving DecidableEq, Repr

/-- A Go `error` as the controllers build and inspect them. -/
inductive Error
  | api (e : ApiError)
  /-- `receive.ErrHashringsEmpty`. -/
  | hashringsEmpty
  /-- `fmt.Errorf(format, args...)`, and the errors library code makes. -/
  | errorf (format : String) (args : List FmtArg)
  /-- `fmt.Errorf(format, args..., err)` with `err` under `%w`. -/
  | wrapf (format : String) (args : List FmtArg) (cause : Error)
  deriving DecidableEq, Repr

namespace Error

/-- `apierrors.IsNotFound`, which looks through wrapping. -/
def isNotFound : Error → Bool
  | .api .notFound => true
  | .wrapf _ _ cause => cause.isNotFound
  | _ => false

/-- `errors.Is(err, receive.ErrHashringsEmpty)`. -/
def isHashringsEmpty : Error → Bool
  | .hashringsEmpty => true
  | .wrapf _ _ cause => cause.isHashringsEmpty
  | _ => false

end Error

/-- The objects of a cluster: at most one per kind, namespace and name. -/
structure Store where
  objects : List Object
  keys_nodup : (objects.map Object.key).Nodup

namespace Store

def empty : Store := ⟨[], List.nodup_nil⟩

def get (s : Store) (k : Kind × NamespacedName) : Option Object := s.objects.find? (·.key == k)

def upsert (s : Store) (o : Object) : Store where
  objects := upsertBy Object.key o s.objects
  keys_nodup := nodup_upsertBy o s.keys_nodup

/-- Lookup after a write. -/
theorem get_upsert (s : Store) (o : Object) (k : Kind × NamespacedName) :
    (s.upsert o).get k = if o.key = k then some o else s.get k := by
  have hp : (fun x : Object => x.key == k) = fun x => decide (x.key = k) :=
    funext fun x => by by_cases h : x.key = k <;> simp [h]
  simp only [get, upsert, hp]
  exact find?_upsertBy Object.key o s.objects k

def services (s : Store) : List Service := s.objects.filterMap Object.asService?

def endpointSlices (s : Store) : List EndpointSlice := s.objects.filterMap Object.asEndpointSlice?

def configMaps (s : Store) : List ConfigMap := s.objects.filterMap Object.asConfigMap?

def thanosQueries (s : Store) : List ThanosQuery := s.objects.filterMap Object.asThanosQuery?

def thanosReceives (s : Store) : List ThanosReceive := s.objects.filterMap Object.asThanosReceive?

end Store

/-- `client.InNamespace(ns)` with `client.MatchingLabels(sel)`. -/
def listed (ns : String) (sel : StringMap) (m : ObjectMeta) : Bool :=
  m.namespace == ns && sel.selectorMatches m.labels

/-- One call of the client, as the log records it. -/
inductive Call
  | get (kind : Kind) (key : NamespacedName)
  | list (kind : Kind) (ns : String) (sel : StringMap)
  | createOrUpdate (kind : Kind) (key : NamespacedName)
  deriving DecidableEq

/-- An event handed to the `record.EventRecorder`. -/
structure RecordedEvent where
  object : NamespacedName
  eventtype : String
  reason : String
  message : String
  deriving DecidableEq, Repr

structure World where
  store : Store
  faults : Nat → Option ApiError
  calls : List Call
  events : List RecordedEvent

/-- `ctrl.CreateOrUpdate`'s `controllerutil.OperationResult`; `unchanged` is `OperationResultNone`. -/
inductive OperationResult
  | unchanged
  | created
  | updated
  deriving DecidableEq, Repr

namespace World

/-- Append call `c` to the log. -/
def log (c : Call) (w : World) : World := { w with calls := w.calls ++ [c] }

/-- Make call `c`: log it, and answer from the store unless the environment fails it. -/
def read (c : Call) (answer : Store → Except Error α) (w : World) : Except Error α × World :=
  (match w.faults w.calls.length with
    | some e => .error (.api e)
    | none => answer w.store,
   w.log c)

/-- A `Get` answers `NotFound` when nothing is stored under the key. -/
def found : Option α → Except Error α
  | some a => .ok a
  | none => .error (.api .notFound)

def getThanosQuery (key : NamespacedName) : World → Except Error ThanosQuery × World :=
  read (.get .thanosQuery key) fun s => found (s.thanosQueries.find? (·.meta.key == key))

def getThanosReceive (key : NamespacedName) : World → Except Error ThanosReceive × World :=
  read (.get .thanosReceive key) fun s => found (s.thanosReceives.find? (·.meta.key == key))

def getService (key : NamespacedName) : World → Except Error Service × World :=
  read (.get .service key) fun s => found (s.services.find? (·.meta.key == key))

def getConfigMap (key : NamespacedName) : World → Except Error ConfigMap × World :=
  read (.get .configMap key) fun s => found (s.configMaps.find? (·.meta.key == key))

def listServices (ns : String) (sel : StringMap) : World → Except Error (List Service) × World :=
  read (.list .service ns sel) fun s => .ok (s.services.filter (listed ns sel ·.meta))

def listThanosQueries (ns : String) : World → Except Error (List ThanosQuery) × World :=
  read (.list .thanosQuery ns .empty) fun s =>
    .ok (s.thanosQueries.filter (listed ns .empty ·.meta))

def listEndpointSlices (ns : String) (sel : StringMap) :
    World → Except Error (List EndpointSlice) × World :=
  read (.list .endpointSlice ns sel) fun s => .ok (s.endpointSlices.filter (listed ns sel ·.meta))

/-- What `CreateOrUpdate` does once its requests go through, given what was stored under the
key and what the mutate function made of it: create, update, or leave the object alone. -/
def commit (obj : Object) (existing : Option Object) (m : Object) (s : Store) :
    Except Error OperationResult × Store :=
  if m.key ≠ obj.key then
    (.error (.errorf "MutateFn cannot mutate object name and/or object namespace" []), s)
  else match existing with
    | none => (.ok .created, s.upsert m)
    | some e => if m = e then (.ok .unchanged, s) else (.ok .updated, s.upsert m)

/-- `ctrl.CreateOrUpdate(ctx, c, obj, manifests.MutateFuncFor(obj, desired))`, where
`mutate existing desired` is what the mutate function leaves in `obj` once `Get` has filled it
with `existing` (with `desired` itself when nothing is stored). -/
def createOrUpdate (mutate : Object → Object → Except Error Object) (obj : Object) (w : World) :
    Except Error OperationResult × World :=
  let w' := w.log (.createOrUpdate obj.kind obj.meta.key)
  match w.faults w.calls.length, mutate ((w.store.get obj.key).getD obj) obj with
  | some e, _ => (.error (.api e), w')
  | none, .error e => (.error e, w')
  | none, .ok m =>
    ((commit obj (w.store.get obj.key) m w.store).1,
     { w' with store := (commit obj (w.store.get obj.key) m w.store).2 })

@[simp] theorem log_calls (c : Call) (w : World) : (w.log c).calls = w.calls ++ [c] := rfl

@[simp] theorem log_faults (c : Call) (w : World) : (w.log c).faults = w.faults := rfl

@[simp] theorem log_store (c : Call) (w : World) : (w.log c).store = w.store := rfl

@[simp] theorem log_events (c : Call) (w : World) : (w.log c).events = w.events := rfl

@[simp] theorem read_snd (c : Call) (answer : Store → Except Error α) (w : World) :
    (w.read c answer).2 = w.log c := rfl

/-- `CreateOrUpdate` is one logged call and touches no other part of the world than the store. -/
theorem createOrUpdate_frame (mutate : Object → Object → Except Error Object) (obj : Object)
    (w : World) :
    (createOrUpdate mutate obj w).2.calls = w.calls ++ [.createOrUpdate obj.kind obj.meta.key] ∧
    (createOrUpdate mutate obj w).2.faults = w.faults ∧
    (createOrUpdate mutate obj w).2.events = w.events := by
  unfold createOrUpdate
  split <;> simp

/-- Everything a `CreateOrUpdate` can do: fail and leave the store as it was, or store what the
mutate function made under the object's key, reporting whether that created the object, left
it as it was or updated it. -/
theorem createOrUpdate_cases (mutate : Object → Object → Except Error Object) (obj : Object)
    (w : World) :
    ((∃ e, (createOrUpdate mutate obj w).1 = .error e) ∧
      (createOrUpdate mutate obj w).2.store = w.store) ∨
    (∃ r, w.faults w.calls.length = none ∧ mutate ((w.store.get obj.key).getD obj) obj = .ok r ∧
      r.key = obj.key ∧
      (createOrUpdate mutate obj w).1 = .ok (match w.store.get obj.key with
        | none => .created
        | some e => if r = e then .unchanged else .updated) ∧
      ∀ k, (createOrUpdate mutate obj w).2.store.get k =
        if obj.key = k then some r else w.store.get k) := by
  unfold createOrUpdate
  split
  · exact .inl ⟨⟨_, rfl⟩, rfl⟩
  · exact .inl ⟨⟨_, rfl⟩, rfl⟩
  · rename_i r hf hm
    unfold commit
    by_cases hkey : r.key = obj.key
    · refine .inr ⟨r, hf, hm, hkey, ?_⟩
      cases he : w.store.get obj.key with
      | none => simp [Store.get_upsert, hkey]
      | some e =>
        by_cases hre : r = e
        · subst hre
          refine ⟨by simp [hkey], fun k => ?_⟩
          by_cases hk : obj.key = k
          · subst hk; simp [hkey, he]
          · simp [hkey, hk]
        · simp [Store.get_upsert, hkey, hre]
    · exact .inl ⟨⟨_, by rw [if_pos hkey]⟩, by simp [hkey]⟩

/-- An object stored under the key, with that key, and kept as it is by the mutate function:
the call is answered unchanged, and only logged. -/
theorem createOrUpdate_of_stable {mutate : Object → Object → Except Error Object} {obj r : Object}
    {w : World} (hf : w.faults w.calls.length = none) (hs : w.store.get obj.key = some r)
    (hr : r.key = obj.key) (hm : mutate r obj = .ok r) :
    w.createOrUpdate mutate obj = (.ok .unchanged, w.log (.createOrUpdate obj.kind obj.meta.key)) := by
  simp [createOrUpdate, commit, hf, hs, hm, hr]
  rfl

/-! ## Footprint -/

/-- What a stretch of work may do to the world: append calls, each of them one that `P` allows,
change the object under a key only by a `CreateOrUpdate` of that key among them, remove
nothing, and leave the environment's faults alone. -/
structure Footprint (P : Call → Prop) (w w' : World) : Prop where
  calls : w.calls <+: w'.calls
  made : ∀ c ∈ w'.calls.drop w.calls.length, P c
  written : ∀ k : Kind × NamespacedName,
    Call.createOrUpdate k.1 k.2 ∉ w'.calls.drop w.calls.length → w'.store.get k = w.store.get k
  kept : ∀ k, (w.store.get k).isSome → (w'.store.get k).isSome
  faults : w'.faults = w.faults

section Footprint

variable {P : Call → Prop}

theorem Footprint.refl (w : World) : Footprint P w w :=
  ⟨List.prefix_refl _, by simp, fun _ _ => rfl, fun _ h => h, rfl⟩

theorem Footprint.trans {w₁ w₂ w₃ : World} (h₁ : Footprint P w₁ w₂) (h₂ : Footprint P w₂ w₃) :
    Footprint P w₁ w₃ := by
  obtain ⟨t₁, ht₁⟩ := h₁.calls
  obtain ⟨t₂, ht₂⟩ := h₂.calls
  have d₁ : w₂.calls.drop w₁.calls.length = t₁ := by rw [← ht₁, List.drop_left]
  have d₂ : w₃.calls.drop w₂.calls.length = t₂ := by rw [← ht₂, List.drop_left]
  have d : w₃.calls.drop w₁.calls.length = t₁ ++ t₂ := by
    rw [← ht₂, ← ht₁, List.append_assoc, List.drop_left]
  refine ⟨h₁.calls.trans h₂.calls, fun c hc => ?_, fun k hk => ?_,
    fun k hk => h₂.kept k (h₁.kept k hk), h₂.faults.trans h₁.faults⟩
  · rw [d, List.mem_append] at hc
    exact hc.elim (fun h => h₁.made c (d₁ ▸ h)) (fun h => h₂.made c (d₂ ▸ h))
  · rw [d, List.mem_append, not_or] at hk
    rw [h₂.written k (d₂ ▸ hk.2), h₁.written k (d₁ ▸ hk.1)]

theorem Footprint.mono {Q : Call → Prop} (hPQ : ∀ c, P c → Q c) {w w' : World}
    (h : Footprint P w w') : Footprint Q w w' :=
  ⟨h.calls, fun c hc => hPQ c (h.made c hc), h.written, h.kept, h.faults⟩

/-- Work that only appends allowed calls and leaves the store and the faults alone. -/
theorem Footprint.of_store {w w' : World} (hc : w.calls <+: w'.calls)
    (hP : ∀ c ∈ w'.calls.drop w.calls.length, P c) (hs : w'.store = w.store)
    (hf : w'.faults = w.faults) : Footprint P w w' :=
  ⟨hc, hP, fun _ _ => by rw [hs], fun _ h => by rwa [hs], hf⟩

theorem footprint_log {c : Call} (hc : P c) (w : World) : Footprint P w (w.log c) :=
  .of_store (List.prefix_append _ _)
    (fun c' h => by rw [log_calls, List.drop_left, List.mem_singleton] at h; exact h ▸ hc) rfl rfl

theorem footprint_read {c : Call} (hc : P c) (answer : Store → Except Error α) (w : World) :
    Footprint P w (w.read c answer).2 :=
  footprint_log hc w

theorem footprint_createOrUpdate {mutate : Object → Object → Except Error Object} {obj : Object}
    (hc : P (.createOrUpdate obj.kind obj.meta.key)) (w : World) :
    Footprint P w (w.createOrUpdate mutate obj).2 := by
  have hlog := footprint_log hc w
  obtain ⟨hcalls, hfaults, -⟩ := createOrUpdate_frame mutate obj w
  rcases createOrUpdate_cases mutate obj w with ⟨-, hs⟩ | ⟨r, -, -, -, -, hs⟩
  · exact .of_store (hcalls ▸ hlog.calls) (hcalls ▸ hlog.made) hs hfaults
  · refine ⟨hcalls ▸ hlog.calls, hcalls ▸ hlog.made, fun k hk => ?_, fun k hk => ?_,
      hfaults⟩
    · rw [hcalls, List.drop_left, List.mem_singleton] at hk
      rw [hs, if_neg fun h => hk (by subst h; rfl)]
    · rw [hs]
      split
      · rfl
      · exact hk

end Footprint

end World

end ThanosOperator.Kube.Client
