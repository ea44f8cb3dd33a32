import Mathlib.Data.List.Nodup

/-! # Object metadata and label selection

The part of `metav1.ObjectMeta` the two controllers read, Go's `map[string]string`, and the
three ways the controllers test an object's labels: `metav1.HasLabel`, a set of required pairs
(`client.MatchingLabels`, `labels.SelectorFromSet`, and a `predicate.LabelSelectorPredicate`
built from `MatchLabels` alone), and a whole `metav1.LabelSelector`. -/

namespace ThanosOperator.Kube.Meta

/-- Replace the element under `a`'s key by `a`, or append `a` when there is none: Go's
`m[k] = v`, and a write to a store. -/
def upsertBy [DecidableEq κ] (key : α → κ) (a : α) (l : List α) : List α :=
  if l.any (key · == key a) then l.map fun x => if key x == key a then a else x else l ++ [a]

theorem map_upsertBy [DecidableEq κ] (key : α → κ) (a : α) (l : List α) :
    (upsertBy key a l).map key =
      if l.any (key · == key a) then l.map key else l.map key ++ [key a] := by
  unfold upsertBy
  split
  · simp only [List.map_map]
    exact List.map_congr_left fun x _ => by by_cases h : key x = key a <;> simp [h]
  · simp

theorem nodup_upsertBy [DecidableEq κ] {key : α → κ} (a : α) {l : List α}
    (h : (l.map key).Nodup) : ((upsertBy key a l).map key).Nodup := by
  rw [map_upsertBy]
  split
  · exact h
  · rename_i hn
    exact h.append (List.nodup_singleton _) (List.disjoint_singleton.mpr (by simpa using hn))

theorem upsertBy_of_not_mem [DecidableEq κ] {key : α → κ} {a : α} {l : List α}
    (h : key a ∉ l.map key) : upsertBy key a l = l ++ [a] := by
  have hn : l.any (key · == key a) = false := by
    simpa using fun x hx hk => h (List.mem_map.mpr ⟨x, hx, hk⟩)
  simp [upsertBy, hn]

theorem upsertBy_cons [DecidableEq κ] (key : α → κ) (a x : α) (l : List α) :
    upsertBy key a (x :: l) =
      if key x = key a then a :: l.map (fun y => if key y == key a then a else y)
      else x :: upsertBy key a l := by
  by_cases hx : key x = key a
  · simp [upsertBy, hx]
  · by_cases hl : l.any (key · == key a) <;> simp [upsertBy, hx, hl]

theorem find?_map_replace [DecidableEq κ] (key : α → κ) (a : α) (l : List α) {k : κ}
    (hk : key a ≠ k) :
    (l.map fun y => if key y == key a then a else y).find? (fun x => decide (key x = k)) =
      l.find? (fun x => decide (key x = k)) := by
  induction l with
  | nil => rfl
  | cons y l ih =>
    by_cases hy : key y = key a
    · rw [List.map_cons, if_pos (beq_iff_eq.mpr hy), List.find?_cons_of_neg _ (by simpa using hk),
        List.find?_cons_of_neg _ (by simpa [hy] using hk), ih]
    · rw [List.map_cons, if_neg (by simpa using hy), List.find?_cons, List.find?_cons, ih]

/-- Lookup after a write: the written element under its own key, the old lookup elsewhere. -/
theorem find?_upsertBy [DecidableEq κ] (key : α → κ) (a : α) (l : List α) (k : κ) :
    (upsertBy key a l).find? (fun x => decide (key x = k)) =
      if key a = k then some a else l.find? (fun x => decide (key x = k)) := by
  induction l with
  | nil => by_cases hk : key a = k <;> simp [upsertBy, hk]
  | cons x l ih =>
    rw [upsertBy_cons]
    by_cases hx : key x = key a
    · by_cases hk : key a = k
      · simp [hx, hk]
      · rw [if_pos hx, if_neg hk, List.find?_cons_of_neg _ (by simpa using hk),
          find?_map_replace key a l hk, List.find?_cons_of_neg _ (by simpa [hx] using hk)]
    · by_cases hk : key x = k
      · have : key a ≠ k := fun h => hx (hk.trans h.symm)
        rw [if_neg hx, if_neg this, List.find?_cons_of_pos _ (by simpa using hk),
          List.find?_cons_of_pos _ (by simpa using hk)]
      · simp [hx, hk, ih]

/-- A Go `map[string]β`: every key is present at most once. -/
structure GoMap (β : Type) where
  entries : List (String × β)
  keys_nodup : (entries.map Prod.fst).Nodup
  deriving DecidableEq

namespace GoMap

def empty : GoMap β := ⟨[], List.nodup_nil⟩

/-- The literal `map[string]β{k: v}`. -/
def singleton (k : String) (v : β) : GoMap β := ⟨[(k, v)], List.nodup_singleton _⟩

/-- `v, ok := m[k]`. -/
def get? (m : GoMap β) (k : String) : Option β := m.entries.lookup k

/-- `m[k] = v`. -/
def insert (m : GoMap β) (k : String) (v : β) : GoMap β :=
  ⟨upsertBy Prod.fst (k, v) m.entries, nodup_upsertBy _ m.keys_nodup⟩

/-- `len(m)`. -/
def size (m : GoMap β) : Nat := m.entries.length

@[simp] theorem get?_empty (k : String) : (empty : GoMap β).get? k = none := rfl

theorem insert_entries_of_not_mem {m : GoMap β} {k : String} (v : β)
    (h : k ∉ m.entries.map Prod.fst) : (m.insert k v).entries = m.entries ++ [(k, v)] :=
  upsertBy_of_not_mem h

end GoMap

/-- `map[string]string`. -/
abbrev StringMap := GoMap String

namespace GoMap

/-- `m[k]`: a missing key reads as the zero value `""`. -/
def get (m : StringMap) (k : String) : String := (m.get? k).getD ""

/-- `metav1.HasLabel`. -/
def hasLabel (m : StringMap) (k : String) : Bool := (m.get? k).isSome

/-- `labels.SelectorFromSet(set).Matches(labels.Set(m))`: `m` holds every pair of `set`; the
empty set matches every map. -/
def selectorMatches (set m : StringMap) : Bool := set.entries.all fun p => m.get? p.1 == some p.2

@[simp] theorem selectorMatches_empty (m : StringMap) : (empty : StringMap).selectorMatches m = true := rfl

theorem get_of_get? {m : StringMap} {k v : String} (h : m.get? k = some v) : m.get k = v := by
  simp [get, h]

end GoMap

/-- `metav1.LabelSelectorOperator`. -/
inductive LabelSelectorOperator
  | opIn
  | opNotIn
  | opExists
  | opDoesNotExist
  deriving DecidableEq, Repr

structure LabelSelectorRequirement where
  key : String
  operator : LabelSelectorOperator
  values : List String
  deriving DecidableEq, Repr

/-- `labels.Requirement.Matches` of a requirement converted by `metav1.LabelSelectorAsSelector`. -/
def LabelSelectorRequirement.selectorMatches (r : LabelSelectorRequirement) (m : StringMap) : Bool :=
  match r.operator, m.get? r.key with
  | .opIn, some v => r.values.contains v
  | .opIn, none => false
  | .opNotIn, some v => !r.values.contains v
  | .opNotIn, none => true
  | .opExists, _ => m.hasLabel r.key
  | .opDoesNotExist, _ => !m.hasLabel r.key

structure LabelSelector where
  matchLabels : StringMap
  matchExpressions : List LabelSelectorRequirement
  deriving DecidableEq

/-- `metav1.LabelSelectorAsSelector(s).Matches(labels.Set(m))`: every `MatchLabels` pair is
present and every `MatchExpressions` requirement is met. -/
def LabelSelector.selectorMatches (s : LabelSelector) (m : StringMap) : Bool :=
  s.matchLabels.selectorMatches m && s.matchExpressions.all (·.selectorMatches m)

structure NamespacedName where
  «namespace» : String
  name : String
  deriving DecidableEq, Repr

/-- `metav1.OwnerReference`; `controller` is the `Controller` pointer, with nil read as false. The
API version is left out: no two kinds of the model share a name. -/
structure OwnerReference where
  kind : String
  name : String
  controller : Bool := false
  deriving DecidableEq, Repr

/-- The fields of `metav1.ObjectMeta` that the controllers read or write, with Go's zero values.
A deletion timestamp is `metav1.Time` seconds; `some 0` is the zero time. -/
structure ObjectMeta where
  name : String
  «namespace» : String
  labels : StringMap := GoMap.empty
  generation : Nat := 0
  ownerReferences : List OwnerReference := []
  deletionTimestamp : Option Nat := none
  finalizers : List String := []
  deriving DecidableEq

namespace ObjectMeta

/-- `client.ObjectKeyFromObject`. -/
def key (m : ObjectMeta) : NamespacedName := ⟨m.namespace, m.name⟩

/-- `GetDeletionTimestamp().IsZero()`: a nil pointer and the zero time are both zero. -/
def deletionTimestampIsZero (m : ObjectMeta) : Bool :=
  match m.deletionTimestamp with
  | none => true
  | some t => t == 0

/-- `controllerutil.ContainsFinalizer`. -/
def containsFinalizer (m : ObjectMeta) (f : String) : Bool := m.finalizers.contains f

/-- `metav1.GetControllerOf`: the first owner reference marked as the controller. -/
def controllerOf (m : ObjectMeta) : Option OwnerReference := m.ownerReferences.find? (·.controller)

end ObjectMeta

end ThanosOperator.Kube.Meta
