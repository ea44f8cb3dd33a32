import Mathlib.Algebra.Group.Nat.Basic
import ThanosOperator.Interfaces

/-! # Applying the desired objects

Both `syncResources` run the same loop over the desired objects. A namespaced object gets the
subject's namespace and a controller reference to the subject; then `ctrl.CreateOrUpdate`
applies it. A failure of either step is counted in `errCount`, an `int32`, and the loop goes on
with the next object; the pass fails when the count is positive. The loop's log lines are its
per-object outcomes. -/

namespace ThanosOperator.Apply
open ThanosOperator.Kube.Meta ThanosOperator.Kube.Objects ThanosOperator.Kube.Client
open ThanosOperator.Interfaces

/-- What `ctrl.SetControllerReference(owner, obj, r.Scheme)` does under the reconciler's scheme:
the object with the owner reference added, or an error. -/
structure Scheme where
  setControllerReference : Object → Object → Except Error Object

/-- A scheme under which every owner reference can be set, for concrete runs. -/
def sampleScheme : Scheme := ⟨fun _ obj => .ok obj⟩

/-- The log line the loop writes for one object. -/
inductive ObjectOutcome
  | ownerReferenceFailed (err : Error)
  | applyFailed (err : Error)
  | configured (op : OperationResult)
  deriving DecidableEq, Repr

/-- The outcomes that `errCount++` counts. -/
def ObjectOutcome.failed : ObjectOutcome → Bool
  | .configured _ => false
  | _ => true

section Loop

variable (m : Manifests) (scheme : Scheme) (owner : Object) (ns : String)

/-- `SetNamespace` and `SetControllerReference` for a namespaced object; nothing for another. -/
def ownerStep (obj : Object) : Except Error Object :=
  if m.isNamespacedResource obj then scheme.setControllerReference owner (obj.setNamespace ns)
  else .ok obj

/-- The body of the loop for one object. -/
def applyObject (obj : Object) (w : World) : ObjectOutcome × World :=
  match ownerStep m scheme owner ns obj with
  | .error e => (.ownerReferenceFailed e, w)
  | .ok obj =>
    match w.createOrUpdate m.mutateFuncFor obj with
    | (.error e, w) => (.applyFailed e, w)
    | (.ok op, w) => (.configured op, w)

/-- `for _, obj := range objs`, with `errCount++` on each failure. -/
def applyObjects : List Object → BitVec 32 → World → BitVec 32 × List ObjectOutcome × World
  | [], errCount, w => (errCount, [], w)
  | obj :: objs, errCount, w =>
    let (out, w) := applyObject m scheme owner ns obj w
    let (errCount, outs, w) :=
      applyObjects objs (if out.failed then errCount + 1 else errCount) w
    (errCount, out :: outs, w)

/-- The `CreateOrUpdate` call the loop makes for an object, if its owner step goes through. -/
def applyCall (obj : Object) : List Call :=
  match ownerStep m scheme owner ns obj with
  | .error _ => []
  | .ok obj => [.createOrUpdate obj.kind obj.meta.key]

theorem applyObject_frame (obj : Object) (w : World) :
    (applyObject m scheme owner ns obj w).2.calls = w.calls ++ applyCall m scheme owner ns obj ∧
    (applyObject m scheme owner ns obj w).2.faults = w.faults ∧
    (applyObject m scheme owner ns obj w).2.events = w.events := by
  unfold applyObject applyCall
  split
  · simp
  · rename_i o _
    obtain ⟨hc, hf, he⟩ := World.createOrUpdate_frame m.mutateFuncFor o w
    split <;> rename_i h <;> rw [h] at hc hf he <;> exact ⟨hc, hf, he⟩

/-- The loop makes one `CreateOrUpdate` call for each object whose owner step goes through, in
list order, and no other call. -/
theorem applyObjects_calls (objs : List Object) (errCount : BitVec 32) (w : World) :
    (applyObjects m scheme owner ns objs errCount w).2.2.calls =
      w.calls ++ objs.flatMap (applyCall m scheme owner ns) := by
  induction objs generalizing errCount w with
  | nil => simp [applyObjects]
  | cons obj objs ih =>
    simp [applyObjects, ih, (applyObject_frame m scheme owner ns obj w).1]

end Loop

/-- `if errCount > 0 { return fmt.Errorf(format, errCount) }`. -/
def countError (format : String) (errCount : BitVec 32) : Option Error :=
  if (0 : BitVec 32).slt errCount then some (.errorf format [.int errCount.toInt]) else none

end ThanosOperator.Apply
