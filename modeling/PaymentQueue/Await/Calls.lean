import Mathlib.Data.List.Perm.Basic

/-!
# Calls by position

Calls in progress are kept in a list and named by their position.  What is
collected from all of them is, up to order, what one call contributes and what
the others do.
-/

namespace Await

variable {Call Item : Type} (select : Call → Option Item)
  {calls : List Call} {index : Nat} {call : Call}

theorem filterMap_perm (found : calls[index]? = some call) :
    (calls.filterMap select).Perm
      ((select call).toList ++ (calls.eraseIdx index).filterMap select) := by
  obtain ⟨inside, rfl⟩ := List.getElem?_eq_some_iff.mp found
  have front := (List.getElem_cons_eraseIdx_perm inside).symm.filterMap select
  rw [List.filterMap_cons] at front
  cases selected : select calls[index] with
  | none => simpa [selected] using front
  | some value => simpa [selected] using front

/-- One call has moved on. -/
theorem filterMap_set_perm (found : calls[index]? = some call)
    (moved : Call) :
    ((calls.set index moved).filterMap select).Perm
      ((select moved).toList ++ (calls.eraseIdx index).filterMap select) := by
  have inside := (List.getElem?_eq_some_iff.mp found).1
  have front := (List.set_perm_cons_eraseIdx inside moved).filterMap select
  rw [List.filterMap_cons] at front
  cases selected : select moved with
  | none => simpa [selected] using front
  | some value => simpa [selected] using front

/-- One call has moved on without changing what is looked at. -/
theorem map_set_same {Part : Type} {part : Call → Part} {moved : Call}
    (found : calls[index]? = some call) (same : part moved = part call) :
    (calls.set index moved).map part = calls.map part := by
  obtain ⟨inside, rfl⟩ := List.getElem?_eq_some_iff.mp found
  rw [List.map_set, same, ← List.getElem_map part, List.set_getElem_self]
  simpa using inside

/-- One call has been added. -/
theorem filterMap_append_perm (calls : List Call) (call : Call) :
    ((calls ++ [call]).filterMap select).Perm
      ((select call).toList ++ calls.filterMap select) := by
  rw [List.filterMap_append]
  apply List.perm_append_comm.trans
  cases selected : select call with
  | none => simp [selected]
  | some value => simp [selected]

end Await
