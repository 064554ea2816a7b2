import Mathlib.Data.List.Sort

/-!
# Sorting with a comparison function that may throw

The language leaves open which elements a sort compares, and in which order.
What it settles is that the first exception of the comparison function ends the
sort, and that a function that agrees with a total preorder on the elements
gives the stable order.  An `Engine` is any sort of this kind.
-/

namespace Sorting

abbrev Comparator (ε α : Type) : Type := α → α → Except ε Ordering

/-- On these elements the function does not throw, and says which of two comes
first. -/
def Agrees {ε α : Type} (compare : Comparator ε α) (le : α → α → Prop)
    (items : List α) : Prop :=
  ∀ first ∈ items, ∀ second ∈ items,
    ∃ order, compare first second = .ok order ∧ (order ≠ .gt ↔ le first second)

/-- A sort, as its callers know it.  It compares elements at different positions
only. -/
structure Engine (ε α : Type) where
  sort : Comparator ε α → List α → Except ε (List α)
  permutes : ∀ {compare items sorted}, sort compare items = .ok sorted →
    sorted.Perm items
  throws : ∀ {compare items error}, sort compare items = .error error →
    ∃ first second, List.Subperm [first, second] items ∧
      compare first second = .error error
  sorts : ∀ {compare items} (le : α → α → Prop) [DecidableRel le]
    [Std.Total le] [IsTrans α le], Agrees compare le items →
    sort compare items = .ok (items.insertionSort le)

variable {ε α : Type} {compare : Comparator ε α} {items : List α}

/-- Nothing is compared in a list of one element. -/
theorem Engine.sort_singleton (engine : Engine ε α)
    (compare : Comparator ε α) (item : α) :
    engine.sort compare [item] = .ok [item] := by
  cases sorted : engine.sort compare [item] with
  | ok outcome => rw [List.perm_singleton.mp (engine.permutes sorted)]
  | error error =>
      obtain ⟨first, second, among, -⟩ := engine.throws sorted
      have short := among.length_le
      simp at short

/-- The pairs of elements at different positions, in both orders. -/
def pairs : List α → List (α × α)
  | [] => []
  | item :: items =>
      (items.flatMap fun other => [(item, other), (other, item)]) ++ pairs items

private theorem mem_pairs_cons {item first second : α} :
    (first, second) ∈ pairs (item :: items) ↔
      (first = item ∧ second ∈ items) ∨ (second = item ∧ first ∈ items) ∨
        (first, second) ∈ pairs items := by
  simp only [pairs, List.mem_append, List.mem_flatMap, List.mem_cons,
    Prod.mk.injEq, List.not_mem_nil, or_false]
  constructor
  · rintro (⟨other, member, ⟨rfl, rfl⟩ | ⟨rfl, rfl⟩⟩ | later)
    · exact .inl ⟨rfl, member⟩
    · exact .inr (.inl ⟨rfl, member⟩)
    · exact .inr (.inr later)
  · rintro (⟨rfl, member⟩ | ⟨rfl, member⟩ | later)
    · exact .inl ⟨second, member, .inl ⟨rfl, rfl⟩⟩
    · exact .inl ⟨first, member, .inr ⟨rfl, rfl⟩⟩
    · exact .inr later

private theorem subperm_of_mem_pairs {first second : α}
    (member : (first, second) ∈ pairs items) :
    List.Subperm [first, second] items := by
  induction items with
  | nil => cases member
  | cons item items induction =>
      rcases mem_pairs_cons.mp member with ⟨rfl, other⟩ | ⟨rfl, other⟩ | later
      · exact ((List.singleton_sublist.mpr other).cons_cons first).subperm
      · exact ((List.Perm.swap _ _ []).subperm).trans
          ((List.singleton_sublist.mpr other).cons_cons second).subperm
      · exact (induction later).trans (List.sublist_cons_self _ _).subperm

private theorem mem_of_mem_pairs {first second : α}
    (member : (first, second) ∈ pairs items) :
    first ∈ items ∧ second ∈ items := by
  have among := (subperm_of_mem_pairs member).subset
  exact ⟨among List.mem_cons_self,
    among (List.mem_cons_of_mem _ List.mem_cons_self)⟩

private theorem mem_pairs_of_ne {first second : α} (here : first ∈ items)
    (there : second ∈ items) (differ : first ≠ second) :
    (first, second) ∈ pairs items := by
  induction items with
  | nil => cases here
  | cons item items induction =>
      rw [mem_pairs_cons]
      rcases List.mem_cons.mp here with rfl | firstLater
      · rcases List.mem_cons.mp there with rfl | secondLater
        · exact absurd rfl differ
        · exact .inl ⟨rfl, secondLater⟩
      · rcases List.mem_cons.mp there with rfl | secondLater
        · exact .inr (.inl ⟨rfl, firstLater⟩)
        · exact .inr (.inr (induction firstLater secondLater))

/-- The exception of the first comparison that throws. -/
def thrown (compare : Comparator ε α) (compared : List (α × α)) : Option ε :=
  compared.findSome? fun pair =>
    match compare pair.1 pair.2 with
    | .ok _ => none
    | .error error => some error

private theorem compare_of_thrown {compared : List (α × α)} {error : ε}
    (first : thrown compare compared = some error) :
    ∃ pair ∈ compared, compare pair.1 pair.2 = .error error := by
  obtain ⟨pair, member, same⟩ := List.exists_of_findSome?_eq_some first
  refine ⟨pair, member, ?_⟩
  split at same
  case h_1 => cases same
  case h_2 compared => rw [compared, Option.some.inj same]

private theorem thrown_eq_none {compared : List (α × α)} :
    thrown compare compared = none ↔
      ∀ pair ∈ compared, ∃ order, compare pair.1 pair.2 = .ok order := by
  rw [thrown, List.findSome?_eq_none_iff]
  refine forall₂_congr fun pair _ => ?_
  cases compare pair.1 pair.2 <;> simp

/-- The first of two does not come after the second. -/
def precedes (compare : Comparator ε α) (first second : α) : Bool :=
  match compare first second with
  | .ok order => decide (order ≠ .gt)
  | .error _ => false

/-- An engine that compares all elements with each other before it sorts. -/
def exhaustive (compare : Comparator ε α) (items : List α) :
    Except ε (List α) :=
  match thrown compare (pairs items) with
  | some error => .error error
  | none => .ok (items.insertionSort fun first second =>
      precedes compare first second = true)

private theorem insertionSort_congr {left right : α → α → Prop}
    [DecidableRel left] [DecidableRel right]
    (same : ∀ first ∈ items, ∀ second ∈ items,
      left first second ↔ right first second) :
    items.insertionSort left = items.insertionSort right := by
  simpa using List.map_insertionSort (r := left) (s := right) id items same

private theorem exhaustive_sorts (le : α → α → Prop) [DecidableRel le]
    (agrees : Agrees compare le items) :
    exhaustive compare items = .ok (items.insertionSort le) := by
  have silent : thrown compare (pairs items) = none := by
    refine thrown_eq_none.mpr fun pair member => ?_
    obtain ⟨here, there⟩ := mem_of_mem_pairs member
    obtain ⟨order, compared, -⟩ := agrees _ here _ there
    exact ⟨order, compared⟩
  rw [exhaustive, silent]
  refine congrArg Except.ok (insertionSort_congr ?_)
  intro first here second there
  obtain ⟨order, compared, same⟩ := agrees first here second there
  simp [precedes, compared, ← same]

def Engine.exhaustive (ε α : Type) : Engine ε α where
  sort := Sorting.exhaustive
  permutes := by
    intro compare items sorted outcome
    rw [Sorting.exhaustive] at outcome
    split at outcome
    case h_1 => cases outcome
    case h_2 =>
      cases outcome
      exact List.perm_insertionSort _ _
  throws := by
    intro compare items error outcome
    rw [Sorting.exhaustive] at outcome
    split at outcome
    case h_1 first =>
      cases outcome
      obtain ⟨pair, member, compared⟩ := compare_of_thrown first
      exact ⟨pair.1, pair.2, subperm_of_mem_pairs member, compared⟩
    case h_2 => cases outcome
  sorts := fun le _ _ _ agrees => exhaustive_sorts le agrees

/-- A comparison that throws is reported by the engine above. -/
theorem Engine.exhaustive_throws {first second : α} {error : ε}
    (here : first ∈ items) (there : second ∈ items) (differ : first ≠ second)
    (compared : compare first second = .error error) (sorted : List α) :
    (Engine.exhaustive ε α).sort compare items ≠ .ok sorted := by
  intro outcome
  have outcome : Sorting.exhaustive compare items = .ok sorted := outcome
  rw [Sorting.exhaustive] at outcome
  split at outcome
  case h_1 => cases outcome
  case h_2 silent =>
    obtain ⟨order, fine⟩ := thrown_eq_none.mp silent _
      (mem_pairs_of_ne here there differ)
    rw [compared] at fine
    cases fine

end Sorting
