import Mathlib.Data.List.TakeWhile

/-!
# A bounded buffer that is pruned from the front

Items arrive in the order of their age.  On every arrival the buffer drops
expired items from its front and then all but the last `limit` ones.  What it
has lost is expired, or has been followed by `limit` items.
-/

namespace RollingWindow

variable {α : Type}

/-- The last `limit` items. -/
def latest (limit : Nat) (items : List α) : List α :=
  items.drop (items.length - limit)

private theorem length_latest (limit : Nat) (items : List α) :
    (latest limit items).length = min limit items.length := by
  rw [latest, List.length_drop]
  omega

private theorem latest_append {limit : Nat} (front back : List α)
    (few : back.length ≤ limit) :
    latest limit (front ++ back) =
      latest (limit - back.length) front ++ back := by
  rw [latest, latest, List.length_append, List.drop_append]
  congr 1
  · congr 1
    omega
  · rw [Nat.sub_eq_zero_of_le (by omega), List.drop_zero]

/-- An item arrives. -/
def push (limit : Nat) (expired : α → Bool) (item : α) (buffer : List α) :
    List α :=
  latest limit ((buffer ++ [item]).dropWhile expired)

/-- The buffer is the end of the history, and lacks nothing that counts. -/
structure Retains (limit : Nat) (expired : α → Bool) (history buffer : List α) :
    Prop where
  split : ∃ lost, history = lost ++ buffer ∧
    (buffer.length = limit ∨ ∀ item ∈ lost, expired item = true)
  bounded : buffer.length ≤ limit

variable {limit : Nat} {expired expired' : α → Bool}
  {history buffer : List α}

theorem retains_nil (limit : Nat) (expired : α → Bool) :
    Retains limit expired [] [] :=
  ⟨⟨[], by simp⟩, by simp⟩

/-- More and more items expire. -/
theorem Retains.mono (retains : Retains limit expired history buffer)
    (older : ∀ item, expired item = true → expired' item = true) :
    Retains limit expired' history buffer := by
  obtain ⟨⟨lost, same, kept⟩, bounded⟩ := retains
  refine ⟨⟨lost, same, ?_⟩, bounded⟩
  rcases kept with full | gone
  · exact .inl full
  · exact .inr fun item member => older item (gone item member)

/-- Whatever comes before an expired item is expired, too. -/
def Ages (expired : α → Bool) (history : List α) : Prop :=
  history.Pairwise fun earlier later =>
    expired later = true → expired earlier = true

/-- A buffer that has room again has dropped expired items only. -/
theorem expired_of_room {lost : List α} {item : α}
    (kept : buffer.length = limit ∨ ∀ gone ∈ lost, expired gone = true)
    (ages : Ages expired (lost ++ (buffer ++ [item])))
    (room : ((buffer ++ [item]).dropWhile expired).length < limit) :
    ∀ gone ∈ lost ++ (buffer ++ [item]).takeWhile expired,
      expired gone = true := by
  generalize pushed_eq : buffer ++ [item] = pushed at ages room
  have dropped : ∀ gone ∈ pushed.takeWhile expired,
      expired gone = true := fun gone => List.mem_takeWhile_imp
  intro gone member
  rcases List.mem_append.mp member with old | new
  · rcases kept with full | stale
    · have lengths : (pushed.takeWhile expired).length +
          (pushed.dropWhile expired).length = buffer.length + 1 := by
        rw [← List.length_append, List.takeWhile_append_dropWhile, ← pushed_eq,
          List.length_append, List.length_singleton]
      obtain ⟨first, found⟩ := List.exists_mem_of_length_pos
        (by omega : 0 < (pushed.takeWhile expired).length)
      have inside : first ∈ pushed := List.takeWhile_subset _ found
      rw [Ages, List.pairwise_append] at ages
      exact ages.2.2 gone old first inside (dropped first found)
    · exact stale gone old
  · exact dropped gone new

theorem Retains.push (retains : Retains limit expired history buffer)
    {item : α} (ages : Ages expired (history ++ [item])) :
    Retains limit expired (history ++ [item])
      (push limit expired item buffer) := by
  obtain ⟨⟨lost, rfl, kept⟩, bounded⟩ := retains
  rw [List.append_assoc] at ages
  have whole : lost ++ buffer ++ [item] =
      (lost ++ (buffer ++ [item]).takeWhile expired) ++
        (buffer ++ [item]).dropWhile expired := by
    rw [List.append_assoc, List.append_assoc,
      List.takeWhile_append_dropWhile]
  have gone := expired_of_room kept ages
  rw [RollingWindow.push]
  generalize (buffer ++ [item]).dropWhile expired = recent at whole gone ⊢
  refine ⟨⟨(lost ++ (buffer ++ [item]).takeWhile expired) ++
    recent.take (recent.length - limit), ?_, ?_⟩, ?_⟩
  · rw [whole, List.append_assoc _ (recent.take _), latest,
      List.take_append_drop]
  · rw [length_latest]
    by_cases many : limit ≤ recent.length
    · exact .inl (Nat.min_eq_left many)
    · right
      rw [Nat.sub_eq_zero_of_le (by omega), List.take_zero, List.append_nil]
      exact gone (by omega)
  · rw [length_latest]
    exact Nat.min_le_left _ _

/-- What has not expired is counted as in the history. -/
theorem Retains.filter (retains : Retains limit expired history buffer)
    {keeps : α → Bool}
    (gone : ∀ item, expired item = true → keeps item = false) :
    buffer.filter keeps = (latest limit history).filter keeps := by
  obtain ⟨⟨lost, rfl, kept⟩, bounded⟩ := retains
  rw [latest_append lost buffer bounded, List.filter_append]
  have nothing : (latest (limit - buffer.length) lost).filter keeps = [] := by
    rw [List.filter_eq_nil_iff]
    intro item member
    rcases kept with full | stale
    · rw [full, Nat.sub_self, latest, Nat.sub_zero, List.drop_length] at member
      cases member
    · rw [gone item (stale item (List.mem_of_mem_drop member))]
      exact Bool.false_ne_true
  rw [nothing, List.nil_append]

end RollingWindow
