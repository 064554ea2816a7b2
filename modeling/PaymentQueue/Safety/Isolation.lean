import Mathlib
import PaymentQueue.Queue.Manager

/-!
# Queues of different gateways

`queueNameFor` lower-cases a gateway id, replaces every code unit outside
`[a-z0-9-]` and cuts the name off after sixty of them.  What is left of an id
is its letters and digits and their places; ids that agree in these share a
queue and a worker pool's jobs, and an id that reads `dlq` shares the dead
letter queue.
-/

namespace PaymentQueue.Isolation

open QueueManager

/-- The length of a string in UTF-16 code units. -/
def codeUnits (text : String) : Nat :=
  (text.toList.map fun character =>
    if 0x10000 ≤ character.toNat then 2 else 1).sum

/-- The test of `validateCreatePaymentInput` on the gateway id. -/
def acceptsGatewayId (gatewayId : String) : Bool :=
  decide (codeUnits gatewayId ≠ 0 ∧ codeUnits gatewayId ≤ 100)

/-- The gateways whose workers take jobs from a queue: each pool serves the
queue named after its gateway. -/
def consumers (ids : Finset String) (queue : String) : Finset String :=
  ids.filter fun gatewayId => queueNameFor gatewayId = queue

/-- No queue is shared between gateways or with the dead letters. -/
structure Isolated (ids : Finset String) : Prop where
  injective : Set.InjOn queueNameFor ids
  reserved : ∀ gatewayId ∈ ids, queueNameFor gatewayId ≠ dlqQueueName
  own : ∀ gatewayId ∈ ids, consumers ids (queueNameFor gatewayId) = {gatewayId}
  unread : consumers ids dlqQueueName = ∅

/-- A letter or digit as it is read without regard to case, or `none` for a
code unit that is neither. -/
def reading (character : Char) : List (Option Char) :=
  if character.isAlphanum then [some character.toLower]
  else if character.toNat = 0x212A then [some 'k']
  else if character.toNat = 0x130 then [some 'i', none]
  else if 0x10000 ≤ character.toNat then [none, none]
  else [none]

/-- The ids have the same letters and digits at the same places of their
first sixty code units. -/
def ReadsAlike (first second : String) : Prop :=
  (first.toList.flatMap reading).take 60 =
    (second.toList.flatMap reading).take 60

/-- The id is `dlq` up to the case of its letters. -/
def ReadsDlq (gatewayId : String) : Prop :=
  gatewayId.toLower = dlqQueueName

section Characters

variable {character : Char}

private theorem isUpper_iff : character.isUpper = true ↔
    'A' ≤ character ∧ character ≤ 'Z' := by
  simp [Char.isUpper, Char.le_def]

theorem isLower_or_isDigit_iff :
    (character.isLower = true ∨ character.isDigit = true) ↔
      ('a' ≤ character ∧ character ≤ 'z') ∨
        ('0' ≤ character ∧ character ≤ '9') := by
  simp [Char.isLower, Char.isDigit, Char.le_def]

theorem isAlphanum_iff : character.isAlphanum = true ↔
    character.isUpper = true ∨
      (character.isLower = true ∨ character.isDigit = true) := by
  simp [Char.isAlphanum, Char.isAlpha, or_assoc]

private theorem queueNameChars_eq (character : Char) :
    queueNameChars character =
      (reading character).map fun unit => unit.getD '-' := by
  by_cases upper : character.isUpper = true
  · have named : queueNameChars character =
        [Char.ofNat (character.toNat + 32)] := by
      rw [queueNameChars, if_pos (isUpper_iff.mp upper)]
    have read : reading character = [some character.toLower] := by
      rw [reading, if_pos (isAlphanum_iff.mpr (.inl upper))]
    rw [named, read, Char.toLower_eq_of_isUpper upper]
    simp
  · rw [queueNameChars, if_neg fun between => upper (isUpper_iff.mpr between)]
    by_cases lower : character.isLower = true ∨ character.isDigit = true
    · have kept : character.toLower = character :=
        Char.toLower_eq_of_not_isUpper upper
      rw [reading, if_pos (isAlphanum_iff.mpr (.inr lower)), kept, if_pos]
      · simp
      · rcases isLower_or_isDigit_iff.mp lower with letter | digit
        · exact .inl letter
        · exact .inr (.inl digit)
    · have unread : ¬ character.isAlphanum = true := by
        rw [isAlphanum_iff]
        exact fun read => read.elim upper lower
      rw [reading, if_neg unread]
      by_cases hyphen : character = '-'
      · subst hyphen
        decide
      · rw [if_neg]
        · split_ifs <;> simp
        · rintro (letter | digit | same)
          · exact lower (isLower_or_isDigit_iff.mpr (.inl letter))
          · exact lower (isLower_or_isDigit_iff.mpr (.inr digit))
          · exact hyphen same

private theorem toLower_ne_hyphen (read : character.isAlphanum = true) :
    character.toLower ≠ '-' := by
  intro hyphen
  by_cases upper : character.isUpper = true
  · have letter := Char.isAlpha_toLower_eq_isAlpha character
    have alpha : character.isAlpha = true := by simp [Char.isAlpha, upper]
    rw [hyphen, alpha] at letter
    exact absurd letter (by decide)
  · rw [Char.toLower_eq_of_not_isUpper upper] at hyphen
    rw [hyphen] at read
    exact absurd read (by decide)

/-- What is read is never a hyphen. -/
theorem hyphen_not_mem_reading : some '-' ∉ reading character := by
  rw [reading]
  split_ifs with read
  · simpa using (toLower_ne_hyphen read).symm
  · simp
  · simp
  · simp
  · simp

private theorem reading_ne_nil (character : Char) : reading character ≠ [] := by
  rw [reading]
  split_ifs <;> simp

/-- Letters other than `k` and `i` are read from themselves only. -/
theorem reading_letter {letter : Char} {rest tail : List (Option Char)}
    (plain : letter ≠ 'k' ∧ letter ≠ 'i')
    (read : reading character ++ rest = some letter :: tail) :
    character.toLower = letter ∧ rest = tail := by
  rw [reading] at read
  split_ifs at read
  · simpa using read
  · exact absurd (Option.some.inj (List.cons.inj read).1).symm plain.1
  · exact absurd (Option.some.inj (List.cons.inj read).1).symm plain.2
  · cases (List.cons.inj read).1
  · cases (List.cons.inj read).1

private theorem reading_of_toLower {letter : Char}
    (alpha : letter.isAlpha = true)
    (read : character.toLower = letter) :
    reading character = [some letter] := by
  have alphanum : character.isAlphanum = true := by
    have same := Char.isAlpha_toLower_eq_isAlpha character
    rw [read, alpha] at same
    simp [Char.isAlphanum, ← same]
  rw [reading, if_pos alphanum, read]

end Characters

section Names

variable {first second gatewayId : String}

/-- Filling in hyphens keeps readings apart. -/
theorem map_getD_injective {left right : List (Option Char)}
    (unhyphened : some '-' ∉ left) (unhyphened' : some '-' ∉ right)
    (same : (left.map fun unit => unit.getD '-') =
      right.map fun unit => unit.getD '-') : left = right := by
  induction left generalizing right with
  | nil => simpa using same.symm
  | cons unit left induction =>
      cases right with
      | nil => cases same
      | cons other right =>
          obtain ⟨head, tail⟩ := List.cons.inj same
          rw [List.mem_cons, not_or] at unhyphened unhyphened'
          rw [induction unhyphened.2 unhyphened'.2 tail]
          congr 1
          cases unit with
          | none =>
              cases other with
              | none => rfl
              | some character => exact absurd (congrArg some head) unhyphened'.1
          | some character =>
              cases other with
              | none => exact absurd (congrArg some head).symm unhyphened.1
              | some other => exact congrArg some head

theorem hyphen_not_mem_take (text : List Char) (count : Nat) :
    some '-' ∉ (text.flatMap reading).take count := by
  intro member
  obtain ⟨character, -, read⟩ :=
    List.mem_flatMap.mp (List.mem_of_mem_take member)
  exact hyphen_not_mem_reading read

theorem queueNameFor_eq (gatewayId : String) :
    queueNameFor gatewayId = String.ofList
      (((gatewayId.toList.flatMap reading).take 60).map fun unit =>
        unit.getD '-') := by
  have named : queueNameChars =
      fun character => (reading character).map fun unit => unit.getD '-' :=
    funext queueNameChars_eq
  rw [queueNameFor, List.map_take, List.map_flatMap, named]

private theorem queueNameFor_eq_iff :
    queueNameFor first = queueNameFor second ↔ ReadsAlike first second := by
  rw [queueNameFor_eq, queueNameFor_eq, String.ofList_inj]
  constructor
  · exact map_getD_injective (hyphen_not_mem_take _ _)
      (hyphen_not_mem_take _ _)
  · intro alike
    rw [ReadsAlike] at alike
    rw [alike]

private theorem flatMap_reading_iff {word : List Char}
    (plain : ∀ letter ∈ word, letter.isAlpha = true ∧ letter ≠ 'k' ∧
      letter ≠ 'i') {text : List Char} :
    text.flatMap reading = word.map some ↔ text.map Char.toLower = word := by
  induction word generalizing text with
  | nil =>
      cases text with
      | nil => simp
      | cons character text => simp [reading_ne_nil]
  | cons letter word induction =>
      obtain ⟨⟨alpha, unlike⟩, rest⟩ := List.forall_mem_cons.mp plain
      cases text with
      | nil => simp
      | cons character text =>
          rw [List.flatMap_cons, List.map_cons, List.map_cons]
          constructor
          · intro read
            obtain ⟨head, tail⟩ := reading_letter unlike read
            rw [head, (induction rest).mp tail]
          · intro read
            obtain ⟨head, tail⟩ := List.cons.inj read
            rw [reading_of_toLower alpha head, (induction rest).mpr tail]
            simp

private theorem toList_dlqQueueName : dlqQueueName.toList =
    ['d', 'l', 'q'] := by
  decide

private theorem queueNameFor_eq_dlq_iff :
    queueNameFor gatewayId = dlqQueueName ↔ ReadsDlq gatewayId := by
  have letters : ∀ letter ∈ ['d', 'l', 'q'], letter.isAlpha = true ∧
      letter ≠ 'k' ∧ letter ≠ 'i' := by simp
  have lower : ReadsDlq gatewayId ↔
      gatewayId.toList.map Char.toLower = ['d', 'l', 'q'] := by
    rw [ReadsDlq, ← String.toList_inj, toList_dlqQueueName, String.toLower,
      String.toList_map]
  rw [lower, ← flatMap_reading_iff letters, queueNameFor_eq,
    ← String.toList_inj, String.toList_ofList, toList_dlqQueueName]
  constructor
  · intro named
    have short : (gatewayId.toList.flatMap reading).take 60 =
        [some 'd', some 'l', some 'q'] :=
      map_getD_injective (hyphen_not_mem_take _ _) (by decide) named
    have length : min 60 (gatewayId.toList.flatMap reading).length = 3 := by
      rw [← List.length_take, short]
      simp
    rwa [List.take_of_length_le (by omega)] at short
  · intro read
    rw [read]
    decide

end Names

private theorem mem_consumers {ids : Finset String} {queue gatewayId : String} :
    gatewayId ∈ consumers ids queue ↔
      gatewayId ∈ ids ∧ queueNameFor gatewayId = queue := by
  simp [consumers]

/-- Pools are isolated as soon as the names are. -/
theorem isolated_of_names {ids : Finset String}
    (injective : Set.InjOn queueNameFor ids)
    (reserved : ∀ gatewayId ∈ ids, queueNameFor gatewayId ≠ dlqQueueName) :
    Isolated ids := by
  refine ⟨injective, reserved, ?_, ?_⟩
  · intro gatewayId member
    ext other
    rw [mem_consumers, Finset.mem_singleton]
    constructor
    · rintro ⟨inside, shared⟩
      exact injective inside member shared
    · rintro rfl
      exact ⟨member, rfl⟩
  · refine Finset.eq_empty_of_forall_notMem fun gatewayId taken => ?_
    obtain ⟨inside, dead⟩ := mem_consumers.mp taken
    exact reserved gatewayId inside dead

/-- Gateways are isolated if and only if no two of their ids read alike and
none of them reads `dlq`. -/
theorem queues_isolated_iff (ids : Finset String) :
    Isolated ids ↔
      (∀ first ∈ ids, ∀ second ∈ ids, first ≠ second →
        ¬ ReadsAlike first second) ∧
      ∀ gatewayId ∈ ids, ¬ ReadsDlq gatewayId := by
  constructor
  · intro isolated
    refine ⟨fun first inside second inside' distinct alike => ?_,
      fun gatewayId inside read => ?_⟩
    · exact distinct
        (isolated.injective inside inside' (queueNameFor_eq_iff.mpr alike))
    · exact isolated.reserved gatewayId inside
        (queueNameFor_eq_dlq_iff.mpr read)
  · rintro ⟨unlike, undead⟩
    apply isolated_of_names
    · intro first inside second inside' shared
      by_contra distinct
      exact unlike first inside second inside' distinct
        (queueNameFor_eq_iff.mp shared)
    · intro gatewayId inside dead
      exact undead gatewayId inside (queueNameFor_eq_dlq_iff.mp dead)

/-- Two ids that the validator accepts and that share a queue. -/
theorem queues_shared :
    ¬ ∀ ids : Finset String,
      (∀ gatewayId ∈ ids, acceptsGatewayId gatewayId = true) →
        Isolated ids := by
  intro isolated
  have shared := (isolated {"stripe_eu", "stripe-eu"} (by decide)).injective
    (by simp : "stripe_eu" ∈ _) (by simp : "stripe-eu" ∈ _) (by decide)
  exact absurd shared (by decide)

end PaymentQueue.Isolation
