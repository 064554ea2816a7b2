import Mathlib.Data.List.Basic
import Mathlib.Data.Nat.Digits.Defs

/-!
# Numbers in strings

Numbers written in base 36 and in base ten, and what can be read back from
strings that are put together from them: the numbers themselves, and the
place of a separator that no number contains.
-/

namespace Text

/-- A digit, `0` to `9` and then `a` to `z`. -/
def digit36 (value : Nat) : Char :=
  if value < 10 then Char.ofNat (48 + value) else Char.ofNat (87 + value)

def digitValue (character : Char) : Nat :=
  if character.toNat < 58 then character.toNat - 48
  else character.toNat - 87

/-- The digits of a number, the highest first. -/
def digits36 (value : Nat) : List Nat :=
  if value = 0 then [0] else (Nat.digits 36 value).reverse

/-- A natural number in base 36. -/
def toString36 (value : Nat) : String :=
  String.ofList ((digits36 value).map digit36)

theorem digits36_of_lt {value : Nat} (small : value < 36) :
    digits36 value = [value] := by
  rw [digits36]
  split
  case isTrue zero => rw [zero]
  case isFalse positive =>
    rw [Nat.digits_of_lt 36 value positive small, List.reverse_singleton]

theorem digits36_of_le {value : Nat} (large : 36 ≤ value) :
    digits36 value = digits36 (value / 36) ++ [value % 36] := by
  have positive : value ≠ 0 := by omega
  have left : value / 36 ≠ 0 := by omega
  rw [digits36, digits36, if_neg positive, if_neg left,
    Nat.digits_def' (by decide) (by omega), List.reverse_cons]

private theorem digitValue_digit36 : ∀ value < 36,
    digitValue (digit36 value) = value := by
  decide

private theorem digit36_ne_separator : ∀ value < 36, digit36 value ≠ '_' := by
  decide

private theorem digits36_lt {value digit : Nat}
    (member : digit ∈ digits36 value) :
    digit < 36 := by
  rw [digits36] at member
  split at member
  · rw [List.mem_singleton.mp member]
    decide
  · exact Nat.digits_lt_base (by decide) (List.mem_reverse.mp member)

private theorem ofDigits_digits36 (value : Nat) :
    Nat.ofDigits 36 (digits36 value).reverse = value := by
  rw [digits36]
  split
  case isTrue zero => simp [zero]
  case isFalse => rw [List.reverse_reverse, Nat.ofDigits_digits]

private theorem map_digitValue_toString36 (value : Nat) :
    (toString36 value).toList.map digitValue = digits36 value := by
  rw [toString36, String.toList_ofList, List.map_map]
  calc (digits36 value).map (digitValue ∘ digit36)
      = (digits36 value).map id := by
        apply List.map_congr_left
        intro digit member
        exact digitValue_digit36 digit (digits36_lt member)
    _ = digits36 value := List.map_id _

private theorem toString36_injective {first second : Nat}
    (same : toString36 first = toString36 second) : first = second := by
  have digits : digits36 first = digits36 second := by
    rw [← map_digitValue_toString36, same, map_digitValue_toString36]
  rw [← ofDigits_digits36 first, digits, ofDigits_digits36]

private theorem separator_notMem_toString36 (value : Nat) :
    '_' ∉ (toString36 value).toList := by
  rw [toString36, String.toList_ofList]
  intro member
  obtain ⟨digit, among, same⟩ := List.mem_map.mp member
  exact digit36_ne_separator digit (digits36_lt among) same

private theorem toString_injective {first second : Nat}
    (same : toString first = toString second) : first = second := by
  have digits : Nat.toDigits 10 first = Nat.toDigits 10 second := by
    rw [← Nat.toList_repr, ← Nat.toList_repr]
    exact congrArg String.toList same
  rw [← @Nat.ofDigitChars_ten_toDigits first, digits,
    Nat.ofDigitChars_ten_toDigits]

private theorem separator_notMem_toString (value : Nat) :
    '_' ∉ (toString value).toList := by
  intro member
  have written : (toString value).toList = Nat.toDigits 10 value :=
    Nat.toList_repr
  rw [written] at member
  exact Nat.underscore_not_in_toDigits member

/-- Two numbers around a separator can be told apart. -/
theorem separated_inj {first second count other : Nat}
    (same : toString36 first ++ "_" ++ toString count =
      toString36 second ++ "_" ++ toString other) :
    first = second ∧ count = other := by
  have lists := congrArg String.toList same
  simp only [String.toList_append] at lists
  have separator : "_".toList = ['_'] := rfl
  rw [separator, List.append_assoc, List.append_assoc,
    List.singleton_append, List.singleton_append,
    List.append_cons_inj_of_notMem (separator_notMem_toString36 first)
      (separator_notMem_toString count)] at lists
  exact ⟨toString36_injective (String.toList_injective lists.1),
    toString_injective (String.toList_injective lists.2.2)⟩

end Text
