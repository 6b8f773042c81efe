import Mathlib.Data.List.Basic
import Mathlib.Data.Nat.Digits.Defs
import Workbench.Text.Number

set_option autoImplicit false

namespace Workbench.Text

theorem toNat_toUpper (char : Char) :
    char.toUpper.toNat =
      if 97 ≤ char.toNat ∧ char.toNat ≤ 122 then char.toNat - 32 else char.toNat := by
  have lower : ('a'.val ≤ char.val ∧ char.val ≤ 'z'.val) ↔
      (97 ≤ char.toNat ∧ char.toNat ≤ 122) := by
    simp only [UInt32.le_iff_toNat_le]
    rfl
  unfold Char.toUpper
  split
  next isLower =>
    have bounds := lower.mp isLower
    have offset : ('A'.val - 'a'.val).toNat = 2 ^ 32 - 32 := by decide
    rw [if_pos bounds]
    simp only [Char.toNat, UInt32.toNat_add] at *
    omega
  next other => rw [if_neg fun bounds => other (lower.mpr bounds)]

theorem toUpper_eq_iff {mark : Char} (noLetter : mark.toNat < 65) (char : Char) :
    char.toUpper = mark ↔ char = mark := by
  rw [← Char.toNat_inj, ← Char.toNat_inj, toNat_toUpper]
  split <;> omega

theorem mem_map_toUpper_iff {mark : Char} (noLetter : mark.toNat < 65) (text : List Char) :
    mark ∈ text.map Char.toUpper ↔ mark ∈ text := by
  simp only [List.mem_map, toUpper_eq_iff noLetter, exists_eq_right]

theorem isDigit_iff (char : Char) : char.isDigit = true ↔ 48 ≤ char.toNat ∧ char.toNat ≤ 57 := by
  simp only [Char.isDigit, ge_iff_le, Bool.and_eq_true, decide_eq_true_eq, UInt32.le_iff_toNat_le]
  rfl

theorem hexDigit?_of_isDigit {char : Char} (digit : char.isDigit = true) :
    hexDigit? char = some (char.toNat - 48) := by
  have bounds := (isDigit_iff char).mp digit
  have inside : '0' ≤ char ∧ char ≤ '9' := by
    simp only [Char.le_def, UInt32.le_iff_toNat_le]
    exact bounds
  simp [hexDigit?, inside]

theorem isDigitOf_ten (char : Char) : isDigitOf 10 char = char.isDigit := by
  by_cases digit : char.isDigit = true
  · have bounds := (isDigit_iff char).mp digit
    simp only [isDigitOf, hexDigit?_of_isDigit digit, digit, decide_eq_true_eq]
    omega
  · have outside : ¬ (('0' ≤ char && char ≤ '9') = true) := by
      simp only [Bool.and_eq_true, decide_eq_true_eq, Char.le_def, UInt32.le_iff_toNat_le]
      exact fun bounds => digit ((isDigit_iff char).mpr bounds)
    rw [Bool.not_eq_true] at digit
    rw [digit, isDigitOf, hexDigit?, if_neg outside]
    split_ifs <;> simp

theorem digitsValue_ten {digits : List Char} (all : ∀ digit ∈ digits, digit.isDigit = true) :
    digitsValue 10 digits = Nat.ofDigits 10 (digits.reverse.map fun digit => digit.toNat - 48) := by
  rw [Nat.ofDigits_eq_foldr, List.foldr_map, List.foldr_reverse]
  apply List.foldl_ext
  intro value digit member
  rw [hexDigit?_of_isDigit (all digit member)]
  simp [Nat.mul_comm, Nat.add_comm]

theorem number?_ten_eq_some_iff (text : List Char) (value : Nat) :
    number? 10 text = some value ↔
      text ≠ [] ∧ (∀ digit ∈ text, digit.isDigit = true) ∧
        Nat.ofDigits 10 (text.reverse.map fun digit => digit.toNat - 48) = value := by
  by_cases spells : text ≠ [] ∧ ∀ digit ∈ text, digit.isDigit = true
  · have value_eq := digitsValue_ten spells.2
    simp [number?, isDigitOf_ten, spells, value_eq]
  · have unread : number? 10 text = none := by
      simp only [number?, isDigitOf_ten, Bool.and_eq_true, Bool.not_eq_true', List.all_eq_true,
        List.isEmpty_eq_false_iff]
      exact if_neg spells
    rw [unread]
    constructor
    · intro impossible
      contradiction
    · rintro ⟨nonempty, all, _⟩
      exact absurd ⟨nonempty, all⟩ spells

theorem number?_ten_toString (number : Nat) :
    number? 10 (toString number).toList = some number := by
  have text : (toString number).toList = Nat.toDigits 10 number := by
    rw [Nat.toString_eq_repr, Nat.toList_repr]
  have all : ∀ digit ∈ Nat.toDigits 10 number, digit.isDigit = true := fun digit member =>
    Nat.isDigit_of_mem_toDigits (by decide) (by decide) member
  have value : Nat.ofDigits 10 ((Nat.toDigits 10 number).reverse.map fun digit =>
      digit.toNat - 48) = number := by
    rw [Nat.ofDigits_eq_foldr, List.foldr_map, List.foldr_reverse]
    conv_rhs => rw [← Nat.ofDigitChars_ten_toDigits (n := number), Nat.ofDigitChars_eq_foldl]
    apply List.foldl_ext
    intro value digit member
    simp [Nat.add_comm]
  rw [text, number?_ten_eq_some_iff]
  exact ⟨Nat.toDigits_ne_nil, all, value⟩

end Workbench.Text
