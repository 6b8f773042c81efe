import Mathlib.Data.List.Induction
import Workbench.Proofs.Text.Letter

set_option autoImplicit false

namespace Workbench.Text

theorem all_isDigit_iff (text : List Char) :
    text.all Char.isDigit = true ↔ ∀ char ∈ text, '0' ≤ char ∧ char ≤ '9' := by
  simp only [List.all_eq_true, isDigit_iff]
  rfl

theorem digitChar_of_isDigit {char : Char} (digit : char.isDigit = true) :
    (char.toNat - 48).digitChar = char := by
  have bounds := (isDigit_iff char).mp digit
  rw [← Char.toNat_inj, Nat.toNat_digitChar_of_lt_ten (by omega)]
  omega

theorem digitsValue_concat {char : Char} (digit : char.isDigit = true) (digits : List Char) :
    digitsValue 10 (digits ++ [char]) = 10 * digitsValue 10 digits + (char.toNat - 48) := by
  simp [digitsValue, hexDigit?_of_isDigit digit, Nat.mul_comm]

theorem eq_toDigits_of_plain {digits : List Char} (nonempty : digits ≠ [])
    (all : ∀ digit ∈ digits, digit.isDigit = true)
    (plain : digits.head? = some '0' → digits.length = 1) :
    digits = Nat.toDigits 10 (digitsValue 10 digits) := by
  induction digits using List.reverseRecOn with
  | nil => contradiction
  | append_singleton front last ih =>
      have isLast : last.isDigit = true := all last (by simp)
      have bounds := (isDigit_iff last).mp isLast
      have small : last.toNat - 48 < 10 := by omega
      rw [digitsValue_concat isLast]
      cases front with
      | nil => simp [digitsValue, Nat.toDigits_of_lt_base small, digitChar_of_isDigit isLast]
      | cons first rest =>
          have noZero : first ≠ '0' := by
            rintro rfl
            simpa using plain rfl
          have digits := fun digit member => all digit (List.mem_append_left _ member)
          have spelled := ih (List.cons_ne_nil _ _) digits fun zero =>
            absurd (Option.some.inj zero) noZero
          have positive : 0 < digitsValue 10 (first :: rest) := by
            rw [Nat.pos_iff_ne_zero]
            intro zero
            rw [zero, Nat.toDigits_zero, List.cons.injEq] at spelled
            exact noZero spelled.1
          rw [← Nat.toDigits_append_toDigits (by decide) positive small, ← spelled,
            Nat.toDigits_of_lt_base small, digitChar_of_isDigit isLast]

theorem eq_zero_of_head_toDigits {number : Nat}
    (zero : (Nat.toDigits 10 number).head? = some '0') : number = 0 := by
  induction number using Nat.strongRecOn with
  | ind number ih =>
      obtain small | large := Nat.lt_or_ge number 10
      · rw [Nat.toDigits_of_lt_base small, List.head?_cons, Option.some.injEq] at zero
        have code := Nat.toNat_digitChar_of_lt_ten small
        rw [zero] at code
        have same : 48 = 48 + number := code
        omega
      · rw [Nat.toDigits_of_base_le (by decide) large,
          List.head?_append_of_ne_nil _ Nat.toDigits_ne_nil] at zero
        have := ih (number / 10) (by omega) zero
        omega

theorem plainNumber?_ten_eq_some_iff (text : List Char) (number : Nat) :
    plainNumber? 10 text = some number ↔ text = Nat.toDigits 10 number := by
  constructor
  · intro read
    unfold plainNumber? at read
    split at read
    next => contradiction
    next plain =>
      obtain ⟨nonempty, all, -⟩ := (number?_ten_eq_some_iff text number).mp read
      have value : digitsValue 10 text = number := by
        unfold number? at read
        split at read
        · exact Option.some.inj read
        · contradiction
      rw [← value]
      exact eq_toDigits_of_plain nonempty all fun zero => by_contra fun long => plain (by simp_all)
  · rintro rfl
    have plain : ¬ ((Nat.toDigits 10 number).head? = some '0' &&
        (Nat.toDigits 10 number).length ≠ 1) = true := by
      intro leading
      simp only [Bool.and_eq_true, decide_eq_true_eq] at leading
      obtain ⟨zero, long⟩ := leading
      rw [eq_zero_of_head_toDigits zero] at long
      simp at long
    rw [plainNumber?, if_neg plain, ← Nat.toList_repr, ← Nat.toString_eq_repr]
    exact number?_ten_toString number

end Workbench.Text
