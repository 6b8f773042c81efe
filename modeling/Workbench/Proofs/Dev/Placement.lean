import Mathlib.Data.FinEnum
import Workbench.Dev.Injection
import Workbench.Proofs.Text.Utf8

set_option autoImplicit false

namespace Workbench.Injection

open Http (lowerByte)
open Text.Percent (bytesOf)

theorem lastTagBefore?_eq_some_iff (page : ByteArray) (bound position : Nat) :
    lastTagBefore? page bound = some position ↔
      position < bound ∧ tagAt page position closingTag = true ∧
        ∀ later, position < later → later < bound → tagAt page later closingTag = false := by
  induction bound with
  | zero => simp [lastTagBefore?]
  | succ bound ih =>
      rw [lastTagBefore?]
      by_cases found : tagAt page bound closingTag = true
      next =>
        rw [if_pos found, Option.some_inj]
        constructor
        next =>
          intro same
          subst same
          exact ⟨by omega, found, by omega⟩
        next =>
          intro last
          by_contra other
          have missing := last.2.2 bound (by omega) (by omega)
          simp [found] at missing
      next =>
        rw [if_neg found, ih]
        rw [Bool.not_eq_true] at found
        grind

theorem position_le (page : ByteArray) : position page ≤ page.size := by
  unfold position
  cases found : lastTagBefore? page page.size with
  | none => exact Nat.le_refl _
  | some place => exact Nat.le_of_lt ((lastTagBefore?_eq_some_iff _ _ _).mp found).1

theorem size_inject (page : ByteArray) :
    (inject page).size = page.size + scriptTag.toUTF8.size := by
  have bound := position_le page
  simp only [inject, ByteArray.size_append, ByteArray.size_extract]
  omega

theorem inject_ne (page : ByteArray) : inject page ≠ page := by
  intro same
  have size := size_inject page
  have tag : scriptTag.toUTF8.size ≠ 0 := by decide +kernel
  rw [same] at size
  omega

end Workbench.Injection
