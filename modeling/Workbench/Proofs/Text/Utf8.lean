import Workbench.Http.Headers
import Workbench.Proofs.Text.Letter
import Workbench.Proofs.Text.Percent

set_option autoImplicit false

namespace Workbench.Text

open Http (lowerByte)
open Percent (bytesOf bytesOf_eq_flatMap code_of_mem_utf8EncodeChar)

theorem bytesOf_cons (char : Char) (text : List Char) :
    bytesOf (char :: text) = String.utf8EncodeChar char ++ bytesOf text := by
  simp [bytesOf_eq_flatMap]

theorem bytesOf_append (front rest : List Char) :
    bytesOf (front ++ rest) = bytesOf front ++ bytesOf rest := by
  simp [bytesOf_eq_flatMap]

theorem byteLength_eq (text : List Char) : byteLength text = (bytesOf text).length := by
  induction text with
  | nil => simp [byteLength, bytesOf_eq_flatMap]
  | cons char rest ih =>
      rw [byteLength, ih, bytesOf_cons, List.length_append, String.length_utf8EncodeChar]

theorem byteLength_append (front rest : List Char) :
    byteLength (front ++ rest) = byteLength front + byteLength rest := by
  simp only [byteLength_eq, bytesOf_append, List.length_append]

theorem byteLength_eq_zero_iff (text : List Char) : byteLength text = 0 ↔ text = [] := by
  cases text with
  | nil => simp [byteLength]
  | cons char rest =>
      have size := char.utf8Size_pos
      simp only [byteLength, reduceCtorEq, iff_false]
      omega

theorem byteLength_le_of_sublist {part text : List Char} (sublist : part.Sublist text) :
    byteLength part ≤ byteLength text := by
  induction sublist with
  | slnil => exact Nat.le_refl _
  | cons char _ ih => exact Nat.le_add_left_of_le ih
  | cons_cons char _ ih => exact Nat.add_le_add_left ih _

theorem utf8EncodeChar_of_ascii {char : Char} (ascii : char.toNat < 0x80) :
    String.utf8EncodeChar char = [char.toNat.toUInt8] := by
  have small : char.val.toNat ≤ 127 := Nat.le_of_lt_succ ascii
  simp only [String.utf8EncodeChar, if_pos small]
  rfl

theorem toNat_toUInt8_of_ascii {char : Char} (ascii : char.toNat < 0x80) :
    char.toNat.toUInt8.toNat = char.toNat := by
  rw [Nat.toUInt8_eq, UInt8.toNat_ofNat']
  omega

theorem exists_front_of_ascii {text : List Char} {index : Nat} {byte : UInt8}
    (found : (bytesOf text)[index]? = some byte) (ascii : byte.toNat < 0x80) :
    ∃ front rest, text = front ++ rest ∧ (bytesOf front).length = index := by
  induction text generalizing index with
  | nil => simp [bytesOf_eq_flatMap] at found
  | cons char text ih =>
      rw [bytesOf_cons] at found
      by_cases inside : index < (String.utf8EncodeChar char).length
      next =>
        rw [List.getElem?_append_left inside] at found
        have code := code_of_mem_utf8EncodeChar (List.mem_of_getElem? found) ascii
        have start : index = 0 := by
          simpa [utf8EncodeChar_of_ascii (code ▸ ascii)] using inside
        exact ⟨[], char :: text, rfl, by simp [bytesOf_eq_flatMap, start]⟩
      next =>
        rw [List.getElem?_append_right (by omega)] at found
        obtain ⟨front, rest, rfl, length⟩ := ih found
        refine ⟨char :: front, rest, rfl, ?_⟩
        simp only [bytesOf_cons, List.length_append, length]
        omega

end Workbench.Text
