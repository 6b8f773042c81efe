import Workbench.Text.Percent

set_option autoImplicit false

namespace Workbench.Text.Percent

-- Bytes are collected last first, so the invariant has them reversed.
theorem toList_loop_eq (bytes : ByteArray) (index : Nat) (collected : List UInt8) :
    ByteArray.toList.loop bytes index collected =
      collected.reverse ++ bytes.data.toList.drop index := by
  fun_induction ByteArray.toList.loop bytes index collected with
  | case1 index collected inside ih =>
      have bound : index < bytes.data.toList.length := inside
      have read : bytes.get! index = bytes.data.toList[index] :=
        getElem!_pos bytes.data index inside
      rw [ih, List.drop_eq_getElem_cons bound, read]
      simp
  | case2 index collected outside =>
      have all : bytes.data.toList.length ≤ index := Nat.le_of_not_lt outside
      rw [List.drop_of_length_le all, List.append_nil]

theorem toList_eq_data (bytes : ByteArray) : bytes.toList = bytes.data.toList := by
  rw [ByteArray.toList, toList_loop_eq]
  rfl

theorem bytesOf_eq_flatMap (text : List Char) :
    bytesOf text = text.flatMap String.utf8EncodeChar := by
  rw [bytesOf, String.toUTF8_eq_toByteArray, String.toByteArray_ofList, toList_eq_data,
    List.utf8Encode, List.toList_data_toByteArray]

theorem code_of_mem_utf8EncodeChar {char : Char} {byte : UInt8}
    (mem : byte ∈ String.utf8EncodeChar char) (ascii : byte.toNat < 0x80) :
    char.toNat = byte.toNat := by
  have code : char.toNat = char.val.toNat := rfl
  rw [code]
  simp only [String.utf8EncodeChar] at mem
  split at mem
  next small =>
    rw [List.mem_singleton] at mem
    rw [mem, UInt8.toNat_ofNat']
    omega
  next =>
    have high : 0x80 ≤ byte.toNat := by
      repeat' split at mem
      all_goals
        simp only [List.mem_cons, List.not_mem_nil, or_false] at mem
        rcases mem with rfl | rfl | rfl | rfl <;> rw [UInt8.toNat_ofNat'] <;> omega
    omega

def marks : List Char := "%0123456789ABCDEF".toList

variable {keep : Char -> Bool}

theorem encode_cons (keep : Char -> Bool) (char : Char) (rest : List Char) :
    encode keep (char :: rest) = encodeChar keep char ++ encode keep rest :=
  List.flatMap_cons

theorem encode_append (keep : Char -> Bool) (first second : List Char) :
    encode keep (first ++ second) = encode keep first ++ encode keep second :=
  List.flatMap_append

theorem mem_marks_of_mem_encodeByte {byte : UInt8} {char : Char}
    (mem : char ∈ encodeByte byte) : char ∈ marks := by
  have digits : ∀ value < 16, hexDigit value ∈ marks := by decide
  have size := byte.toNat_lt
  simp only [encodeByte, List.mem_cons, List.not_mem_nil, or_false] at mem
  obtain rfl | rfl | rfl := mem
  next => decide
  next => exact digits _ (by omega)
  next => exact digits _ (by omega)

theorem mem_encode {text : List Char} {char : Char} (mem : char ∈ encode keep text) :
    char ∈ text ∧ keep char = true ∨ char ∈ marks := by
  obtain ⟨source, among, mem⟩ := List.mem_flatMap.mp mem
  rw [encodeChar] at mem
  split at mem
  next kept =>
    rw [List.mem_singleton] at mem
    subst mem
    exact .inl ⟨among, kept⟩
  next =>
    obtain ⟨byte, _, written⟩ := List.mem_flatMap.mp mem
    exact .inr (mem_marks_of_mem_encodeByte written)

theorem encodeChar_of_not_kept {char : Char} (encoded : keep char = false) :
    ∃ byte rest, byte ∈ String.utf8EncodeChar char ∧
      encodeChar keep char = encodeByte byte ++ rest := by
  obtain ⟨byte, more, bytes⟩ :=
    List.exists_cons_of_ne_nil (String.utf8EncodeChar_ne_nil : String.utf8EncodeChar char ≠ [])
  refine ⟨byte, more.flatMap encodeByte, by rw [bytes]; exact List.mem_cons_self, ?_⟩
  have one : bytesOf [char] = byte :: more := by
    rw [bytesOf_eq_flatMap, List.flatMap_singleton, bytes]
  rw [encodeChar, encoded, one]
  rfl

theorem encode_of_kept {text : List Char} (kept : ∀ char ∈ text, keep char = true) :
    encode keep text = text := by
  induction text with
  | nil => rfl
  | cons char rest ih =>
      rw [List.forall_mem_cons] at kept
      rw [encode_cons, encodeChar, if_pos kept.1, ih kept.2]
      rfl

theorem kept_of_mem_encode (closed : ∀ mark ∈ marks, keep mark = true) {text : List Char}
    {char : Char} (mem : char ∈ encode keep text) : keep char = true := by
  obtain ⟨_, kept⟩ | written := mem_encode mem
  next => exact kept
  next => exact closed char written

theorem encode_eq_self_iff (closed : ∀ mark ∈ marks, keep mark = true) (text : List Char) :
    encode keep text = text ↔ ∀ char ∈ text, keep char = true := by
  constructor
  · intro same char mem
    rw [← same] at mem
    exact kept_of_mem_encode closed mem
  · exact encode_of_kept

end Workbench.Text.Percent
