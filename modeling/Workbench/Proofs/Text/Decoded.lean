import Workbench.Proofs.Text.Split
import Workbench.Proofs.Text.Utf8

set_option autoImplicit false

namespace Workbench.Text

theorem ascii_of_hexDigit? {char : Char} (digit : (hexDigit? char).isSome = true) :
    char.toNat < 0x80 := by
  have bound {last : Char} (small : last.toNat < 0x80) (inside : char ≤ last) :
      char.toNat < 0x80 := by
    rw [Char.le_def, UInt32.le_iff_toNat_le] at inside
    exact Nat.lt_of_le_of_lt inside small
  unfold hexDigit? at digit
  simp only [Bool.and_eq_true, decide_eq_true_eq] at digit
  split_ifs at digit with decimal upper lower
  next => exact bound (by decide) decimal.2
  next => exact bound (by decide) upper.2
  next => exact bound (by decide) lower.2
  next => contradiction

theorem exists_cons_of_bytesOf {text : List Char} {byte : UInt8} {rest : List UInt8}
    (bytes : Percent.bytesOf text = byte :: rest) (ascii : byte.toNat < 0x80) :
    ∃ char behind, text = char :: behind ∧ char.toNat = byte.toNat ∧
      Percent.bytesOf behind = rest := by
  cases text with
  | nil => simp [Percent.bytesOf_eq_flatMap] at bytes
  | cons char behind =>
      have mem : byte ∈ String.utf8EncodeChar char := by
        obtain ⟨first, more, encoded⟩ := List.exists_cons_of_ne_nil
          (String.utf8EncodeChar_ne_nil : String.utf8EncodeChar char ≠ [])
        rw [bytesOf_cons, encoded, List.cons_append] at bytes
        rw [encoded, (List.cons.inj bytes).1]
        exact List.mem_cons_self
      have code := Percent.code_of_mem_utf8EncodeChar mem ascii
      rw [bytesOf_cons, utf8EncodeChar_of_ascii (code ▸ ascii), List.singleton_append] at bytes
      exact ⟨char, behind, rfl, code, (List.cons.inj bytes).2⟩

namespace Percent

theorem text?_eq_some_iff (bytes : List UInt8) (text : List Char) :
    text? bytes = some text ↔ bytes = bytesOf text := by
  have read : text? bytes = some text ↔
      ∃ read : String, read.toByteArray = ⟨bytes.toArray⟩ ∧ read.toList = text := by
    rw [text?, Option.map_eq_some_iff]
    refine exists_congr fun read => and_congr_left fun _ => ?_
    unfold String.fromUTF8?
    split
    next valid =>
      rw [Option.some.injEq, ← String.toByteArray_inj, eq_comm]
      rfl
    next invalid =>
      simp only [reduceCtorEq, false_iff]
      rintro same
      exact invalid (same ▸ read.isValidUTF8)
  have spelled : bytesOf text = (String.ofList text).toByteArray.data.toList := by
    rw [bytesOf, toList_eq_data]
    rfl
  rw [read, spelled]
  constructor
  · rintro ⟨read, same, rfl⟩
    rw [String.ofList_toList, same]
  · rintro rfl
    exact ⟨String.ofList text, by simp, String.toList_ofList⟩

-- A percent sign with two digits behind it.
def Escaped (bytes : List UInt8) : Prop :=
  ∃ before byte rest, bytes = before ++ byte :: rest ∧ byte = percent ∧ (pair? rest).isSome = true

theorem escaped_cons_iff (byte : UInt8) (rest : List UInt8) :
    Escaped (byte :: rest) ↔ byte = percent ∧ (pair? rest).isSome = true ∨ Escaped rest :=
  exists_cut_cons

theorem pair?_isSome_iff (bytes : List UInt8) :
    (pair? bytes).isSome = true ↔ ∃ high low after, bytes = high :: low :: after ∧
      (hexValue? high).isSome = true ∧ (hexValue? low).isSome = true := by
  unfold pair?
  split
  next high low after =>
    cases highValue : hexValue? high <;> cases lowValue : hexValue? low <;>
      simp [highValue, lowValue]
  next other =>
    simp only [Option.isSome_none, Bool.false_eq_true, false_iff]
    rintro ⟨high, low, after, rfl, _⟩
    exact other high low after rfl

theorem length_of_pair? {bytes after : List UInt8} {value : UInt8}
    (read : pair? bytes = some (value, after)) : bytes.length = after.length + 2 := by
  unfold pair? at read
  split at read
  next high low rest =>
    simp only [Option.bind_eq_bind, Option.bind_eq_some_iff, Option.pure_def, Option.some.injEq,
      Prod.mk.injEq] at read
    obtain ⟨_, _, _, _, _, rfl⟩ := read
    rfl
  next => contradiction

theorem length_decode_le (bytes : List UInt8) : (decode bytes).length ≤ bytes.length := by
  fun_induction decode bytes with
  | case1 => exact Nat.le_refl _
  | case2 byte rest value after read ih =>
      exact Nat.succ_le_succ (Nat.le_trans ih (length_resume_le rest after))
  | case3 byte rest read ih => exact Nat.succ_le_succ ih

theorem length_decode_lt {bytes : List UInt8} (escaped : Escaped bytes) :
    (decode bytes).length < bytes.length := by
  fun_induction decode bytes with
  | case1 => simp [Escaped] at escaped
  | case2 byte rest value after read ih =>
      obtain ⟨_, paired⟩ := Option.ite_none_right_eq_some.mp read
      have digits := length_of_pair? paired
      have behind := length_decode_le (resume rest after)
      have skipped : (resume rest after).length = after.length := by
        rw [resume, List.length_drop]
        omega
      simp only [List.length_cons]
      omega
  | case3 byte rest read ih =>
      obtain ⟨sign, paired⟩ | behind := (escaped_cons_iff byte rest).mp escaped
      next =>
        rw [dif_pos sign] at read
        simp [read] at paired
      next => exact Nat.succ_lt_succ (ih behind)

theorem decode_of_not_escaped {bytes : List UInt8} (plain : ¬ Escaped bytes) :
    decode bytes = bytes := by
  fun_induction decode bytes with
  | case1 => rfl
  | case2 byte rest value after read ih =>
      obtain ⟨sign, paired⟩ := Option.ite_none_right_eq_some.mp read
      exact absurd ((escaped_cons_iff byte rest).mpr (.inl ⟨sign, by simp [paired]⟩)) plain
  | case3 byte rest read ih =>
      rw [escaped_cons_iff, not_or] at plain
      rw [ih plain.2]

theorem hexValue?_of_ascii {char : Char} {byte : UInt8} (code : char.toNat = byte.toNat) :
    (hexValue? byte).isSome = (hexDigit? char).isSome := by
  rw [hexValue?, ← code, Char.ofNat_toNat, Option.isSome_map]

theorem ascii_of_hexValue? {byte : UInt8} (digit : (hexValue? byte).isSome = true) :
    byte.toNat < 0x80 := by
  have code : (Char.ofNat byte.toNat).toNat = byte.toNat := by
    have size := byte.toNat_lt
    have valid : byte.toNat.isValidChar := .inl (by omega)
    rw [Char.ofNat, dif_pos valid]
    rfl
  rw [hexValue?, Option.isSome_map] at digit
  exact code ▸ ascii_of_hexDigit? digit

theorem escaped_bytesOf_iff (text : List Char) :
    Escaped (bytesOf text) ↔ ∃ before high low after, text = before ++ '%' :: high :: low :: after ∧
      (hexDigit? high).isSome = true ∧ (hexDigit? low).isSome = true := by
  constructor
  · rintro ⟨before, byte, rest, bytes, rfl, paired⟩
    obtain ⟨high, low, after, rfl, highDigit, lowDigit⟩ := (pair?_isSome_iff rest).mp paired
    have found : (bytesOf text)[before.length]? = some percent := by
      simp [bytes]
    obtain ⟨front, behind, rfl, length⟩ := exists_front_of_ascii found (by decide)
    rw [bytesOf_append] at bytes
    have bytes := (List.append_inj bytes length).2
    obtain ⟨sign, behind, rfl, signByte, bytes⟩ := exists_cons_of_bytesOf bytes (by decide)
    obtain ⟨first, behind, rfl, firstByte, bytes⟩ :=
      exists_cons_of_bytesOf bytes (ascii_of_hexValue? highDigit)
    obtain ⟨second, behind, rfl, secondByte, _⟩ :=
      exists_cons_of_bytesOf bytes (ascii_of_hexValue? lowDigit)
    obtain rfl : sign = '%' := Char.toNat_inj.mp signByte
    exact ⟨front, first, second, behind, rfl, hexValue?_of_ascii firstByte ▸ highDigit,
      hexValue?_of_ascii secondByte ▸ lowDigit⟩
  · rintro ⟨before, high, low, after, rfl, highDigit, lowDigit⟩
    have first := ascii_of_hexDigit? highDigit
    have second := ascii_of_hexDigit? lowDigit
    refine ⟨bytesOf before, percent, high.toNat.toUInt8 :: low.toNat.toUInt8 :: bytesOf after,
      ?_, rfl, ?_⟩
    · rw [bytesOf_append, bytesOf_cons, bytesOf_cons, bytesOf_cons, utf8EncodeChar_of_ascii first,
        utf8EncodeChar_of_ascii second]
      rfl
    · rw [pair?_isSome_iff]
      refine ⟨_, _, _, rfl, ?_, ?_⟩
      · rw [hexValue?_of_ascii (toNat_toUInt8_of_ascii first).symm, highDigit]
      · rw [hexValue?_of_ascii (toNat_toUInt8_of_ascii second).symm, lowDigit]

theorem decodeText?_of_not_escaped {text : List Char} (plain : ¬ Escaped (bytesOf text)) :
    decodeText? text = some text := by
  rw [decodeText?, decode_of_not_escaped plain, text?_eq_some_iff]

end Percent

end Workbench.Text
