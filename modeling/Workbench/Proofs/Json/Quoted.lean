import Workbench.Json.Token
import Workbench.Proofs.Text.Split

set_option autoImplicit false

namespace Workbench

theorem Text.resume_append {α : Type} (front behind : List α) :
    resume (front ++ behind) behind = behind := by
  rw [resume, List.length_append, Nat.add_sub_cancel, List.drop_left]

namespace Json

theorem hexDigit?_hexDigit : ∀ value < 16, Text.hexDigit? (hexDigit value) = some value := by
  decide

theorem hexUnit?_of_control {char : Char} (control : char.toNat < 0x20) (rest : List Char) :
    hexUnit? ('0' :: '0' :: hexDigit (char.toNat / 16) :: hexDigit (char.toNat % 16) :: rest) =
      some (char.toNat, rest) := by
  have high := hexDigit?_hexDigit (char.toNat / 16) (by omega)
  have low := hexDigit?_hexDigit (char.toNat % 16) (by omega)
  have zero : Text.hexDigit? '0' = some 0 := by decide
  have value : char.toNat / 16 * 16 + char.toNat % 16 = char.toNat := by omega
  simp [hexUnit?, zero, high, low, value]

theorem units?_escape {letter char : Char} (escaped : escape? letter = some char)
    (rest : List Char) :
    units? ('\\' :: letter :: rest) =
      (units? rest).map fun (units, after) => (.inl char :: units, after) := by
  have noCode : letter ≠ 'u' := by
    rintro rfl
    contradiction
  rw [units?.eq_4 letter rest noCode, escaped]
  cases units? rest <;> rfl

theorem unitOf_of_control {char : Char} (control : char.toNat < 0x20) :
    unitOf char.toNat = .inl char := by
  have noHalf : ¬ 0xD800 ≤ char.toNat := by omega
  simp [unitOf, noHalf, Char.ofNat_toNat]

theorem units?_encodeChar (char : Char) (rest : List Char) :
    units? (encodeChar char ++ rest) =
      (units? rest).map fun (units, after) => (.inl char :: units, after) := by
  unfold encodeChar
  split_ifs with quote backslash back feed line carriage tab control
  next =>
    subst quote
    exact units?_escape rfl rest
  next =>
    subst backslash
    exact units?_escape rfl rest
  next =>
    subst back
    exact units?_escape rfl rest
  next =>
    subst feed
    exact units?_escape rfl rest
  next =>
    subst line
    exact units?_escape rfl rest
  next =>
    subst carriage
    exact units?_escape rfl rest
  next =>
    subst tab
    exact units?_escape rfl rest
  next =>
    have resumed (first second third fourth : Char) :
        Text.resume (first :: second :: third :: fourth :: rest) rest = rest :=
      Text.resume_append [first, second, third, fourth] rest
    simp only [List.cons_append, List.nil_append]
    rw [units?.eq_3, hexUnit?_of_control control]
    simp only [Option.bind_eq_bind, Option.bind_some, resumed, unitOf_of_control control]
    cases units? rest <;> rfl
  next =>
    rw [List.singleton_append, units?.eq_5 char rest quote, if_neg control]
    next => exact fun _ same => absurd same backslash
    next => exact fun _ _ same => absurd same backslash

theorem units?_flatMap (text rest : List Char) :
    units? (text.flatMap encodeChar ++ '"' :: rest) = some (text.map .inl, rest) := by
  induction text with
  | nil => rw [List.flatMap_nil, List.nil_append, units?.eq_2, List.map_nil]
  | cons char text ih =>
      rw [List.flatMap_cons, List.append_assoc, units?_encodeChar, ih]
      rfl

theorem joinUnits?_map (text : List Char) : joinUnits? (text.map .inl) = some text := by
  induction text with
  | nil => rfl
  | cons char text ih => rw [List.map_cons, joinUnits?, ih, Option.map_some]

theorem token?_renderString (text : String) (rest : List Char) :
    token? (renderString text ++ rest) = some (.scalar (.string text), rest) := by
  have whole : renderString text ++ rest =
      '"' :: (text.toList.flatMap encodeChar ++ '"' :: rest) := by
    simp [renderString]
  have said : stringOf (text.toList.map .inl) = .string text := by
    rw [stringOf, joinUnits?_map]
    simp
  rw [whole, token?, units?_flatMap, Option.map_some]
  simp only [said]

end Json

end Workbench
