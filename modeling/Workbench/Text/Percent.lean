import Workbench.Text.Blank
import Workbench.Text.Number

set_option autoImplicit false

namespace Workbench.Text.Percent

def bytesOf (text : List Char) : List UInt8 :=
  (String.ofList text).toUTF8.toList

def text? (bytes : List UInt8) : Option (List Char) :=
  (String.fromUTF8? ⟨bytes.toArray⟩).map (·.toList)

def percent : UInt8 := 0x25

def hexValue? (byte : UInt8) : Option UInt8 :=
  (hexDigit? (Char.ofNat byte.toNat)).map (·.toUInt8)

def pair? : List UInt8 -> Option (UInt8 × List UInt8)
  | high :: low :: after => do
      let high ← hexValue? high
      let low ← hexValue? low
      pure (high * 16 + low, after)
  | _ => none

def decode : List UInt8 -> List UInt8
  | [] => []
  | byte :: rest =>
      match if byte = percent then pair? rest else none with
      | some (value, after) => value :: decode (resume rest after)
      | none => byte :: decode rest
termination_by bytes => bytes.length
decreasing_by
  · exact Nat.lt_succ_of_le (length_resume_le _ _)
  · simp

def decodeText? (text : List Char) : Option (List Char) :=
  text? (decode (bytesOf text))

def hexDigit (value : Nat) : Char :=
  if value < 10 then Char.ofNat ('0'.toNat + value) else Char.ofNat ('A'.toNat + (value - 10))

def encodeByte (byte : UInt8) : List Char :=
  ['%', hexDigit (byte.toNat / 16), hexDigit (byte.toNat % 16)]

def encodeChar (keep : Char -> Bool) (char : Char) : List Char :=
  if keep char then [char] else (bytesOf [char]).flatMap encodeByte

def encode (keep : Char -> Bool) (text : List Char) : List Char :=
  text.flatMap (encodeChar keep)

end Workbench.Text.Percent
