import Workbench.Json.Value
import Workbench.Text.Number

set_option autoImplicit false

namespace Workbench.Json

open Text (resume length_resume_le)

inductive Token
  | openArray
  | closeArray
  | openObject
  | closeObject
  | comma
  | colon
  | scalar (value : Value)

abbrev StringUnit := Char ⊕ Nat

def hexUnit? : List Char -> Option (Nat × List Char)
  | first :: second :: third :: fourth :: rest => do
      let a ← Text.hexDigit? first
      let b ← Text.hexDigit? second
      let c ← Text.hexDigit? third
      let d ← Text.hexDigit? fourth
      pure (((a * 16 + b) * 16 + c) * 16 + d, rest)
  | _ => none

def escape? : Char -> Option Char
  | '"' => some '"'
  | '\\' => some '\\'
  | '/' => some '/'
  | 'b' => some '\x08'
  | 'f' => some '\x0c'
  | 'n' => some '\n'
  | 'r' => some '\r'
  | 't' => some '\t'
  | _ => none

def unitOf (code : Nat) : StringUnit :=
  if 0xD800 ≤ code && code ≤ 0xDFFF then .inr code else .inl (Char.ofNat code)

def units? : List Char -> Option (List StringUnit × List Char)
  | [] => none
  | '"' :: rest => some ([], rest)
  | '\\' :: 'u' :: rest => do
      let (code, after) ← hexUnit? rest
      let (units, after) ← units? (resume rest after)
      pure (unitOf code :: units, after)
  | '\\' :: letter :: rest => do
      let char ← escape? letter
      let (units, after) ← units? rest
      pure (.inl char :: units, after)
  | char :: rest =>
      if char.toNat < 0x20 then none
      else (units? rest).map fun (units, after) => (.inl char :: units, after)
termination_by text => text.length
decreasing_by
  · have := length_resume_le rest after
    simp only [List.length_cons]
    omega
  · simp only [List.length_cons]; omega
  · simp

def isHighHalf (code : Nat) : Bool := code < 0xDC00

def pairChar (high low : Nat) : Char :=
  Char.ofNat (0x10000 + (high - 0xD800) * 0x400 + (low - 0xDC00))

def joinUnits? : List StringUnit -> Option (List Char)
  | [] => some []
  | .inl char :: rest => (joinUnits? rest).map (char :: ·)
  | .inr high :: .inr low :: rest =>
      if isHighHalf high && !isHighHalf low then
        (joinUnits? rest).map (pairChar high low :: ·)
      else none
  | .inr _ :: _ => none

def stringOf (units : List StringUnit) : Value :=
  match joinUnits? units with
  | some chars => .string (String.ofList chars)
  | none => .unpaired

def digits (text : List Char) : List Char × List Char :=
  (text.takeWhile Char.isDigit, text.dropWhile Char.isDigit)

def someDigits? (text : List Char) : Option (List Char × List Char) :=
  let (read, rest) := digits text
  if read.isEmpty then none else some (read, rest)

def whole? : List Char -> Option (List Char × List Char)
  | '0' :: rest => if (rest.head?.map Char.isDigit).getD false then none else some (['0'], rest)
  | text => someDigits? text

def fraction? : List Char -> Option (List Char × List Char)
  | '.' :: rest => (someDigits? rest).map fun (read, rest) => ('.' :: read, rest)
  | text => some ([], text)

def exponentSign : List Char -> List Char × List Char
  | '+' :: rest => (['+'], rest)
  | '-' :: rest => (['-'], rest)
  | text => ([], text)

def exponent? : List Char -> Option (List Char × List Char)
  | [] => some ([], [])
  | char :: rest =>
      if char = 'e' || char = 'E' then
        let (sign, rest) := exponentSign rest
        (someDigits? rest).map fun (read, rest) => (char :: sign ++ read, rest)
      else some ([], char :: rest)

def number? (text : List Char) : Option (List Char × List Char) := do
  let (sign, rest) :=
    match text with
    | '-' :: rest => (['-'], rest)
    | text => ([], text)
  let (whole, rest) ← whole? rest
  let (fraction, rest) ← fraction? rest
  let (exponent, rest) ← exponent? rest
  pure (sign ++ whole ++ fraction ++ exponent, rest)

def token? : List Char -> Option (Token × List Char)
  | [] => none
  | '[' :: rest => some (.openArray, rest)
  | ']' :: rest => some (.closeArray, rest)
  | '\x7b' :: rest => some (.openObject, rest)
  | '\x7d' :: rest => some (.closeObject, rest)
  | ',' :: rest => some (.comma, rest)
  | ':' :: rest => some (.colon, rest)
  | '"' :: rest => (units? rest).map fun (units, after) => (.scalar (stringOf units), after)
  | 'n' :: 'u' :: 'l' :: 'l' :: rest => some (.scalar .null, rest)
  | 't' :: 'r' :: 'u' :: 'e' :: rest => some (.scalar (.bool true), rest)
  | 'f' :: 'a' :: 'l' :: 's' :: 'e' :: rest => some (.scalar (.bool false), rest)
  | text => (number? text).map fun (digits, after) => (.scalar (.number digits), after)

def isBlank (char : Char) : Bool :=
  char = ' ' || char = '\n' || char = '\t' || char = '\r'

def tokens? : List Char -> Option (List Token)
  | [] => some []
  | char :: rest =>
      if isBlank char then tokens? rest
      else
        match token? (char :: rest) with
        | none => none
        | some (token, after) => (tokens? (resume rest after)).map (token :: ·)
termination_by text => text.length
decreasing_by
  · simp
  · exact Nat.lt_succ_of_le (length_resume_le _ _)

end Workbench.Json
