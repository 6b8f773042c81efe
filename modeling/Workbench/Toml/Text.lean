import Workbench.Text.CharSet

set_option autoImplicit false

namespace Workbench.Toml

open Text (resume length_resume_le)

def isSpace (char : Char) : Bool :=
  char = ' ' || char = '\t'

def dropSpaces (text : List Char) : List Char :=
  text.dropWhile isSpace

def isPlain (char : Char) : Bool :=
  char = '\t' || (0x20 ≤ char.toNat && char.toNat ≠ 0x7F)

def afterBreak? : List Char -> Option (List Char)
  | '\n' :: rest => some rest
  | '\r' :: '\n' :: rest => some rest
  | _ => none

def skipComment? (text : List Char) : Option (List Char) :=
  match text with
  | '#' :: rest =>
      let after := rest.dropWhile isPlain
      if after.isEmpty || (afterBreak? after).isSome then some after else none
  | _ => some text

def endLine? (text : List Char) : Option (List Char) := do
  let rest ← skipComment? (dropSpaces text)
  if rest.isEmpty then pure [] else afterBreak? rest

def readCode? (count : Nat) (text : List Char) : Option (Char × List Char) :=
  let digits := text.take count
  if digits.length = count && digits.all (Text.isDigitOf 16) then
    let code := Text.digitsValue 16 digits
    if code.isValidChar then some (Char.ofNat code, text.drop count) else none
  else none

def readEscape? : List Char -> Option (Char × List Char)
  | 'b' :: rest => some ('\x08', rest)
  | 't' :: rest => some ('\t', rest)
  | 'n' :: rest => some ('\n', rest)
  | 'f' :: rest => some ('\x0c', rest)
  | 'r' :: rest => some ('\r', rest)
  | 'e' :: rest => some ('\x1b', rest)
  | '"' :: rest => some ('"', rest)
  | '\\' :: rest => some ('\\', rest)
  | 'x' :: rest => readCode? 2 rest
  | 'u' :: rest => readCode? 4 rest
  | 'U' :: rest => readCode? 8 rest
  | _ => none

def readBasic? : List Char -> Option (List Char × List Char)
  | [] => none
  | '"' :: rest => some ([], rest)
  | '\\' :: rest =>
      match readEscape? rest with
      | some (char, after) =>
          (readBasic? (resume rest after)).map fun (text, rest) => (char :: text, rest)
      | none => none
  | char :: rest =>
      if isPlain char then (readBasic? rest).map fun (text, rest) => (char :: text, rest)
      else none
termination_by text => text.length
decreasing_by
  · exact Nat.lt_succ_of_le (length_resume_le _ _)
  · simp

def readLiteral? : List Char -> Option (List Char × List Char)
  | [] => none
  | char :: rest =>
      if char = '\'' then some ([], rest)
      else if isPlain char then (readLiteral? rest).map fun (text, rest) => (char :: text, rest)
      else none

def skipBreaks : List Char -> List Char
  | [] => []
  | '\r' :: '\n' :: rest => skipBreaks rest
  | char :: rest =>
      if isSpace char || char = '\n' then skipBreaks rest else char :: rest

def joinLines? (text : List Char) : Option (List Char) :=
  (afterBreak? (dropSpaces text)).map skipBreaks

def closing? (quote : Char) (text : List Char) : Option (List Char × List Char) :=
  let run := (text.takeWhile (· = quote)).length
  if run < 3 then none
  else
    let used := min run 5
    some (List.replicate (used - 3) quote, text.drop used)

def readBasicLines? : List Char -> Option (List Char × List Char)
  | [] => none
  | '\\' :: rest =>
      match joinLines? rest with
      | some after => readBasicLines? (resume rest after)
      | none =>
          match readEscape? rest with
          | some (char, after) =>
              (readBasicLines? (resume rest after)).map fun (text, rest) => (char :: text, rest)
          | none => none
  | '\r' :: '\n' :: rest =>
      (readBasicLines? rest).map fun (text, rest) => ('\r' :: '\n' :: text, rest)
  | char :: rest =>
      match closing? '"' (char :: rest) with
      | some ending => some ending
      | none =>
          if isPlain char || char = '\n' then
            (readBasicLines? rest).map fun (text, rest) => (char :: text, rest)
          else none
termination_by text => text.length
decreasing_by
  · exact Nat.lt_succ_of_le (length_resume_le _ _)
  · exact Nat.lt_succ_of_le (length_resume_le _ _)
  · simp only [List.length_cons]; omega
  · simp

def readLiteralLines? : List Char -> Option (List Char × List Char)
  | [] => none
  | '\r' :: '\n' :: rest =>
      (readLiteralLines? rest).map fun (text, rest) => ('\r' :: '\n' :: text, rest)
  | char :: rest =>
      match closing? '\'' (char :: rest) with
      | some ending => some ending
      | none =>
          if isPlain char || char = '\n' then
            (readLiteralLines? rest).map fun (text, rest) => (char :: text, rest)
          else none

def dropFirstBreak (text : List Char) : List Char :=
  (afterBreak? text).getD text

def readString? (text : List Char) : Option (List Char × List Char) :=
  match text with
  | '"' :: '"' :: '"' :: rest => readBasicLines? (dropFirstBreak rest)
  | '\'' :: '\'' :: '\'' :: rest => readLiteralLines? (dropFirstBreak rest)
  | '"' :: rest => readBasic? rest
  | '\'' :: rest => readLiteral? rest
  | _ => none

def isBareKeyChar (char : Char) : Bool :=
  char.isAlphanum || char = '-' || char = '_'

def readSimpleKey? (text : List Char) : Option (List Char × List Char) :=
  match text with
  | '"' :: rest => readBasic? rest
  | '\'' :: rest => readLiteral? rest
  | _ =>
      let key := text.takeWhile isBareKeyChar
      if key.isEmpty then none else some (key, text.drop key.length)

def readKey? : List Char -> Option (List (List Char) × List Char)
  | [] => none
  | first :: tail =>
      match readSimpleKey? (dropSpaces (first :: tail)) with
      | none => none
      | some (key, rest) =>
          match dropSpaces rest with
          | '.' :: after =>
              (readKey? (resume tail after)).map fun (keys, rest) => (key :: keys, rest)
          | rest => some ([key], rest)
termination_by text => text.length
decreasing_by exact Nat.lt_succ_of_le (length_resume_le _ _)

end Workbench.Toml
