import Workbench.Text.Blank
import Workbench.Text.Number
import Workbench.Toml.Value

set_option autoImplicit false

namespace Workbench.Toml

def bareDigits? (isDigit : Char -> Bool) (text : List Char) : Option (List Char) :=
  let groups := Text.splitOn '_' text
  if groups.all (fun group => !group.isEmpty && group.all isDigit) then some groups.flatten
  else none

def decimal? (text : List Char) : Option Nat := do
  let digits ← bareDigits? Char.isDigit text
  if digits.length > 1 && digits.head? = some '0' then none
  else pure (Text.digitsValue 10 digits)

def cutSign (text : List Char) : Bool × Bool × List Char :=
  match text with
  | '-' :: rest => (true, true, rest)
  | '+' :: rest => (true, false, rest)
  | _ => (false, false, text)

def integer? (text : List Char) : Option Int :=
  let based := fun base digits =>
    (bareDigits? (Text.isDigitOf base) digits).map fun digits =>
      Int.ofNat (Text.digitsValue base digits)
  match text with
  | '0' :: 'x' :: digits => based 16 digits
  | '0' :: 'o' :: digits => based 8 digits
  | '0' :: 'b' :: digits => based 2 digits
  | _ =>
      let (_, negative, digits) := cutSign text
      (decimal? digits).map fun value => if negative then -Int.ofNat value else Int.ofNat value

def cutExponent? (text : List Char) : Option (List Char × List Char) :=
  Text.cutAt? 'e' (text.map fun char => if char = 'E' then 'e' else char)

def isExponent (text : List Char) : Bool :=
  let (_, _, digits) := cutSign text
  (bareDigits? Char.isDigit digits).isSome

def isMantissa (needsFraction : Bool) (text : List Char) : Bool :=
  let (_, _, body) := cutSign text
  match Text.cutAt? '.' body with
  | some (whole, fraction) =>
      (decimal? whole).isSome && (bareDigits? Char.isDigit fraction).isSome
  | none => !needsFraction && (decimal? body).isSome

def isFloat (text : List Char) : Bool :=
  let (_, _, body) := cutSign text
  if body = ['i', 'n', 'f'] || body = ['n', 'a', 'n'] then true
  else
    match cutExponent? text with
    | some (mantissa, exponent) => isMantissa false mantissa && isExponent exponent
    | none => isMantissa true text

-- From here on a number is nearer to infinity than to the largest floating point number.
def floatLimit : Nat := Nat.pow 2 1024 - Nat.pow 2 970

/-- Is a float below the limit? Further digits of a large exponent make no difference: they only
add zeros to a number that has passed the limit, or has come down to less than one. -/
def fitsFloat (text : List Char) : Bool :=
  let (_, _, body) := cutSign text
  let (mantissa, exponent) := (cutExponent? body).getD (body, [])
  let (whole, fraction) := (Text.cutAt? '.' mantissa).getD (mantissa, [])
  let (_, negative, shift) := cutSign exponent
  let digits := (whole ++ fraction).filter Char.isDigit
  let value := Text.digitsValue 10 digits
  let shift := Text.digitsValue 10 (shift.filter Char.isDigit)
  let places := (fraction.filter Char.isDigit).length
  if negative then value < floatLimit * Nat.pow 10 (places + min shift digits.length)
  else value * Nat.pow 10 (min shift (places + 310)) < floatLimit * Nat.pow 10 places

def fitsInteger (value : Int) : Bool :=
  if value < 0 then value.natAbs ≤ Nat.pow 2 127 else value.natAbs < Nat.pow 2 128

def fixedDigits? (count : Nat) (text : List Char) : Option Nat :=
  if text.length = count then Text.number? 10 text else none

def daysInMonth (year month : Nat) : Nat :=
  if month = 2 then
    if year % 4 = 0 && (year % 100 ≠ 0 || year % 400 = 0) then 29 else 28
  else if month = 4 || month = 6 || month = 9 || month = 11 then 30
  else 31

def isCalendarDate (text : List Char) : Bool :=
  match Text.splitOn '-' text with
  | [year, month, day] =>
      match fixedDigits? 4 year, fixedDigits? 2 month, fixedDigits? 2 day with
      | some year, some month, some day =>
          1 ≤ month && month ≤ 12 && 1 ≤ day && day ≤ daysInMonth year month
      | _, _, _ => false
  | _ => false

def isSecond (text : List Char) : Bool :=
  let (whole, fraction) := (Text.cutAt? '.' text).getD (text, ['0'])
  (fixedDigits? 2 whole).any (· ≤ 60) && !fraction.isEmpty && fraction.all Char.isDigit

def isHourMinute (hour minute : List Char) : Bool :=
  (fixedDigits? 2 hour).any (· ≤ 23) && (fixedDigits? 2 minute).any (· ≤ 59)

def isClockTime (text : List Char) : Bool :=
  match Text.splitOn ':' text with
  | [hour, minute] => isHourMinute hour minute
  | [hour, minute, second] => isHourMinute hour minute && isSecond second
  | _ => false

def isZonedTime (text : List Char) : Bool :=
  let offset := fun mark =>
    match Text.cutAt? mark text with
    | some (time, zone) =>
        isClockTime time &&
          (match Text.splitOn ':' zone with
            | [hour, minute] => isHourMinute hour minute
            | _ => false)
    | none => false
  match text.getLast? with
  | some 'Z' => isClockTime text.dropLast
  | some 'z' => isClockTime text.dropLast
  | _ => isClockTime text || offset '+' || offset '-'

def isDateTimeMark (char : Char) : Bool :=
  char = 'T' || char = 't' || char = ' '

def isDate (text : List Char) : Bool :=
  if text.length ≤ 10 then isCalendarDate text || isClockTime text
  else
    isClockTime text ||
      (isCalendarDate (text.take 10) &&
        match text.drop 10 with
        | mark :: time => isDateTimeMark mark && isZonedTime time
        | [] => false)

def scalar? (word : List Char) : Option Value :=
  if word = ['t', 'r', 'u', 'e'] then some (.boolean true)
  else if word = ['f', 'a', 'l', 's', 'e'] then some (.boolean false)
  else
    match integer? word with
    | some value => if fitsInteger value then some (.integer value) else none
    | none =>
        if isFloat word then (if fitsFloat word then some (.float word) else none)
        else if isDate word then some (.date word)
        else none

def endsWord (char : Char) : Bool :=
  char = ' ' || char = '\t' || char = '\n' || char = '\r' || char = ',' || char = ']' ||
    char = '\x7d' || char = '#'

def takeWord (text : List Char) : List Char × List Char :=
  let word := text.takeWhile (!endsWord ·)
  let rest := text.drop word.length
  match rest with
  | ' ' :: tens :: ones :: ':' :: _ =>
      if isCalendarDate word && tens.isDigit && ones.isDigit then
        let time := (rest.drop 1).takeWhile (!endsWord ·)
        (word ++ ' ' :: time, rest.drop (1 + time.length))
      else (word, rest)
  | _ => (word, rest)

end Workbench.Toml
