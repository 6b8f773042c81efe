import Workbench.Text.Number

set_option autoImplicit false

namespace Workbench.Punycode

def base : Nat := 36

def least : Nat := 1

def most : Nat := 26

def firstOther : Nat := 0x80

def startBias : Nat := 72

def digitChar (digit : Nat) : Char :=
  if digit < 26 then Char.ofNat ('a'.toNat + digit) else Char.ofNat ('0'.toNat + (digit - 26))

def digit? (char : Char) : Option Nat :=
  if char.isDigit then some (char.toNat - '0'.toNat + 26)
  else if char.isAlpha then some (char.toLower.toNat - 'a'.toNat)
  else none

def threshold (bias position : Nat) : Nat :=
  max least (min most (position - bias))

theorem least_le_threshold (bias position : Nat) : least ≤ threshold bias position :=
  Nat.le_max_left _ _

def scaleLimit : Nat := (base - least) * most / 2

def scaled (position steps : Nat) : Nat :=
  if scaleLimit < steps then scaled (position + base) (steps / (base - least))
  else position + (base - least + 1) * steps / (steps + 38)
termination_by steps
decreasing_by exact Nat.div_lt_self (by omega) (by decide)

def adapted (steps length : Nat) (isFirst : Bool) : Nat :=
  let damped := if isFirst then steps / 700 else steps / 2
  scaled 0 (damped + damped / length)

def digitsOf (bias position steps : Nat) : List Char :=
  let limit := threshold bias position
  if steps < limit then [digitChar steps]
  else
    let excess := steps - limit
    digitChar (limit + excess % (base - limit)) ::
      digitsOf bias (position + base) (excess / (base - limit))
termination_by steps
decreasing_by
  have := least_le_threshold bias position
  have : (steps - threshold bias position) / (base - threshold bias position) ≤
      steps - threshold bias position := Nat.div_le_self _ _
  simp only [least] at *
  omega

structure Writer where
  steps : Nat := 0
  bias : Nat := startBias
  count : Nat
  isFirst : Bool := true
  out : List Char := []

def Writer.pass (code : Nat) (writer : Writer) (char : Char) : Writer :=
  if char.toNat < code then { writer with steps := writer.steps + 1 }
  else if char.toNat = code then
    { steps := 0
      bias := adapted writer.steps (writer.count + 1) writer.isFirst
      count := writer.count + 1
      isFirst := false
      out := (digitsOf writer.bias base writer.steps).reverse ++ writer.out }
  else writer

def Writer.write (text : List Char) (writer : Writer) (code : Nat) : List Nat -> Writer
  | [] => writer
  | next :: rest =>
      let skipped := { writer with steps := writer.steps + (next - code) * (writer.count + 1) }
      let written := text.foldl (Writer.pass next) skipped
      Writer.write text { written with steps := written.steps + 1 } (next + 1) rest

def isBasic (char : Char) : Bool :=
  char.toNat < firstOther

def otherCodes (text : List Char) : List Nat :=
  let codes := (text.filter (!isBasic ·)).map Char.toNat
  (codes.mergeSort fun left right => left ≤ right).eraseDups

def encode (text : List Char) : List Char :=
  let basic := text.filter isBasic
  let writer := Writer.write text { count := basic.length } firstOther (otherCodes text)
  (if basic.isEmpty then [] else basic ++ ['-']) ++ writer.out.reverse

def steps? (bias position weight sum : Nat) : List Char -> Option (Nat × List Char)
  | [] => none
  | char :: rest => do
      let digit ← digit? char
      let limit := threshold bias position
      let sum := sum + digit * weight
      if digit < limit then pure (sum, rest)
      else steps? bias (position + base) (weight * (base - limit)) sum rest

theorem length_of_steps? {bias position weight sum : Nat} {text : List Char} {read : Nat}
    {rest : List Char} (found : steps? bias position weight sum text = some (read, rest)) :
    rest.length < text.length := by
  induction text generalizing position weight sum with
  | nil => simp [steps?] at found
  | cons char tail ih =>
    simp only [steps?, Option.bind_eq_bind, Option.bind_eq_some_iff] at found
    obtain ⟨digit, -, found⟩ := found
    split at found
    next =>
      simp only [pure, Option.some.injEq, Prod.mk.injEq] at found
      simp [found.2]
    next => exact Nat.lt_succ_of_lt (ih found)

def insertAt (text : List Char) (index : Nat) (char : Char) : List Char :=
  text.take index ++ char :: text.drop index

def insertAll? (text : List Char) (code index bias : Nat) (isFirst : Bool) :
    List Char -> Option (List Char)
  | [] => some text
  | digit :: digits =>
      match found : steps? bias base 1 0 (digit :: digits) with
      | none => none
      | some (steps, rest) =>
          let length := text.length + 1
          let place := index + steps
          let code := code + place / length
          if code.isValidChar then
            insertAll? (insertAt text (place % length) (Char.ofNat code)) code
              (place % length + 1) (adapted steps length isFirst) false rest
          else none
termination_by digits => digits.length
decreasing_by exact length_of_steps? found

def split (text : List Char) : List Char × List Char :=
  let digits := (text.reverse.takeWhile (· ≠ '-')).reverse
  let basic := text.take (text.length - digits.length)
  if basic.length ≤ 1 then ([], text) else (basic.dropLast, digits)

def decode? (text : List Char) : Option (List Char) :=
  let (basic, digits) := split text
  if basic.all isBasic then insertAll? basic firstOther 0 startBias true digits else none

end Workbench.Punycode
