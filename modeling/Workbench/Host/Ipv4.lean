import Workbench.Text.Blank
import Workbench.Text.Number

set_option autoImplicit false

namespace Workbench

structure Ipv4 where
  first : UInt8
  second : UInt8
  third : UInt8
  fourth : UInt8
  deriving DecidableEq, Repr

namespace Ipv4

def octet? (text : List Char) : Option UInt8 :=
  ((Text.plainNumber? 10 text).filter (· < 256)).map (·.toUInt8)

def parse? (text : List Char) : Option Ipv4 :=
  match (Text.splitOn '.' text).mapM octet? with
  | some [first, second, third, fourth] => some ⟨first, second, third, fourth⟩
  | _ => none

def ofNat (value : Nat) : Ipv4 where
  first := (value / Nat.pow 256 3).toUInt8
  second := (value / Nat.pow 256 2).toUInt8
  third := (value / 256).toUInt8
  fourth := value.toUInt8

def looseNumber? (text : List Char) : Option Nat :=
  match text with
  | ['0'] | ['0', 'x'] => some 0
  | '0' :: 'x' :: digits => Text.number? 16 digits
  | '0' :: digits => Text.number? 8 digits
  | digits => Text.number? 10 digits

def parts (name : List Char) : List (List Char) :=
  match (Text.splitOn '.' name).reverse with
  | [] :: before => before.reverse
  | _ => Text.splitOn '.' name

def isMeant (name : List Char) : Bool :=
  match (parts name).getLast? with
  | none => false
  | some last => (!last.isEmpty && last.all Char.isDigit) || (looseNumber? last).isSome

def value? (index : Nat) : List Nat -> Option Nat
  | [] => none
  | [last] => if last < Nat.pow 256 (4 - index) then some last else none
  | number :: rest => do
      let rest ← value? (index + 1) rest
      if number < 256 && index < 3 then pure (number * Nat.pow 256 (3 - index) + rest) else none

def parseLoose? (name : List Char) : Option Ipv4 := do
  let numbers ← (parts name).mapM looseNumber?
  pure (ofNat (← value? 0 numbers))

def octetText (octet : UInt8) : List Char :=
  Nat.toDigits 10 octet.toNat

def octets (address : Ipv4) : List UInt8 :=
  [address.first, address.second, address.third, address.fourth]

def text (address : Ipv4) : List Char :=
  Text.joinWith '.' (address.octets.map octetText)

end Ipv4

end Workbench
