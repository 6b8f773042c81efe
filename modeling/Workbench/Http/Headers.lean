import Workbench.Text.Percent

set_option autoImplicit false

namespace Workbench.Http

structure Header where
  name : String
  value : List UInt8
  deriving DecidableEq, Repr

abbrev Headers := List Header

def Header.ofText (name text : String) : Header :=
  ⟨name, text.toUTF8.toList⟩

def isNameChar (char : Char) : Bool :=
  char.isAlphanum || "!#$%&'*+-.^_`|~".toList.contains char

def maxNameLength : Nat := 65535

def headerName? (text : List Char) : Option String :=
  if !text.isEmpty && text.length ≤ maxNameLength && text.all isNameChar then
    some (String.ofList (text.map Char.toLower))
  else none

def isValueByte (byte : UInt8) : Bool :=
  (0x20 ≤ byte && byte ≠ 0x7F) || byte = 0x09

def isVisibleByte (byte : UInt8) : Bool :=
  (0x20 ≤ byte && byte < 0x7F) || byte = 0x09

def visibleText? (value : List UInt8) : Option (List Char) :=
  if value.all isVisibleByte then some (value.map fun byte => Char.ofNat byte.toNat) else none

def lowerByte (byte : UInt8) : UInt8 :=
  if 0x41 ≤ byte && byte ≤ 0x5A then byte + 0x20 else byte

def alike (value : List UInt8) (text : String) : Bool :=
  value.map lowerByte = text.toUTF8.toList.map lowerByte

namespace Headers

def values (headers : Headers) (name : String) : List (List UInt8) :=
  (headers.filter (·.name = name)).map (·.value)

def first? (headers : Headers) (name : String) : Option (List UInt8) :=
  (headers.values name).head?

def has (headers : Headers) (name : String) : Bool :=
  headers.any (·.name = name)

def without (headers : Headers) (name : String) : Headers :=
  headers.filter (·.name ≠ name)

def states (headers : Headers) (name text : String) : Bool :=
  (headers.first? name).any fun value => alike value text

def addMissing (headers : Headers) (header : Header) : Headers :=
  if headers.has header.name then headers else headers ++ [header]

end Headers

end Workbench.Http
