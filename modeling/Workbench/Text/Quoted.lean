import Workbench.Text.Property

set_option autoImplicit false

namespace Workbench.Text.Quoted

def isVisible (char : Char) : Bool :=
  if char.toNat < 0x7F then 0x20 ≤ char.toNat
  else
    !(Category.other.contains char || Category.separator.contains char ||
      Property.graphemeExtend.contains char)

def hexDigits (code : Nat) : List Char :=
  Nat.toDigits 16 code

def encodeChar (char : Char) : List Char :=
  if char = '"' then ['\\', '"']
  else if char = '\\' then ['\\', '\\']
  else if char = '\n' then ['\\', 'n']
  else if char = '\r' then ['\\', 'r']
  else if char = '\t' then ['\\', 't']
  else if char.toNat = 0 then ['\\', '0']
  else if isVisible char then [char]
  else ['\\', 'u', '\x7b'] ++ hexDigits char.toNat ++ ['\x7d']

def encode (text : List Char) : List Char :=
  text.flatMap encodeChar

end Quoted

def quote (text : String) : String :=
  String.ofList ('"' :: Quoted.encode text.toList ++ ['"'])

end Workbench.Text
