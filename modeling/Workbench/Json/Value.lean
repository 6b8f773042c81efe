import Workbench.Text.Blank

set_option autoImplicit false

namespace Workbench.Json

inductive Value
  | null
  | bool (value : Bool)
  | number (text : List Char)
  | string (text : String)
  | unpaired
  | array (items : List Value)
  | object (members : List (String × Value))

def hexDigit (value : Nat) : Char :=
  if value < 10 then Char.ofNat ('0'.toNat + value) else Char.ofNat ('a'.toNat + (value - 10))

def encodeChar (char : Char) : List Char :=
  if char = '"' then ['\\', '"']
  else if char = '\\' then ['\\', '\\']
  else if char = '\x08' then ['\\', 'b']
  else if char = '\x0c' then ['\\', 'f']
  else if char = '\n' then ['\\', 'n']
  else if char = '\r' then ['\\', 'r']
  else if char = '\t' then ['\\', 't']
  else if char.toNat < 0x20 then
    ['\\', 'u', '0', '0', hexDigit (char.toNat / 16), hexDigit (char.toNat % 16)]
  else [char]

def renderString (text : String) : List Char :=
  '"' :: text.toList.flatMap encodeChar ++ ['"']

def Value.render : Value -> List Char
  | .null | .unpaired => "null".toList
  | .bool true => "true".toList
  | .bool false => "false".toList
  | .number text => text
  | .string text => renderString text
  | .array items =>
      '[' :: Text.joinWith ',' (items.attach.map fun ⟨item, _⟩ => item.render) ++ [']']
  | .object members =>
      '\x7b' :: Text.joinWith ',' (members.attach.map fun ⟨(key, value), _⟩ =>
        renderString key ++ ':' :: value.render) ++ ['\x7d']
termination_by value => sizeOf value
decreasing_by
  · have := List.sizeOf_lt_of_mem ‹item ∈ items›
    simp only [Value.array.sizeOf_spec]
    omega
  · have := List.sizeOf_lt_of_mem ‹(key, value) ∈ members›
    simp only [Prod.mk.sizeOf_spec] at this
    simp only [Value.object.sizeOf_spec]
    omega

end Workbench.Json
