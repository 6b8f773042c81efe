import Workbench.Text.Property
import Workbench.Text.Script

set_option autoImplicit false

namespace Workbench.Text

def looseName (name : List Char) : String :=
  let bare :=
    match name with
    | first :: second :: rest =>
        if first.toLower = 'i' && second.toLower = 's' then rest else name
    | _ => name
  let kept := bare.filter fun char =>
    char.toNat < 0x80 && char ≠ ' ' && char ≠ '_' && char ≠ '-'
  String.ofList (kept.map Char.toLower)

def lookupNamed (name : String) : List (List String × CharSet) -> Option CharSet
  | [] => none
  | (names, set) :: rest => if names.contains name then some set else lookupNamed name rest

def selectNamed? (name : List Char) : Option CharSet :=
  let loose := looseName name
  let property :=
    if ["cf", "sc", "lc"].contains loose then none else lookupNamed loose Property.named
  property <|> lookupNamed loose Category.named <|> lookupNamed loose Script.named

def selectValue? (property value : List Char) : Option CharSet :=
  let loose := looseName value
  match looseName property with
  | "gc" | "generalcategory" => lookupNamed loose Category.named
  | "sc" | "script" | "scx" | "scriptextensions" => lookupNamed loose Script.named
  | _ => none

def asciiClass? (name : List Char) : Option CharSet :=
  let table := fun text => some (CharSet.ofText text)
  match String.ofList name with
  | "alnum" => table "30-39 41-5A 61-7A"
  | "alpha" => table "41-5A 61-7A"
  | "ascii" => table "0-7F"
  | "blank" => table "9 20"
  | "cntrl" => table "0-1F 7F"
  | "digit" => table "30-39"
  | "graph" => table "21-7E"
  | "lower" => table "61-7A"
  | "print" => table "20-7E"
  | "punct" => table "21-2F 3A-40 5B-60 7B-7E"
  | "space" => table "9-D 20"
  | "upper" => table "41-5A"
  | "word" => table "30-39 41-5A 5F 61-7A"
  | "xdigit" => table "30-39 41-46 61-66"
  | _ => none

end Workbench.Text
