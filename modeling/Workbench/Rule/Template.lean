import Workbench.Pattern.Machine

set_option autoImplicit false

namespace Workbench.Template

def groupLimit : Nat := UInt64.size

def groupText (groups : Option Groups) (digits : List Char) : List Char :=
  let number := Text.digitsValue 10 digits
  if number < groupLimit then ((groups.bind fun texts => texts number).getD []) else []

def endReference (groups : Option Groups) (digits : List Char) : List Char :=
  if digits.isEmpty then ['$'] else groupText groups digits

/-- Expands the rest of a template; `reference` holds the digits behind a dollar sign, last first,
while one is being read. -/
def expandFrom (groups : Option Groups) (reference : Option (List Char)) :
    List Char -> List Char
  | [] => (reference.map fun digits => endReference groups digits.reverse).getD []
  | char :: rest =>
      match reference with
      | none =>
          if char = '$' then expandFrom groups (some []) rest
          else char :: expandFrom groups none rest
      | some digits =>
          if char.isDigit then expandFrom groups (some (char :: digits)) rest
          else
            endReference groups digits.reverse ++
              (if char = '$' then expandFrom groups (some []) rest
                else char :: expandFrom groups none rest)

def expand (template : List Char) (groups : Option Groups) : List Char :=
  expandFrom groups none template

end Workbench.Template
