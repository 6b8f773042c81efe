import Workbench.Text.Blank

set_option autoImplicit false

namespace Workbench

inductive Token
  | separator
  | long (name : List Char) (value : Option (List Char))
  | short (letters : List Char)
  | word (text : List Char)
  deriving DecidableEq, Repr

def Token.ofText (text : List Char) : Token :=
  match text with
  | ['-', '-'] => .separator
  | '-' :: '-' :: rest =>
      match Text.cutAt? '=' rest with
      | some (name, value) => .long name (some value)
      | none => .long rest none
  | ['-'] => .word text
  | '-' :: letters => .short letters
  | _ => .word text

end Workbench
