set_option autoImplicit false

namespace Workbench.Pattern

structure Flags where
  ignoreCase : Bool := false
  multiLine : Bool := false
  dotAll : Bool := false
  swapGreed : Bool := false
  unicode : Bool := true
  crlf : Bool := false
  ignoreBlanks : Bool := false
  deriving DecidableEq, Repr

def Flags.set? (flags : Flags) (letter : Char) (value : Bool) : Option Flags :=
  match letter with
  | 'i' => some { flags with ignoreCase := value }
  | 'm' => some { flags with multiLine := value }
  | 's' => some { flags with dotAll := value }
  | 'U' => some { flags with swapGreed := value }
  | 'u' => some { flags with unicode := value }
  | 'R' => some { flags with crlf := value }
  | 'x' => some { flags with ignoreBlanks := value }
  | _ => none

structure FlagList where
  flags : Flags
  isEmpty : Bool
  ending : Char
  rest : List Char

def FlagList.read? (flags : Flags) (seen : List Char) (afterDash : Bool) :
    List Char -> Option FlagList
  | [] => none
  | char :: rest =>
      if char = ':' || char = ')' then
        if seen.head? = some '-' then none else some ⟨flags, seen.isEmpty, char, rest⟩
      else if seen.contains char then none
      else if char = '-' then FlagList.read? flags (char :: seen) true rest
      else
        match flags.set? char (!afterDash) with
        | some flags => FlagList.read? flags (char :: seen) afterDash rest
        | none => none

end Workbench.Pattern
