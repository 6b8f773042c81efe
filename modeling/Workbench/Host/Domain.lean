import Workbench.Host.Joiner
import Workbench.Host.Mapping
import Workbench.Host.Punycode
import Workbench.Text.Blank

set_option autoImplicit false

namespace Workbench.Domain

def isForbidden (char : Char) : Bool :=
  char.toNat ≤ 0x20 || char.toNat = 0x7F || "%#/:<>?@[\\]^|".toList.contains char

def isAsciiChar (char : Char) : Bool :=
  char.toNat < 0x80

def isAscii (text : List Char) : Bool :=
  text.all isAsciiChar

def mapChar? (char : Char) : Option (List Char) :=
  if isAsciiChar char then some [char.toLower] else Mapping.map? char

def mapped? (name : List Char) : Option (List Char) :=
  if isAscii name then some (name.map Char.toLower)
  else (name.mapM mapChar?).map fun parts => Composed.compose parts.flatten

def isAllowed (char : Char) : Bool :=
  if isAsciiChar char then !isForbidden char else mapChar? char = some [char]

def recentSpacingMarks : CharSet := .ofText
  "113B8-113BA 113C2 113C5 113C7-113CA 113CC-113CD 113CF 11B61 11B65 11B67 1612A-1612C"

def isMark (char : Char) : Bool :=
  Category.mark.contains char || Direction.recentMarks.contains char ||
    recentSpacingMarks.contains char

def isLabel (label : List Char) : Bool :=
  if isAscii label then label.all isAllowed
  else label.all isAllowed && !label.head?.any isMark && Joiner.allFit [] label

def allAgree (labels : List (List Char)) : Bool :=
  if labels.all isAscii then true else Direction.allAgree labels

def encodedMark : List Char := "xn--".toList

def maxEncoded : Nat := 2000

def maxPlain : Nat := 1000

def meant? (label : List Char) : Option (List Char) :=
  match Text.after? encodedMark label with
  | none => some label
  | some letters => do
      if !isAscii letters || maxEncoded < letters.length then none
      else
        let meant ← Punycode.decode? letters
        if isAscii meant || !meant.all isAllowed || Composed.compose meant ≠ meant ||
          encodedMark.isPrefixOf meant then none
        else some meant

def written? (label : List Char) : Option (List Char) :=
  if isAscii label then some label
  else if maxPlain < label.length then none
  else some (encodedMark ++ Punycode.encode label)

def ascii? (name : List Char) : Option (List Char) := do
  let labels := Text.splitOn '.' (← mapped? name)
  let meant ← labels.mapM meant?
  if meant.all isLabel && allAgree meant then
    pure (Text.joinWith '.' (← labels.mapM written?))
  else none

end Workbench.Domain
