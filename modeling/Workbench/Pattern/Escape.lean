import Workbench.Pattern.Flags
import Workbench.Pattern.Node
import Workbench.Text.Blank
import Workbench.Text.CaseFold
import Workbench.Text.Selection

set_option autoImplicit false

namespace Workbench.Pattern

open Text (isBlank)

def dropIgnored (inComment : Bool) : List Char -> List Char
  | [] => []
  | char :: rest =>
      if inComment then dropIgnored (char ≠ '\n') rest
      else if isBlank char then dropIgnored false rest
      else if char = '#' then dropIgnored true rest
      else char :: rest

theorem length_dropIgnored_le (inComment : Bool) (text : List Char) :
    (dropIgnored inComment text).length ≤ text.length := by
  induction text generalizing inComment with
  | nil => simp [dropIgnored]
  | cons char rest ih =>
      unfold dropIgnored
      split
      · exact Nat.le_succ_of_le (ih _)
      · split
        · exact Nat.le_succ_of_le (ih _)
        · split
          · exact Nat.le_succ_of_le (ih _)
          · exact Nat.le_refl _

def ahead (flags : Flags) (text : List Char) : List Char :=
  if flags.ignoreBlanks then dropIgnored false text else text

theorem length_ahead_le (flags : Flags) (text : List Char) :
    (ahead flags text).length ≤ text.length := by
  unfold ahead
  split
  · exact length_dropIgnored_le _ _
  · exact Nat.le_refl _

inductive Item
  | literal (char : Char)
  | byte (code : Nat)
  | set (set : CharSet)
  | anchor (anchor : Anchor)

def foldCase (flags : Flags) (set : CharSet) : CharSet :=
  if flags.ignoreCase then
    if flags.unicode then CaseFold.close set else CaseFold.closeAscii set
  else set

def checkSet? (flags : Flags) (set : CharSet) : Option CharSet :=
  if flags.unicode || set.isAscii then some set else none

def namedSet? (flags : Flags) (negated : Bool) (set : CharSet) : Option CharSet :=
  let folded := foldCase flags set
  checkSet? flags (if negated then folded.complement else folded)

theorem length_lt_of_ahead {flags : Flags} {text rest : List Char} {char : Char}
    (found : ahead flags text = char :: rest) : rest.length < text.length := by
  have shorter := length_ahead_le flags text
  rw [found] at shorter
  exact shorter

def readBraced? (flags : Flags) (text : List Char) : Option (List Char × List Char) :=
  match found : ahead flags text with
  | [] => none
  | char :: rest =>
      if char = '\x7d' then some ([], rest)
      else
        have _shorter := length_lt_of_ahead found
        (readBraced? flags rest).map fun (name, rest) => (char :: name, rest)
termination_by text.length
decreasing_by exact _shorter

def charOfCode? (code : Nat) : Option Char :=
  if code.isValidChar then some (Char.ofNat code) else none

def readHex? (flags : Flags) (number : Nat) : Nat -> List Char -> Option (Nat × List Char)
  | 0, text => some (number, text)
  | _ + 1, [] => none
  | count + 1, digit :: rest => do
      let value ← Text.hexDigit? digit
      readHex? flags (number * 16 + value) count (ahead flags rest)

def readCode? (flags : Flags) (kind : Char) (text : List Char) : Option (Item × List Char) :=
  match ahead flags text with
  | '\x7b' :: rest => do
      let (digits, rest) ← readBraced? flags rest
      let char ← charOfCode? (← Text.number? 16 digits)
      pure (.literal char, ahead flags rest)
  | text => do
      let count := if kind = 'x' then 2 else if kind = 'u' then 4 else 8
      let (number, rest) ← readHex? flags 0 count text
      let char ← charOfCode? number
      pure (if kind = 'x' then .byte number else .literal char, rest)

def braceClass? (name : List Char) : Option (CharSet × Bool) :=
  match Text.cutAt? '!' name with
  | some (property, '=' :: value) => (Text.selectValue? property value).map (·, true)
  | _ =>
      match Text.cutAt? ':' name with
      | some (property, value) => (Text.selectValue? property value).map (·, false)
      | none =>
          match Text.cutAt? '=' name with
          | some (property, value) => (Text.selectValue? property value).map (·, false)
          | none => (Text.selectNamed? name).map (·, false)

def readUnicodeClass? (flags : Flags) (negated : Bool) (text : List Char) :
    Option (Item × List Char) := do
  let ((set, unequal), rest) ←
    match ahead flags text with
    | [] => none
    | '\x7b' :: rest => do
        let (name, rest) ← readBraced? flags rest
        pure (← braceClass? name, rest)
    | char :: rest =>
        if char = '\\' then none
        else do pure ((← Text.selectNamed? [char], false), ahead flags rest)
  if flags.unicode then
    pure (.set (← namedSet? flags (negated != unequal) set), rest)
  else none

def letterClass (flags : Flags) (letter : Char) : CharSet :=
  match letter.toLower with
  | 'd' => if flags.unicode then Category.decimalNumber else ⟨[⟨0x30, 0x39⟩]⟩
  | 's' => if flags.unicode then Property.whiteSpace else .ofText "9-D 20"
  | _ => if flags.unicode then Property.word else .ofText "30-39 41-5A 5F 61-7A"

def isMeta (char : Char) : Bool :=
  "\\.+*?()|[]\x7b\x7d^$#&-~".toList.contains char

def isEscapable (char : Char) : Bool :=
  isMeta char || (char.toNat < 0x80 && !char.isAlphanum && char ≠ '<' && char ≠ '>')

def isBoundaryNameChar (char : Char) : Bool :=
  char.isAlpha || char = '-'

def boundaryOfName? (ascii : Bool) (name : List Char) : Option Anchor :=
  match String.ofList name with
  | "start" => some (.wordStart ascii)
  | "end" => some (.wordEnd ascii)
  | "start-half" => some (.wordStartHalf ascii)
  | "end-half" => some (.wordEndHalf ascii)
  | _ => none

def readBoundary? (flags : Flags) (text : List Char) : Option (Item × List Char) :=
  let plain : Option (Item × List Char) := some (.anchor (.wordBoundary (!flags.unicode)), text)
  match text with
  | '\x7b' :: rest =>
      match ahead flags rest with
      | [] => none
      | char :: _ =>
          if isBoundaryNameChar char then do
            let (name, rest) ← readBraced? flags rest
            let anchor ← boundaryOfName? (!flags.unicode) name
            pure (.anchor anchor, rest)
          else plain
  | _ => plain

def readEscape? (flags : Flags) : List Char -> Option (Item × List Char)
  | [] => none
  | char :: rest =>
      if char = 'x' || char = 'u' || char = 'U' then readCode? flags char rest
      else if char = 'p' || char = 'P' then readUnicodeClass? flags (char = 'P') rest
      else if "dswDSW".toList.contains char then do
        let set := letterClass flags char
        let set ← checkSet? flags (if char.isUpper then set.complement else set)
        pure (.set set, rest)
      else if isEscapable char then some (.literal char, rest)
      else
        match char with
        | 'a' => some (.literal '\x07', rest)
        | 'f' => some (.literal '\x0c', rest)
        | 't' => some (.literal '\t', rest)
        | 'n' => some (.literal '\n', rest)
        | 'r' => some (.literal '\r', rest)
        | 'v' => some (.literal '\x0b', rest)
        | 'A' => some (.anchor .textStart, rest)
        | 'z' => some (.anchor .textEnd, rest)
        | 'b' => readBoundary? flags rest
        | 'B' => some (.anchor (.insideWord (!flags.unicode)), rest)
        | '<' => some (.anchor (.wordStart (!flags.unicode)), rest)
        | '>' => some (.anchor (.wordEnd (!flags.unicode)), rest)
        | _ => none

def byteChar? (flags : Flags) (code : Nat) : Option Char :=
  if flags.unicode || code < 0x80 then some (Char.ofNat code) else none

end Workbench.Pattern
