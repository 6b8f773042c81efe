import Workbench.Text.Blank
import Workbench.Text.Number

set_option autoImplicit false

namespace Workbench

structure CodeRange where
  first : Nat
  last : Nat
  deriving DecidableEq, Repr

structure CharSet where
  ranges : List CodeRange
  deriving DecidableEq, Repr

namespace CharSet

def maxCode : Nat := 0x10FFFF

def containsCode (code : Nat) : List CodeRange -> Bool
  | [] => false
  | range :: rest =>
      if code < range.first then false
      else if code ≤ range.last then true
      else containsCode code rest

def contains (set : CharSet) (char : Char) : Bool :=
  containsCode char.toNat set.ranges

def joinAscending : List CodeRange -> List CodeRange
  | [] => []
  | [range] => [range]
  | left :: right :: rest =>
      if right.first ≤ left.last + 1 then
        joinAscending (⟨left.first, max left.last right.last⟩ :: rest)
      else
        left :: joinAscending (right :: rest)
termination_by ranges => ranges.length

def ofRanges (ranges : List CodeRange) : CharSet :=
  ⟨joinAscending (ranges.mergeSort fun left right => left.first ≤ right.first)⟩

def empty : CharSet := ⟨[]⟩

def full : CharSet := ⟨[⟨0, maxCode⟩]⟩

def range (first last : Char) : CharSet := ⟨[⟨first.toNat, last.toNat⟩]⟩

def single (char : Char) : CharSet := range char char

def ofChars (chars : List Char) : CharSet :=
  ofRanges (chars.map fun char => ⟨char.toNat, char.toNat⟩)

def union (left right : CharSet) : CharSet :=
  ofRanges (left.ranges ++ right.ranges)

def gapsFrom (start : Nat) : List CodeRange -> List CodeRange
  | [] => if start ≤ maxCode then [⟨start, maxCode⟩] else []
  | range :: rest =>
      if start < range.first then ⟨start, range.first - 1⟩ :: gapsFrom (range.last + 1) rest
      else gapsFrom (range.last + 1) rest

def complement (set : CharSet) : CharSet :=
  ⟨gapsFrom 0 set.ranges⟩

def inter (left right : CharSet) : CharSet :=
  (left.complement.union right.complement).complement

def diff (left right : CharSet) : CharSet :=
  left.inter right.complement

def symmetricDiff (left right : CharSet) : CharSet :=
  (left.union right).diff (left.inter right)

def unionAll (sets : List CharSet) : CharSet :=
  ofRanges (sets.flatMap CharSet.ranges)

def isAscii (set : CharSet) : Bool :=
  set.ranges.all fun range => range.last < 0x80

def CodeRange.ofText (text : List Char) : CodeRange :=
  match Text.cutAt? '-' text with
  | some (first, last) => ⟨Text.digitsValue 16 first, Text.digitsValue 16 last⟩
  | none => ⟨Text.digitsValue 16 text, Text.digitsValue 16 text⟩

def ofText (table : String) : CharSet :=
  ⟨(Text.words table.toList).map CodeRange.ofText⟩

end CharSet

end Workbench
