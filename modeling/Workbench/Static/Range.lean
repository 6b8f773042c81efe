import Workbench.Text.Blank
import Workbench.Text.Number

set_option autoImplicit false

namespace Workbench

structure ByteRange where
  first : Nat
  last : Nat
  deriving DecidableEq, Repr

namespace ByteRange

inductive Written
  | between (first last : Nat)
  | since (first : Nat)
  | ending (count : Nat)
  deriving DecidableEq, Repr

def maxPosition : Nat := UInt64.size - 1

def position? (text : List Char) : Option Nat :=
  (Text.plainNumber? 10 text).filter (· ≤ maxPosition)

def trimmed? (text : List Char) : Option (List Char) :=
  if (text.getLast?.map Text.isBlank).getD false || 1 < (text.filter Text.isBlank).length then none
  else some (Text.trim text)

def written? (text : List Char) : Option Written := do
  match Text.splitOn '-' (← trimmed? text) with
  | [[], count] =>
      let count ← position? count
      if count = 0 then none else pure (.ending count)
  | [first, []] => pure (.since (← position? first))
  | [first, last] =>
      let first ← position? first
      let last ← position? last
      if last < first then none else pure (.between first last)
  | _ => none

def parse? (value : List Char) : Option (List Written) := do
  let ranges ← Text.after? "bytes=".toList value
  (Text.splitOn ',' ranges).mapM written?

def Written.within? (size : Nat) : Written -> Option ByteRange
  | .between first last => ordered? first (min last (size - 1))
  | .since first => ordered? first (size - 1)
  | .ending count => if size < count then none else ordered? (size - count) (size - 1)
where
  ordered? (first last : Nat) : Option ByteRange :=
    if last < first then none else some ⟨first, last⟩

def overlaps (left right : ByteRange) : Bool :=
  left.first ≤ right.last && right.first ≤ left.last

def anyOverlap : List ByteRange -> Bool
  | [] => false
  | range :: rest => rest.any range.overlaps || anyOverlap rest

def requested? (value : List Char) (size : Nat) : Option (List ByteRange) := do
  let ranges ← (← parse? value).mapM (·.within? size)
  if anyOverlap ranges then none else pure ranges

end ByteRange

end Workbench
