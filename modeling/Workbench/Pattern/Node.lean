import Workbench.Text.Property

set_option autoImplicit false

namespace Workbench.Pattern

inductive Anchor
  | textStart
  | textEnd
  | lineStart
  | lineEnd
  | returnLineStart
  | returnLineEnd
  | wordBoundary (ascii : Bool)
  | insideWord (ascii : Bool)
  | wordStart (ascii : Bool)
  | wordEnd (ascii : Bool)
  | wordStartHalf (ascii : Bool)
  | wordEndHalf (ascii : Bool)
  deriving DecidableEq, Repr

def isAsciiWord (char : Char) : Bool :=
  char.isAlphanum || char = '_'

def isWord (ascii : Bool) (char : Char) : Bool :=
  if char.toNat < 0x80 || ascii then isAsciiWord char else Property.word.contains char

def Anchor.holds (anchor : Anchor) (before after : Option Char) : Bool :=
  let wordBefore := fun ascii => before.any (isWord ascii)
  let wordAfter := fun ascii => after.any (isWord ascii)
  match anchor with
  | .textStart => before.isNone
  | .textEnd => after.isNone
  | .lineStart => before.isNone || before == some '\n'
  | .lineEnd => after.isNone || after == some '\n'
  | .returnLineStart =>
      before.isNone || before == some '\n' || (before == some '\r' && after != some '\n')
  | .returnLineEnd =>
      after.isNone || after == some '\r' || (after == some '\n' && before != some '\r')
  | .wordBoundary ascii => wordBefore ascii != wordAfter ascii
  | .insideWord ascii => wordBefore ascii == wordAfter ascii
  | .wordStart ascii => !wordBefore ascii && wordAfter ascii
  | .wordEnd ascii => wordBefore ascii && !wordAfter ascii
  | .wordStartHalf ascii => !wordBefore ascii
  | .wordEndHalf ascii => !wordAfter ascii

inductive Node
  | empty
  | chars (set : CharSet)
  | anchor (anchor : Anchor)
  | seq (first second : Node)
  | either (first second : Node)
  | repeated (body : Node) (least : Nat) (most : Option Nat) (greedy : Bool)
  | group (index : Nat) (body : Node)
  deriving DecidableEq, Repr

def Node.canBeEmpty : Node -> Bool
  | .empty | .anchor _ => true
  | .chars _ => false
  | .seq first second => first.canBeEmpty && second.canBeEmpty
  | .either first second => first.canBeEmpty || second.canBeEmpty
  | .repeated body least _ _ => least == 0 || body.canBeEmpty
  | .group _ body => body.canBeEmpty

def Node.readsNothing : Node -> Bool
  | .empty | .anchor _ => true
  | .chars _ => false
  | .seq first second => first.readsNothing && second.readsNothing
  | .either first second => first.readsNothing && second.readsNothing
  | .repeated body _ most _ => most == some 0 || body.readsNothing
  | .group _ body => body.readsNothing

def Node.repeating (body : Node) (least : Nat) (most : Option Nat) (greedy : Bool) : Node :=
  let least := if body.readsNothing then min least 1 else least
  let most := if body.readsNothing then some (min (most.getD 1) 1) else most
  if most = some 0 then .empty
  else if least = 1 && most = some 1 then body
  else .repeated body least most greedy

-- Bytes that a state of a compiled pattern takes, with what it is the only way out of, and bytes
-- for each further way out: to another state on some input, or on none.
def stateCost : Nat := 32

def transitionCost : Nat := 8

def branchCost : Nat := 4

-- Most characters beyond ASCII are three bytes, each read in a state of its own.
def wideCharCost : Nat := 3 * stateCost

-- The states for several characters beyond ASCII share bytes, so their cost is an estimate: for one
-- range, and for a class with each of its ranges.
def wideRangeCost : Nat := 340

def wideClassCost : Nat := 300

def furtherRangeCost : Nat := 25

def classCost (set : CharSet) : Nat :=
  match set.ranges with
  | [range] =>
      if range.last < 0x80 then stateCost
      else if range.first = range.last then wideCharCost
      else wideRangeCost
  | ranges =>
      if set.isAscii then stateCost + transitionCost * ranges.length
      else wideClassCost + furtherRangeCost * ranges.length

def eitherCost : Nat := stateCost + branchCost

def repeatCost : Nat := 2 * stateCost + branchCost

def groupCost : Nat := 2 * stateCost

def Node.cost : Node -> Nat
  | .empty => 0
  | .chars set => classCost set
  | .anchor _ => stateCost
  | .seq first second => first.cost + second.cost
  | .either first second => first.cost + second.cost + eitherCost
  | .repeated body least most _ =>
      match most with
      | none => (max least 1) * body.cost + repeatCost
      | some most => most * body.cost + (most - least) * repeatCost
  | .group _ body => body.cost + groupCost

def maxCost : Nat := 10 * 1024 * 1024

end Workbench.Pattern
