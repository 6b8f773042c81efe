import Workbench.Pattern.Escape

set_option autoImplicit false

namespace Workbench.Pattern

open Text (resume length_resume_le)

inductive SetOperation
  | inter
  | diff
  | symmetricDiff

def SetOperation.apply : SetOperation -> CharSet -> CharSet -> CharSet
  | .inter => CharSet.inter
  | .diff => CharSet.diff
  | .symmetricDiff => CharSet.symmetricDiff

structure ClassLevel where
  negated : Bool
  set : CharSet := .empty
  count : Nat := 0
  depth : Nat := 0
  waiting : Option (SetOperation × CharSet × Nat) := none

def ClassLevel.add (level : ClassLevel) (set : CharSet) (depth : Nat) : ClassLevel :=
  { level with
    set := level.set.union set
    count := level.count + 1
    depth := max level.depth depth }

def ClassLevel.settle (flags : Flags) (level : ClassLevel) : CharSet × Nat :=
  let depth := if level.count < 2 then level.depth else level.depth + 1
  match level.waiting with
  | none => (level.set, depth)
  | some (operation, left, leftDepth) =>
      (operation.apply (foldCase flags left) (foldCase flags level.set), max leftDepth depth + 1)

def ClassLevel.operate (flags : Flags) (level : ClassLevel) (operation : SetOperation) :
    ClassLevel :=
  let (left, depth) := level.settle flags
  { negated := level.negated, waiting := some (operation, left, depth) }

def ClassLevel.close? (flags : Flags) (level : ClassLevel) : Option (CharSet × Nat) := do
  let (set, depth) := level.settle flags
  pure (← namedSet? flags level.negated set, depth + 1)

def readDashes (flags : Flags) (level : ClassLevel) (text : List Char) :
    ClassLevel × List Char :=
  match text with
  | '-' :: rest => readDashes flags (level.add (.single '-') 0) (ahead flags rest)
  | _ => (level, text)
termination_by text.length
decreasing_by
  have := length_ahead_le flags rest
  simp only [List.length_cons]
  omega

def openLevel (flags : Flags) (text : List Char) : ClassLevel × List Char :=
  let text := ahead flags text
  let (negated, text) :=
    match text with
    | '^' :: rest => (true, ahead flags rest)
    | _ => (false, text)
  let (level, text) := readDashes flags { negated := negated } text
  match text with
  | ']' :: rest =>
      if level.count = 0 then (level.add (.single ']') 0, ahead flags rest) else (level, text)
  | _ => (level, text)

def readAsciiClass? (text : List Char) : Option (CharSet × Bool × List Char) :=
  match text with
  | ':' :: rest =>
      let (negated, rest) :=
        match rest with
        | '^' :: rest => (true, rest)
        | _ => (false, rest)
      let name := rest.takeWhile (· ≠ ':')
      match rest.drop name.length with
      | ':' :: ']' :: rest => (Text.asciiClass? name).map (·, negated, rest)
      | _ => none
  | _ => none

def readClassItem? (flags : Flags) : List Char -> Option (Item × List Char)
  | [] => none
  | '\\' :: rest => readEscape? flags rest
  | char :: rest => some (.literal char, rest)

def Item.classChar? (flags : Flags) : Item -> Option Char
  | .literal char => if flags.unicode || char.toNat < 0x80 then some char else none
  | .byte code => byteChar? flags code
  | .set _ => none
  | .anchor _ => none

def Item.classSet? (flags : Flags) : Item -> Option CharSet
  | .set members => some members
  | .anchor _ => none
  | item => (item.classChar? flags).map CharSet.single

def opensRange (flags : Flags) (text : List Char) : Bool :=
  match text with
  | '-' :: rest =>
      match ahead flags rest with
      | next :: _ => next ≠ ']' && next ≠ '-'
      | [] => true
  | _ => false

def readRange? (flags : Flags) (text : List Char) : Option (CharSet × List Char) := do
  let (first, rest) ← readClassItem? flags text
  let rest := ahead flags rest
  if opensRange flags rest then
    let (last, rest) ← readClassItem? flags (ahead flags (rest.drop 1))
    let first ← first.classChar? flags
    let last ← last.classChar? flags
    if first ≤ last then pure (.range first last, rest) else none
  else pure (← first.classSet? flags, rest)

def readLevels? (flags : Flags) (level : ClassLevel) (outer : List ClassLevel) :
    List Char -> Option (CharSet × Nat × List Char)
  | [] => none
  | char :: rest =>
      have _shorter (target : List Char) : (resume rest target).length < rest.length + 1 :=
        Nat.lt_succ_of_le (length_resume_le rest target)
      if flags.ignoreBlanks && (Text.isBlank char || char = '#') then
        readLevels? flags level outer (resume rest (ahead flags (char :: rest)))
      else if char = '[' then
        match readAsciiClass? rest with
        | some (set, negated, after) => do
            let set ← namedSet? flags negated set
            readLevels? flags (level.add set 0) outer (resume rest after)
        | none =>
            let (inner, after) := openLevel flags rest
            readLevels? flags inner (level :: outer) (resume rest after)
      else if char = ']' then do
        let (set, depth) ← level.close? flags
        match outer with
        | [] => pure (set, depth, rest)
        | parent :: outer => readLevels? flags (parent.add set depth) outer rest
      else
        let next := rest.head?
        if char = '&' && next = some '&' then
          readLevels? flags (level.operate flags .inter) outer (resume rest (rest.drop 1))
        else if char = '-' && next = some '-' then
          readLevels? flags (level.operate flags .diff) outer (resume rest (rest.drop 1))
        else if char = '~' && next = some '~' then
          readLevels? flags (level.operate flags .symmetricDiff) outer (resume rest (rest.drop 1))
        else
          match readRange? flags (char :: rest) with
          | some (set, after) => readLevels? flags (level.add set 0) outer (resume rest after)
          | none => none
termination_by text => text.length
decreasing_by all_goals first | exact _shorter _ | simp

def readClass? (flags : Flags) (text : List Char) : Option (CharSet × Nat × List Char) :=
  let (level, rest) := openLevel flags text
  readLevels? flags level [] rest

end Workbench.Pattern
