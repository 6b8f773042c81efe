import Workbench.Pattern.Class

set_option autoImplicit false

namespace Workbench.Pattern

open Text (resume length_resume_le)

structure Piece where
  node : Node
  depth : Nat := 0
  repeatable : Bool := true

structure Branches where
  complete : List Piece := []
  pieces : List Piece := []

structure OpenGroup where
  branches : Branches
  index : Option Nat
  flags : Flags

structure ParseState where
  flags : Flags
  branches : Branches := {}
  outer : List OpenGroup := []
  groups : Nat := 0
  names : List (List Char) := []

def ParseState.push (state : ParseState) (piece : Piece) : ParseState :=
  { state with branches.pieces := piece :: state.branches.pieces }

def joinNodes : List Node -> Node
  | [] => .empty
  | [node] => node
  | node :: rest => .seq node (joinNodes rest)

def chooseNodes : List Node -> Node
  | [] => .empty
  | [node] => node
  | node :: rest => .either node (chooseNodes rest)

def nestedDepth (parts : List Piece) : Nat :=
  let depth := parts.foldl (fun depth part => max depth part.depth) 0
  if parts.length < 2 then depth else depth + 1

def Branches.endBranch (branches : Branches) : Branches :=
  let parts := branches.pieces.reverse
  { complete := { node := joinNodes (parts.map Piece.node), depth := nestedDepth parts } ::
      branches.complete }

def Branches.finish (branches : Branches) : Piece :=
  let parts := branches.endBranch.complete.reverse
  { node := chooseNodes (parts.map Piece.node), depth := nestedDepth parts }

inductive Opening
  | directive (flags : Flags)
  | group (captures : Bool) (name : Option (List Char)) (flags : Flags)

def isNameStart (char : Char) : Bool :=
  char = '_' || Property.alphabetic.contains char

def isNameChar (char : Char) : Bool :=
  isNameStart char || Category.number.contains char || char = '.' || char = '[' || char = ']'

def readGroupName? (text : List Char) : Option (List Char × List Char) :=
  match Text.cutAt? '>' text with
  | some (first :: others, rest) =>
      if isNameStart first && others.all isNameChar then some (first :: others, rest) else none
  | _ => none

def readOpening? (flags : Flags) (text : List Char) : Option (Opening × List Char) :=
  match ahead flags text with
  | '?' :: '=' :: _ => none
  | '?' :: '!' :: _ => none
  | '?' :: '<' :: '=' :: _ => none
  | '?' :: '<' :: '!' :: _ => none
  | '?' :: 'P' :: '<' :: rest => named rest
  | '?' :: '<' :: rest => named rest
  | '?' :: rest => do
      let list ← FlagList.read? flags [] false rest
      if list.ending = ')' then
        if list.isEmpty then none else pure (.directive list.flags, list.rest)
      else pure (.group false none list.flags, list.rest)
  | rest => some (.group true none flags, rest)
where
  named (rest : List Char) : Option (Opening × List Char) := do
    let (name, rest) ← readGroupName? rest
    pure (.group true (some name) flags, rest)

def ParseState.openGroup? (state : ParseState) : Opening -> Option ParseState
  | .directive flags =>
      some ({ state with flags := flags }.push { node := .empty, repeatable := false })
  | .group captures name flags =>
      let groups := if captures then state.groups + 1 else state.groups
      let index := if captures then some groups else none
      let opened := { branches := state.branches, index := index, flags := state.flags }
      if name.any state.names.contains then none
      else
        some {
          flags := flags
          outer := opened :: state.outer
          groups := groups
          names := name.toList ++ state.names }

def ParseState.closeGroup? (state : ParseState) : Option ParseState :=
  match state.outer with
  | [] => none
  | opened :: outer =>
      let body := state.branches.finish
      let node := match opened.index with
        | some index => Node.group index body.node
        | none => body.node
      some ({ state with flags := opened.flags, branches := opened.branches, outer := outer }.push
        { node := node, depth := body.depth + 1 })

def ParseState.repeatLast? (state : ParseState) (least : Nat) (most : Option Nat) (lazy : Bool) :
    Option ParseState :=
  match state.branches.pieces with
  | piece :: before =>
      if piece.repeatable then
        let node := piece.node.repeating least most (lazy == state.flags.swapGreed)
        some { state with
          branches.pieces := { node := node, depth := piece.depth + 1 } :: before }
      else none
  | [] => none

def readLazy (text : List Char) : Bool × List Char :=
  match text with
  | '?' :: rest => (true, rest)
  | _ => (false, text)

def readDigits (flags : Flags) (text : List Char) : List Char × List Char :=
  match text with
  | [] => ([], [])
  | char :: rest =>
      if char.isDigit then
        let (digits, rest) := readDigits flags (ahead flags rest)
        (char :: digits, rest)
      else ([], char :: rest)
termination_by text.length
decreasing_by
  have := length_ahead_le flags rest
  simp only [List.length_cons]
  omega

def readCount? (flags : Flags) (text : List Char) : Option (Option Nat × List Char) :=
  let (digits, rest) := readDigits flags (Text.trimStart text)
  let rest := ahead flags (Text.trimStart rest)
  if digits.isEmpty then some (none, rest)
  else
    let number := Text.digitsValue 10 digits
    if number < UInt32.size then some (some number, rest) else none

def readBounds? (flags : Flags) (text : List Char) :
    Option (Nat × Option Nat × List Char) := do
  let (least, rest) ← readCount? flags (ahead flags text)
  let (most, rest) ←
    match rest with
    | ',' :: rest =>
        match ahead flags rest with
        | '\x7d' :: rest => pure (none, '\x7d' :: rest)
        | rest => do
            let (most, rest) ← readCount? flags rest
            pure (some (← most), rest)
    | rest => pure (some (← least), rest)
  let least ← least
  match rest with
  | '\x7d' :: rest =>
      if most.any (· < least) then none else pure (least, most, ahead flags rest)
  | _ => none

def dotSet? (flags : Flags) : Option CharSet :=
  if !flags.unicode then none
  else if flags.dotAll then some .full
  else if flags.crlf then some (CharSet.ofChars ['\n', '\r']).complement
  else some (CharSet.single '\n').complement

def lineStartAnchor (flags : Flags) : Anchor :=
  if !flags.multiLine then .textStart
  else if flags.crlf then .returnLineStart
  else .lineStart

def lineEndAnchor (flags : Flags) : Anchor :=
  if !flags.multiLine then .textEnd
  else if flags.crlf then .returnLineEnd
  else .lineEnd

def Item.node? (flags : Flags) : Item -> Option Node
  | .literal char => some (.chars (foldCase flags (.single char)))
  | .byte code => (byteChar? flags code).map fun char => .chars (foldCase flags (.single char))
  | .set members => some (.chars members)
  | .anchor place => some (.anchor place)

def readElement? (flags : Flags) (char : Char) (rest : List Char) : Option (Piece × List Char) :=
  match char with
  | '\\' => do
      let (item, rest) ← readEscape? flags rest
      pure ({ node := ← item.node? flags }, rest)
  | '.' => (dotSet? flags).map fun set => ({ node := .chars set }, rest)
  | '^' => some ({ node := .anchor (lineStartAnchor flags) }, rest)
  | '$' => some ({ node := .anchor (lineEndAnchor flags) }, rest)
  | char => (Item.node? flags (.literal char)).map fun node => ({ node := node }, rest)

def ParseState.step? (state : ParseState) (char : Char) (rest : List Char) :
    Option (ParseState × List Char) :=
  let flags := state.flags
  match char with
  | '(' => do
      let (opening, rest) ← readOpening? flags rest
      pure (← state.openGroup? opening, rest)
  | ')' => do pure (← state.closeGroup?, rest)
  | '|' => some ({ state with branches := state.branches.endBranch }, rest)
  | '[' => do
      let (set, depth, rest) ← readClass? flags rest
      pure (state.push { node := .chars set, depth := depth }, rest)
  | '?' => do
      let (lazy, rest) := readLazy rest
      pure (← state.repeatLast? 0 (some 1) lazy, rest)
  | '*' => do
      let (lazy, rest) := readLazy rest
      pure (← state.repeatLast? 0 none lazy, rest)
  | '+' => do
      let (lazy, rest) := readLazy rest
      pure (← state.repeatLast? 1 none lazy, rest)
  | '\x7b' => do
      let (least, most, rest) ← readBounds? flags rest
      let (lazy, rest) := readLazy rest
      pure (← state.repeatLast? least most lazy, rest)
  | char => do
      let (piece, rest) ← readElement? flags char rest
      pure (state.push piece, rest)

def ParseState.run? (state : ParseState) : List Char -> Option ParseState
  | [] => some state
  | char :: rest =>
      have _shorter (target : List Char) : (resume rest target).length < rest.length + 1 :=
        Nat.lt_succ_of_le (length_resume_le rest target)
      if state.flags.ignoreBlanks && (Text.isBlank char || char = '#') then
        state.run? (resume rest (ahead state.flags (char :: rest)))
      else
        match state.step? char rest with
        | some (state, after) => state.run? (resume rest after)
        | none => none
termination_by text => text.length
decreasing_by all_goals exact _shorter _

def maxDepth : Nat := 250

def Node.parse? (text : List Char) (ignoreCase : Bool) : Option Node := do
  let state ← ParseState.run? { flags := { ignoreCase := ignoreCase } } text
  if !state.outer.isEmpty then none
  else
    let piece := state.branches.finish
    if piece.depth ≤ maxDepth && piece.node.cost ≤ maxCost then pure piece.node else none

end Workbench.Pattern
