import Workbench.Pattern.Parser

set_option autoImplicit false

namespace Workbench.Pattern

inductive Step
  | char (set : CharSet) (next : Nat)
  | fork (first second : Nat)
  | save (slot next : Nat)
  | check (anchor : Anchor) (next : Nat)
  | accept
  deriving Repr

abbrev Steps := Array Step

def compileTimes (body : Nat -> Steps -> Nat × Steps) : Nat -> Nat -> Steps -> Nat × Steps
  | 0, next, steps => (next, steps)
  | count + 1, next, steps =>
      let (entry, steps) := body next steps
      compileTimes body count entry steps

def forkTo (greedy : Bool) (enter leave : Nat) : Step :=
  if greedy then .fork enter leave else .fork leave enter

def compileOptional (body : Nat -> Steps -> Nat × Steps) (greedy : Bool) (leave : Nat) :
    Nat -> Nat -> Steps -> Nat × Steps
  | 0, next, steps => (next, steps)
  | count + 1, next, steps =>
      let (entry, steps) := body next steps
      compileOptional body greedy leave count steps.size
        (steps.push (forkTo greedy entry leave))

def compileLoop (body : Nat -> Steps -> Nat × Steps) (greedy : Bool) (next : Nat)
    (steps : Steps) : Nat × Nat × Steps :=
  let loop := steps.size
  let (entry, steps) := body loop (steps.push .accept)
  (entry, loop, steps.setIfInBounds loop (forkTo greedy entry next))

def Node.compile : Node -> Nat -> Steps -> Nat × Steps
  | .empty, next, steps => (next, steps)
  | .chars members, next, steps => (steps.size, steps.push (.char members next))
  | .anchor place, next, steps => (steps.size, steps.push (.check place next))
  | .seq first second, next, steps =>
      let (entry, steps) := second.compile next steps
      first.compile entry steps
  | .either first second, next, steps =>
      let (left, steps) := first.compile next steps
      let (right, steps) := second.compile next steps
      (steps.size, steps.push (.fork left right))
  | .group index body, next, steps =>
      let (entry, steps) := body.compile steps.size (steps.push (.save (2 * index + 1) next))
      (steps.size, steps.push (.save (2 * index) entry))
  | .repeated body least none greedy, next, steps =>
      let (entry, loop, steps) := compileLoop body.compile greedy next steps
      match least with
      | 0 =>
          if body.canBeEmpty then (steps.size, steps.push (forkTo greedy entry next))
          else (loop, steps)
      | least + 1 => compileTimes body.compile least entry steps
  | .repeated body least (some most) greedy, next, steps =>
      let (entry, steps) := compileOptional body.compile greedy next (most - least) next steps
      compileTimes body.compile least entry steps

structure Program where
  steps : Steps
  start : Nat
  deriving Repr

def Node.program (node : Node) : Program :=
  let (start, steps) := (Node.group 0 node).compile 0 #[.accept]
  ⟨steps, start⟩

-- Places that a thread has passed, the last one first: a slot and a position in the text.
abbrev Saves := List (Nat × Nat)

structure Thread where
  state : Nat
  saves : Saves := []

structure Place where
  index : Nat
  before : Option Char
  after : Option Char

theorem count_set_false_lt {fresh : Array Bool} {state : Nat} (bound : state < fresh.size)
    (isFresh : fresh[state] = true) :
    (fresh.set state false).count true < fresh.count true := by
  have positive : 0 < fresh.count true :=
    Array.count_pos_iff.2 (isFresh ▸ Array.getElem_mem bound)
  have fewer : (fresh.set state false).count true = fresh.count true - 1 := by
    rw [Array.count_set, isFresh]
    rfl
  omega

/-- Follows the threads up to the steps that read or accept. A step that was reached before is
not entered again: the thread that reached it first is the preferred one. -/
def follow (steps : Steps) (place : Place) (fresh : Array Bool) : List Thread -> List Thread
  | [] => []
  | thread :: rest =>
      if isFresh : fresh[thread.state]? = some true then
        have bound : thread.state < fresh.size := by
          simp only [Array.getElem?_eq_some_iff] at isFresh
          exact isFresh.1
        have fewer : (fresh.set thread.state false).count true < fresh.count true :=
          count_set_false_lt bound (Option.some.inj ((Array.getElem?_eq_getElem bound) ▸ isFresh))
        let fresh' := fresh.set thread.state false
        match steps[thread.state]? with
        | some (.fork first second) =>
            follow steps place fresh'
              ({ thread with state := first } :: { thread with state := second } :: rest)
        | some (.save slot next) =>
            follow steps place fresh'
              ({ state := next, saves := (slot, place.index) :: thread.saves } :: rest)
        | some (.check anchor next) =>
            if anchor.holds place.before place.after then
              follow steps place fresh' ({ thread with state := next } :: rest)
            else follow steps place fresh' rest
        | some (.char _ _) | some .accept => thread :: follow steps place fresh' rest
        | none => follow steps place fresh' rest
      -- From here on it could only do what the preferred thread does.
      else follow steps place fresh rest
termination_by threads => 2 * fresh.count true + threads.length

def cutAtAccept (steps : Steps) : List Thread -> List Thread × Option Saves
  | [] => ([], none)
  | thread :: rest =>
      match steps[thread.state]? with
      | some .accept => ([], some thread.saves)
      | _ =>
          let (running, saves) := cutAtAccept steps rest
          (thread :: running, saves)

def advance (steps : Steps) (char : Char) (threads : List Thread) : List Thread :=
  threads.filterMap fun (thread : Thread) =>
    match steps[thread.state]? with
    | some (.char set next) =>
        if set.contains char then some { thread with state := next } else none
    | _ => none

def Program.run (program : Program) (index : Nat) (before : Option Char) (best : Option Saves)
    (threads : List Thread) (text : List Char) : Option Saves :=
  -- The new thread comes last, since a match that starts earlier is preferred.
  let work := if best.isNone then threads ++ [{ state := program.start }] else threads
  let fresh := Array.replicate program.steps.size true
  let followed := follow program.steps ⟨index, before, text.head?⟩ fresh work
  let (running, accepted) := cutAtAccept program.steps followed
  let best := accepted.or best
  match text with
  | [] => best
  | char :: rest =>
      let threads := advance program.steps char running
      if threads.isEmpty && best.isSome then best
      else program.run (index + 1) (some char) best threads rest

end Pattern

structure Pattern where
  source : List Char
  program : Pattern.Program

abbrev Groups := Nat -> Option (List Char)

namespace Pattern

def parse? (text : List Char) (ignoreCase : Bool) : Option Pattern :=
  (Node.parse? text ignoreCase).map fun node => ⟨text, node.program⟩

def groupText (text : List Char) (saves : Saves) : Groups := fun group => do
  let first ← saves.lookup (2 * group)
  let last ← saves.lookup (2 * group + 1)
  pure ((text.drop first).take (last - first))

def search (pattern : Pattern) (text : List Char) : Option Groups :=
  (pattern.program.run 0 none none [] text).map (groupText text)

end Pattern

end Workbench
