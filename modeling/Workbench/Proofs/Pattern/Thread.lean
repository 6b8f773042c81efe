import Workbench.Pattern.Machine
import Mathlib.Data.List.Basic

set_option autoImplicit false

namespace Workbench.Pattern

def Thread.moves? (steps : Steps) (place : Place) (thread : Thread) : Option (List Thread) :=
  match steps[thread.state]? with
  | some (.fork first second) => some [⟨first, thread.saves⟩, ⟨second, thread.saves⟩]
  | some (.save slot next) => some [⟨next, (slot, place.index) :: thread.saves⟩]
  | some (.check anchor next) =>
      some (if anchor.holds place.before place.after then [⟨next, thread.saves⟩] else [])
  | some (.char _ _) | some .accept => none
  | none => some []

section

variable {steps : Steps} {place : Place} {fresh : Array Bool} {thread : Thread}
  {rest : List Thread}

theorem follow_nil : follow steps place fresh [] = [] := by
  rw [follow]

theorem follow_stale (stale : fresh[thread.state]? ≠ some true) :
    follow steps place fresh (thread :: rest) = follow steps place fresh rest := by
  rw [follow, dif_neg stale]

theorem follow_fresh (isFresh : fresh[thread.state]? = some true) :
    follow steps place fresh (thread :: rest) =
      match thread.moves? steps place with
      | none => thread :: follow steps place (fresh.setIfInBounds thread.state false) rest
      | some moved =>
          follow steps place (fresh.setIfInBounds thread.state false) (moved ++ rest) := by
  have bound := (Array.getElem?_eq_some_iff.mp isFresh).1
  rw [follow, dif_pos isFresh]
  cases step : steps[thread.state]? with
  | none => simp [Thread.moves?, step, Array.setIfInBounds, bound]
  | some kind => cases kind with
    | check anchor next =>
        by_cases holds : anchor.holds place.before place.after = true <;>
          simp [Thread.moves?, step, Array.setIfInBounds, bound, holds]
    | _ => simp [Thread.moves?, step, Array.setIfInBounds, bound]

theorem follow_waits (isFresh : fresh[thread.state]? = some true)
    (waits : thread.moves? steps place = none) :
    follow steps place fresh (thread :: rest) =
      thread :: follow steps place (fresh.setIfInBounds thread.state false) rest := by
  rw [follow_fresh isFresh, waits]

theorem follow_moves {moved : List Thread} (isFresh : fresh[thread.state]? = some true)
    (moves : thread.moves? steps place = some moved) :
    follow steps place fresh (thread :: rest) =
      follow steps place (fresh.setIfInBounds thread.state false) (moved ++ rest) := by
  rw [follow_fresh isFresh, moves]

theorem advance_singleton {set : CharSet} {next : Nat}
    (step : steps[thread.state]? = some (.char set next)) (char : Char) :
    advance steps char [thread] = if set.contains char then [⟨next, thread.saves⟩] else [] := by
  unfold advance
  rw [List.filterMap_cons, List.filterMap_nil]
  simp only [step]
  split <;> simp_all

end

def Program.followed (program : Program) (place : Place) (threads : List Thread) : List Thread :=
  follow program.steps place (Array.replicate program.steps.size true)
    (threads ++ [{ state := program.start }])

variable {program : Program} {index : Nat} {before : Option Char} {threads running : List Thread}

theorem Program.run_congr {others : List Thread} {text : List Char}
    (same : program.followed ⟨index, before, text.head?⟩ threads =
      program.followed ⟨index, before, text.head?⟩ others) :
    program.run index before none threads text = program.run index before none others text := by
  rw [followed, followed] at same
  rw [run, run]
  simp only [Option.isNone_none, if_true, same]

theorem Program.run_nil :
    program.run index before none threads [] =
      (cutAtAccept program.steps (program.followed ⟨index, before, none⟩ threads)).2 := by
  rw [run]
  simp [followed]

theorem Program.run_cons {char : Char} {rest : List Char}
    (cut : cutAtAccept program.steps (program.followed ⟨index, before, some char⟩ threads) =
      (running, none)) :
    program.run index before none threads (char :: rest) =
      program.run (index + 1) (some char) none (advance program.steps char running) rest := by
  rw [followed] at cut
  rw [run]
  simp [cut]

end Workbench.Pattern
