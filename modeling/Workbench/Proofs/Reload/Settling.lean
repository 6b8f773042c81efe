import Mathlib.Data.List.Infix
import Workbench.Proofs.Reload.Pending

set_option autoImplicit false

namespace Workbench

inductive DebounceStep
  | record (change : Change)
  | advance (elapsed : Nat)
  | drain

structure ClockedDebouncer where
  debouncer : Debouncer
  now : Nat

namespace ClockedDebouncer

def step (state : ClockedDebouncer) : DebounceStep -> ClockedDebouncer
  | .record change => { state with debouncer := state.debouncer.record state.now change }
  | .advance elapsed => { state with now := state.now + elapsed }
  | .drain => { state with debouncer := state.debouncer.drain state.now }

def run (quiet start : Nat) (steps : List DebounceStep) : ClockedDebouncer :=
  steps.foldl step ⟨{ quiet }, start⟩

end ClockedDebouncer

structure ChangeRecord where
  time : Nat
  change : Change

def mergeAll? : List ChangeKind -> Option ChangeKind
  | [] => none
  | kind :: kinds => kinds.foldlM ChangeKind.merge kind

-- The machine of a single path: its records since it last had nothing pending, oldest first.
structure PathMachine where
  now : Nat
  records : List ChangeRecord := []

namespace PathMachine

-- What is pending after some records: the first gives the spelling, the last the deadline.
def pendingOf? (quiet : Nat) (records : List ChangeRecord) : Option Pending := do
  let first ← records.head?
  let last ← records.getLast?
  let kind ← mergeAll? (records.map (·.change.kind))
  pure ⟨⟨first.change.path, kind⟩, last.time + quiet⟩

def pending? (quiet : Nat) (machine : PathMachine) : Option Pending :=
  pendingOf? quiet machine.records

def record (quiet : Nat) (machine : PathMachine) (change : Change) : PathMachine :=
  let records := machine.records ++ [⟨machine.now, change⟩]
  { machine with records := if (pendingOf? quiet records).isSome then records else [] }

def drain (quiet : Nat) (machine : PathMachine) : PathMachine :=
  if (machine.pending? quiet).any (·.isReady machine.now) then { machine with records := [] }
  else machine

def step (quiet : Nat) (path : Path) (machine : PathMachine) : DebounceStep -> PathMachine
  | .record change => if change.path.sameAs path then machine.record quiet change else machine
  | .advance elapsed => { machine with now := machine.now + elapsed }
  | .drain => machine.drain quiet

def run (quiet start : Nat) (path : Path) (steps : List DebounceStep) : PathMachine :=
  steps.foldl (step quiet path) { now := start }

end PathMachine

def clockAfter (now : Nat) : List DebounceStep -> Nat
  | [] => now
  | .advance elapsed :: rest => clockAfter (now + elapsed) rest
  | .record _ :: rest | .drain :: rest => clockAfter now rest

def recordsOf (path : Path) (now : Nat) : List DebounceStep -> List ChangeRecord
  | [] => []
  | .record change :: rest =>
      if change.path.sameAs path then ⟨now, change⟩ :: recordsOf path now rest
      else recordsOf path now rest
  | .advance elapsed :: rest => recordsOf path (now + elapsed) rest
  | .drain :: rest => recordsOf path now rest

/-- The path has had nothing pending where `before` ends and something ever since its first record
in `after`. -/
structure LastAbsent (quiet start : Nat) (path : Path) (before after : List DebounceStep) :
    Prop where
  absent : (ClockedDebouncer.run quiet start before).debouncer.find? path = none
  present : ∀ middle rest, after = middle ++ rest →
    recordsOf path (clockAfter start before) middle ≠ [] →
      (ClockedDebouncer.run quiet start (before ++ middle)).debouncer.find? path ≠ none

def DebounceStep.concerns (path : Path) : DebounceStep -> Bool
  | .record change => change.path.sameAs path
  | .advance _ | .drain => true

theorem mergeAll?_append (kinds : List ChangeKind) (kind : ChangeKind) (nonempty : kinds ≠ []) :
    mergeAll? (kinds ++ [kind]) = (mergeAll? kinds).bind (·.merge kind) := by
  cases kinds with
  | nil => contradiction
  | cons first rest => simp [mergeAll?, List.foldlM_append]

namespace PathMachine

@[simp] theorem pendingOf?_nil (quiet : Nat) : pendingOf? quiet [] = none := rfl

theorem pendingOf?_eq (quiet : Nat) {records : List ChangeRecord} (first last : ChangeRecord)
    (begins : records.head? = some first) (ends : records.getLast? = some last) :
    pendingOf? quiet records = (mergeAll? (records.map (·.change.kind))).map
      fun kind => ⟨⟨first.change.path, kind⟩, last.time + quiet⟩ := by
  simp only [pendingOf?, begins, ends]
  exact Option.map_eq_bind.symm

-- One more record does to what is pending what a debouncer does on recording it.
theorem pendingOf?_append (quiet : Nat) (records : List ChangeRecord) (record : ChangeRecord)
    (kept : records ≠ [] → (pendingOf? quiet records).isSome = true) :
    pendingOf? quiet (records ++ [record]) =
      Pending.after? record.change (record.time + quiet) (pendingOf? quiet records) := by
  cases records with
  | nil => rfl
  | cons first rest =>
      obtain ⟨last, ends⟩ : ∃ last, (first :: rest).getLast? = some last := by
        simp [List.getLast?_cons]
      have before := pendingOf?_eq quiet first last rfl ends
      have after : pendingOf? quiet (first :: rest ++ [record]) = _ :=
        pendingOf?_eq quiet first record rfl List.getLast?_concat
      have append := mergeAll?_append ((first :: rest).map (·.change.kind)) record.change.kind
        (by simp)
      rw [List.map_append, List.map_singleton, append] at after
      rw [after, before]
      cases merged : mergeAll? ((first :: rest).map (·.change.kind)) with
      | none =>
          have waiting := kept (by simp)
          rw [before, merged] at waiting
          contradiction
      | some kind => rfl

-- Records are kept only while something is pending.
def Kept (quiet : Nat) (machine : PathMachine) : Prop :=
  machine.records ≠ [] → (machine.pending? quiet).isSome = true

theorem kept_record (quiet : Nat) (machine : PathMachine) (change : Change) :
    (machine.record quiet change).Kept quiet := by
  intro recorded
  by_cases left : (pendingOf? quiet (machine.records ++ [⟨machine.now, change⟩])).isSome = true
  · simp [record, pending?, left]
  · simp [record, left] at recorded

theorem kept_drain (quiet : Nat) (machine : PathMachine) (kept : machine.Kept quiet) :
    (machine.drain quiet).Kept quiet := by
  unfold drain
  split
  · intro recorded
    contradiction
  · exact kept

theorem pending?_record (quiet : Nat) (machine : PathMachine) (change : Change)
    (kept : machine.Kept quiet) :
    (machine.record quiet change).pending? quiet =
      Pending.after? change (machine.now + quiet) (machine.pending? quiet) := by
  have append := pendingOf?_append quiet machine.records ⟨machine.now, change⟩ kept
  by_cases left : (pendingOf? quiet (machine.records ++ [⟨machine.now, change⟩])).isSome = true
  · simpa [record, pending?, left] using append
  · rw [Option.not_isSome_iff_eq_none] at left
    simp only [record, pending?, left, Option.isSome_none, Bool.false_eq_true, if_false,
      pendingOf?_nil]
    exact left.symm.trans append

theorem pending?_drain (quiet : Nat) (machine : PathMachine) :
    (machine.drain quiet).pending? quiet =
      (machine.pending? quiet).filter (!·.isReady machine.now) := by
  unfold drain
  cases found : machine.pending? quiet with
  | none => simpa using found
  | some pending =>
      by_cases ready : pending.isReady machine.now = true
      · simp [ready, pending?, Option.filter]
      · simpa [ready, Option.filter] using found

end PathMachine

structure Agree (quiet : Nat) (path : Path) (state : ClockedDebouncer) (machine : PathMachine) :
    Prop where
  quiet_eq : state.debouncer.quiet = quiet
  now_eq : state.now = machine.now
  distinct : Pending.Distinct state.debouncer.pending
  kept : machine.Kept quiet
  pending_eq : state.debouncer.find? path = machine.pending? quiet

section
variable {quiet : Nat} {path : Path} {state : ClockedDebouncer} {machine : PathMachine}

theorem Agree.record (agree : Agree quiet path state machine) (change : Change) :
    Agree quiet path (state.step (.record change)) (machine.step quiet path (.record change)) := by
  have found := state.debouncer.find?_record state.now change path agree.distinct
  rw [agree.quiet_eq, agree.now_eq, agree.pending_eq] at found
  by_cases same : change.path.sameAs path = true
  · rw [if_pos same] at found
    simp only [PathMachine.step, same, if_true]
    exact {
      quiet_eq := agree.quiet_eq
      now_eq := agree.now_eq
      distinct := agree.distinct.record change _
      kept := machine.kept_record quiet change
      pending_eq := by
        rw [machine.pending?_record quiet change agree.kept, ← found, ← agree.now_eq]
        rfl }
  · rw [if_neg same] at found
    simp only [PathMachine.step, same, Bool.false_eq_true, if_false]
    exact {
      quiet_eq := agree.quiet_eq
      now_eq := agree.now_eq
      distinct := agree.distinct.record change _
      kept := agree.kept
      pending_eq := by
        rw [← found, ← agree.now_eq]
        rfl }

theorem Agree.drain (agree : Agree quiet path state machine) :
    Agree quiet path (state.step .drain) (machine.step quiet path .drain) := by
  have clock : (machine.drain quiet).now = machine.now := by
    unfold PathMachine.drain
    split <;> rfl
  have found := state.debouncer.find?_drain state.now path agree.distinct
  rw [agree.pending_eq, agree.now_eq] at found
  exact {
    quiet_eq := agree.quiet_eq
    now_eq := agree.now_eq.trans clock.symm
    distinct := agree.distinct.filter _
    kept := machine.kept_drain quiet agree.kept
    pending_eq := by
      rw [PathMachine.step, machine.pending?_drain quiet, ← found, ← agree.now_eq]
      rfl }

theorem Agree.step (agree : Agree quiet path state machine) (step : DebounceStep) :
    Agree quiet path (state.step step) (machine.step quiet path step) := by
  cases step with
  | record change => exact agree.record change
  | advance elapsed => exact { agree with now_eq := congrArg (· + elapsed) agree.now_eq }
  | drain => exact agree.drain

end

theorem Agree.run {quiet : Nat} {path : Path} {state : ClockedDebouncer} {machine : PathMachine}
    (agree : Agree quiet path state machine) (steps : List DebounceStep) :
    Agree quiet path (steps.foldl ClockedDebouncer.step state)
      (steps.foldl (PathMachine.step quiet path) machine) := by
  induction steps generalizing state machine with
  | nil => exact agree
  | cons step rest ih => exact ih (agree.step step)

theorem agree_run (quiet start : Nat) (path : Path) (steps : List DebounceStep) :
    Agree quiet path (ClockedDebouncer.run quiet start steps)
      (PathMachine.run quiet start path steps) := by
  have empty : Agree quiet path ⟨{ quiet }, start⟩ { now := start } := {
    quiet_eq := rfl
    now_eq := rfl
    distinct := List.nodup_nil
    kept := fun recorded => absurd rfl recorded
    pending_eq := rfl }
  exact empty.run steps

theorem PathMachine.run_filter (quiet start : Nat) (path : Path) (steps : List DebounceStep) :
    PathMachine.run quiet start path (steps.filter (·.concerns path)) =
      PathMachine.run quiet start path steps := by
  unfold PathMachine.run
  generalize ({ now := start } : PathMachine) = machine
  induction steps generalizing machine with
  | nil => rfl
  | cons step rest ih =>
      by_cases concerned : step.concerns path = true
      · simp only [List.filter_cons, concerned, if_true, List.foldl_cons, ih]
      · have unmoved : machine.step quiet path step = machine := by
          cases step <;> simp_all [DebounceStep.concerns, PathMachine.step]
        simp only [List.filter_cons, concerned, Bool.false_eq_true, if_false, List.foldl_cons,
          unmoved, ih]

theorem recordsOf_append (path : Path) (now : Nat) (before after : List DebounceStep) :
    recordsOf path now (before ++ after) =
      recordsOf path now before ++ recordsOf path (clockAfter now before) after := by
  induction before generalizing now with
  | nil => rfl
  | cons step rest ih =>
      cases step with
      | record change =>
          simp only [List.cons_append, recordsOf, clockAfter, ih]
          split <;> rfl
      | advance elapsed => exact ih (now + elapsed)
      | drain => exact ih now

theorem clockAfter_append (now : Nat) (before after : List DebounceStep) :
    clockAfter now (before ++ after) = clockAfter (clockAfter now before) after := by
  induction before generalizing now with
  | nil => rfl
  | cons step rest ih => cases step <;> exact ih _

theorem PathMachine.run_concat (quiet start : Nat) (path : Path) (steps : List DebounceStep)
    (step : DebounceStep) :
    run quiet start path (steps ++ [step]) = (run quiet start path steps).step quiet path step := by
  simp [run]

theorem PathMachine.run_now (quiet start : Nat) (path : Path) (steps : List DebounceStep) :
    (run quiet start path steps).now = clockAfter start steps := by
  induction steps using List.reverseRecOn with
  | nil => rfl
  | append_singleton steps step ih =>
      rw [run_concat, clockAfter_append, ← ih]
      cases step with
      | record change =>
          simp only [PathMachine.step, clockAfter]
          split <;> rfl
      | advance elapsed => rfl
      | drain =>
          simp only [PathMachine.step, PathMachine.drain, clockAfter]
          split <;> rfl

theorem PathMachine.records_step (quiet : Nat) (path : Path) (machine : PathMachine)
    (step : DebounceStep) :
    (machine.step quiet path step).records = [] ∨
      (machine.step quiet path step).records =
        machine.records ++ recordsOf path machine.now [step] := by
  cases step with
  | record change =>
      by_cases same : change.path.sameAs path = true
      · simp only [PathMachine.step, same, if_true, PathMachine.record, recordsOf]
        split
        · exact .inr rfl
        · exact .inl rfl
      · simp [PathMachine.step, same, recordsOf]
  | advance elapsed => simp [PathMachine.step, recordsOf]
  | drain =>
      simp only [PathMachine.step, PathMachine.drain, recordsOf, List.append_nil]
      split
      · exact .inl rfl
      · exact .inr rfl

theorem PathMachine.records_since_absent (quiet start : Nat) (path : Path)
    (steps : List DebounceStep) :
    ∃ before after, steps = before ++ after ∧ LastAbsent quiet start path before after ∧
      (run quiet start path steps).records = recordsOf path (clockAfter start before) after := by
  induction steps using List.reverseRecOn with
  | nil =>
      refine ⟨[], [], rfl, ⟨rfl, ?_⟩, rfl⟩
      intro middle rest split going
      obtain ⟨rfl, rfl⟩ := List.append_eq_nil_iff.mp split.symm
      exact absurd rfl going
  | append_singleton steps step ih =>
      have agree := agree_run quiet start path (steps ++ [step])
      -- Without records the path is absent here; with some, the stretch so far has become longer.
      by_cases empty : (run quiet start path (steps ++ [step])).records = []
      · refine ⟨steps ++ [step], [], by simp, ⟨?_, ?_⟩, by simp [empty, recordsOf]⟩
        · rw [agree.pending_eq, pending?, empty]
          rfl
        · intro middle rest split going
          obtain ⟨rfl, rfl⟩ := List.append_eq_nil_iff.mp split.symm
          exact absurd rfl going
      · obtain ⟨before, after, rfl, last, records⟩ := ih
        have grown : (run quiet start path (before ++ after ++ [step])).records =
            recordsOf path (clockAfter start before) (after ++ [step]) := by
          have kinds := (run quiet start path (before ++ after)).records_step quiet path step
          rw [← run_concat, run_now] at kinds
          rw [kinds.resolve_left empty, records, recordsOf_append, clockAfter_append]
        refine ⟨before, after ++ [step], by simp, ⟨last.absent, ?_⟩, grown⟩
        intro middle rest split going
        rcases List.eq_nil_or_concat rest with rfl | ⟨front, final, rfl⟩
        · rw [List.append_nil] at split
          subst split
          rw [← List.append_assoc, agree.pending_eq]
          exact Option.isSome_iff_ne_none.mp (agree.kept empty)
        · rw [List.concat_eq_append, ← List.append_assoc] at split
          obtain ⟨same, _⟩ := List.append_inj' split rfl
          exact last.present middle front same going

/-- A debouncer does for every path what the machine of that path does on its own, whatever
happens to other paths. Draining takes the changes that have settled, each once, and leaves all
others as they are, and the next deadline is the least of those pending. -/
theorem debouncer_refines_path_machines (quiet start : Nat) (steps : List DebounceStep) :
    let state := ClockedDebouncer.run quiet start steps
    (∀ path,
      state.debouncer.find? path = (PathMachine.run quiet start path steps).pending? quiet ∧
      (ClockedDebouncer.run quiet start (steps.filter (·.concerns path))).debouncer.find? path =
        state.debouncer.find? path ∧
      ∃ before after, steps = before ++ after ∧ LastAbsent quiet start path before after ∧
        (PathMachine.run quiet start path steps).records =
          recordsOf path (clockAfter start before) after) ∧
    (∀ change, change ∈ state.debouncer.ready state.now ↔
      ∃ pending, state.debouncer.find? change.path = some pending ∧
        pending.deadline ≤ state.now ∧ pending.toChange = change) ∧
    (state.debouncer.ready state.now).Pairwise
      (fun left right => left.path.sameAs right.path = false) ∧
    (∀ path, (state.debouncer.drain state.now).find? path =
      (state.debouncer.find? path).filter (state.now < ·.deadline)) ∧
    (state.debouncer.nextDeadline = none ↔ ∀ path, state.debouncer.find? path = none) ∧
    (∀ deadline, state.debouncer.nextDeadline = some deadline ↔
      (∃ path pending, state.debouncer.find? path = some pending ∧ pending.deadline = deadline) ∧
        ∀ path pending, state.debouncer.find? path = some pending →
          deadline ≤ pending.deadline) ∧
    (∀ deadline, (state.debouncer.drain state.now).nextDeadline = some deadline →
      state.now < deadline) := by
  intro state
  have agree (path : Path) := agree_run quiet start path steps
  have distinct : Pending.Distinct state.debouncer.pending := (agree ⟨[]⟩).distinct
  refine ⟨?_, fun change => state.debouncer.mem_ready_iff state.now change distinct,
    state.debouncer.ready_pairwise state.now distinct, ?_,
    state.debouncer.nextDeadline_eq_none_iff distinct,
    fun deadline => state.debouncer.nextDeadline_eq_some_iff deadline distinct,
    fun deadline => state.debouncer.lt_nextDeadline_drain state.now deadline⟩
  · intro path
    refine ⟨(agree path).pending_eq, ?_, PathMachine.records_since_absent quiet start path steps⟩
    have filtered := agree_run quiet start path (steps.filter (·.concerns path))
    rw [filtered.pending_eq, PathMachine.run_filter]
    exact (agree path).pending_eq.symm
  · intro path
    rw [state.debouncer.find?_drain state.now path distinct]
    congr 1
    funext pending
    rw [Bool.eq_iff_iff]
    simp [Pending.isReady]

end Workbench
