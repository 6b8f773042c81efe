import Workbench.Proofs.Reload.Settling
import Workbench.Proofs.Reload.Window

set_option autoImplicit false

namespace Workbench

namespace ChangeKind

/-- Changes that one file can undergo, from whether it is there at first to whether it is there
behind them. -/
inductive Leads : Bool -> List ChangeKind -> Bool -> Prop
  | nil (present : Bool) : Leads present [] present
  | created {kinds : List ChangeKind} {after : Bool} (rest : Leads true kinds after) :
      Leads false (.created :: kinds) after
  | modified {kinds : List ChangeKind} {after : Bool} (rest : Leads true kinds after) :
      Leads true (.modified :: kinds) after
  | removed {kinds : List ChangeKind} {after : Bool} (rest : Leads false kinds after) :
      Leads true (.removed :: kinds) after

-- The difference that is left between a first and a last look at a file.
def net? (before now recorded : Bool) : Option ChangeKind :=
  match before, now with
  | false, false => none
  | false, true => some .created
  | true, false => some .removed
  | true, true => if recorded then some .modified else none

theorem allOnto_net? {now after : Bool} {kinds : List ChangeKind} (leads : Leads now kinds after)
    (before recorded : Bool) :
    allOnto kinds (net? before now recorded) = net? before after (recorded || !kinds.isEmpty) := by
  induction leads generalizing recorded with
  | nil present => simp [allOnto]
  | created _ ih =>
      have step : onto .created (net? before false recorded) = net? before true true := by
        cases before <;> rfl
      simpa [allOnto, step] using ih true
  | modified _ ih =>
      have step : onto .modified (net? before true recorded) = net? before true true := by
        cases before <;> cases recorded <;> rfl
      simpa [allOnto, step] using ih true
  | removed _ ih =>
      have step : onto .removed (net? before true recorded) = net? before false true := by
        cases before <;> cases recorded <;> rfl
      simpa [allOnto, step] using ih true

theorem allOnto_of_leads {before after : Bool} {kinds : List ChangeKind}
    (leads : Leads before kinds after) :
    allOnto kinds none = net? before after (!kinds.isEmpty) := by
  have nothing : net? before before false = none := by
    cases before <;> rfl
  rw [← nothing]
  exact allOnto_net? leads before false

end ChangeKind

namespace Debouncer

variable {debouncer : Debouncer} {path : Path}

theorem kindAt?_record (now : Nat) (change : Change) (path : Path)
    (distinct : Pending.Distinct debouncer.pending) :
    (debouncer.record now change).kindAt? path =
      if change.path.sameAs path then change.kind.onto (debouncer.kindAt? path)
      else debouncer.kindAt? path := by
  rw [kindAt?, kindAt?, find?_record debouncer now change path distinct]
  split
  · exact Pending.kind_after? change _ _
  · rfl

theorem kindAt?_drain (now : Nat) (distinct : Pending.Distinct debouncer.pending)
    (spared : ∀ change ∈ debouncer.ready now, change.path.sameAs path = false) :
    (debouncer.drain now).kindAt? path = debouncer.kindAt? path := by
  rw [kindAt?, kindAt?, find?_drain debouncer now path distinct]
  cases found : debouncer.find? path with
  | none => rfl
  | some pending =>
      have same := ((distinct.find?_eq_some_iff path pending).mp found).2
      have waits : pending.isReady now = false := by
        rw [← Bool.not_eq_true]
        intro ready
        have taken : pending.toChange ∈ debouncer.ready now :=
          List.mem_map_of_mem (List.mem_filter.mpr ⟨mem_of_find? found, ready⟩)
        rw [spared _ taken] at same
        contradiction
      simp [waits]

end Debouncer

namespace ClockedDebouncer

variable {path : Path} {state : ClockedDebouncer} {first : DebounceStep}

def Spares (path : Path) (state : ClockedDebouncer) : DebounceStep -> Prop
  | .drain => ∀ change ∈ state.debouncer.ready state.now, change.path.sameAs path = false
  | .record _ | .advance _ => True

-- No drain among the steps takes what is pending about a path.
def Undrained (path : Path) : ClockedDebouncer -> List DebounceStep -> Prop
  | _, [] => True
  | state, first :: rest => state.Spares path first ∧ Undrained path (state.step first) rest

instance decidableSpares (path : Path) (state : ClockedDebouncer) :
    (step : DebounceStep) -> Decidable (state.Spares path step)
  | .drain => inferInstanceAs
      (Decidable (∀ change ∈ state.debouncer.ready state.now, change.path.sameAs path = false))
  | .record _ | .advance _ => .isTrue trivial

instance decidableUndrained (path : Path) :
    (state : ClockedDebouncer) -> (steps : List DebounceStep) ->
      Decidable (state.Undrained path steps)
  | _, [] => .isTrue trivial
  | state, first :: rest =>
      have := decidableUndrained path (state.step first) rest
      inferInstanceAs (Decidable (state.Spares path first ∧ Undrained path (state.step first) rest))

theorem now_step (state : ClockedDebouncer) (first : DebounceStep) :
    (state.step first).now = clockAfter state.now [first] := by
  cases first <;> rfl

theorem distinct_step (distinct : Pending.Distinct state.debouncer.pending)
    (first : DebounceStep) : Pending.Distinct (state.step first).debouncer.pending := by
  cases first with
  | record change => exact distinct.record change _
  | advance elapsed => exact distinct
  | drain => exact distinct.filter _

theorem kindAt?_step (distinct : Pending.Distinct state.debouncer.pending)
    (spares : state.Spares path first) :
    (state.step first).debouncer.kindAt? path =
      ChangeKind.allOnto ((recordsOf path state.now [first]).map (·.change.kind))
        (state.debouncer.kindAt? path) := by
  cases first with
  | record change =>
      have recorded := Debouncer.kindAt?_record state.now change path distinct
      by_cases same : change.path.sameAs path = true
      · rw [if_pos same] at recorded
        simp only [recordsOf, same, if_true]
        exact recorded
      · rw [if_neg same] at recorded
        simp only [recordsOf, same, Bool.false_eq_true, if_false]
        exact recorded
  | advance elapsed => rfl
  | drain => exact Debouncer.kindAt?_drain state.now distinct spares

theorem kindAt?_steps {steps : List DebounceStep}
    (distinct : Pending.Distinct state.debouncer.pending) (undrained : state.Undrained path steps) :
    (steps.foldl step state).debouncer.kindAt? path =
      ChangeKind.allOnto ((recordsOf path state.now steps).map (·.change.kind))
        (state.debouncer.kindAt? path) := by
  induction steps generalizing state with
  | nil => rfl
  | cons first rest ih =>
      obtain ⟨spares, others⟩ := undrained
      have parts : recordsOf path state.now (first :: rest) =
          recordsOf path state.now [first] ++ recordsOf path (state.step first).now rest := by
        rw [now_step, ← recordsOf_append]
        rfl
      rw [List.foldl_cons, ih (distinct_step distinct first) others, kindAt?_step distinct spares,
        parts, List.map_append, ChangeKind.allOnto_append]

end ClockedDebouncer

section
variable {quiet start : Nat} {path : Path} {earlier window : List DebounceStep}
  {before after : Bool}

/-- A window begins where nothing is pending about a path and ends before a drain takes anything
of it. If a single file can have reported what is recorded of the path in between, then what is
pending is the difference between the file as it was and as it is, and a change if it is there
at both ends and anything was recorded. -/
theorem pending_is_net_effect
    (begins : (ClockedDebouncer.run quiet start earlier).debouncer.find? path = none)
    (undrained : (ClockedDebouncer.run quiet start earlier).Undrained path window)
    (leads : ChangeKind.Leads before
      ((recordsOf path (clockAfter start earlier) window).map (·.change.kind)) after) :
    let recorded := recordsOf path (clockAfter start earlier) window
    let pending := (ClockedDebouncer.run quiet start (earlier ++ window)).debouncer.find? path
    (pending = none ↔ recorded = [] ∨ before = false ∧ after = false) ∧
      (pending.map (·.kind) = some .created ↔ before = false ∧ after = true) ∧
      (pending.map (·.kind) = some .removed ↔ before = true ∧ after = false) ∧
      (pending.map (·.kind) = some .modified ↔
        before = true ∧ after = true ∧ recorded ≠ []) := by
  intro recorded pending
  have agree := agree_run quiet start path earlier
  have clock : (ClockedDebouncer.run quiet start earlier).now = clockAfter start earlier :=
    agree.now_eq.trans (PathMachine.run_now quiet start path earlier)
  have kind : pending.map (·.kind) =
      ChangeKind.net? before after (!(recorded.map (·.change.kind)).isEmpty) := by
    have steps := ClockedDebouncer.kindAt?_steps agree.distinct undrained
    rw [clock, Debouncer.kindAt?, Debouncer.kindAt?, begins, Option.map_none,
      ChangeKind.allOnto_of_leads leads] at steps
    rw [← steps]
    simp only [pending, ClockedDebouncer.run, List.foldl_append]
  rw [← Option.map_eq_none_iff, kind]
  change ChangeKind.Leads before (recorded.map _) after at leads
  clear_value recorded
  cases recorded with
  | nil =>
      cases leads
      cases before <;> simp [ChangeKind.net?]
  | cons record rest => cases before <;> cases after <;> simp [ChangeKind.net?]

end

def sheet : Path := .ofString "/app/a.css"

def makingSheet : List DebounceStep :=
  [.record ⟨sheet, .created⟩, .advance 100, .drain]

def replacingSheet : List DebounceStep :=
  [.record ⟨sheet, .removed⟩, .advance 60, .record ⟨.ofString "/app/b.css", .created⟩,
    .record ⟨.ofString "/app//a.css", .created⟩, .advance 90, .drain, .record ⟨sheet, .modified⟩,
    .advance 20, .drain]

theorem replaced_sheet_is_modified :
    let earlier := ClockedDebouncer.run 100 0 makingSheet
    let kinds := (recordsOf sheet (clockAfter 0 makingSheet) replacingSheet).map (·.change.kind)
    let now := ClockedDebouncer.run 100 0 (makingSheet ++ replacingSheet)
    earlier.debouncer.find? sheet = none ∧ earlier.Undrained sheet replacingSheet ∧
      kinds = [.removed, .created, .modified] ∧ ChangeKind.Leads true kinds true ∧
      (now.debouncer.find? sheet).map (·.kind) = some .modified := by
  intro earlier kinds now
  have begins : earlier.debouncer.find? sheet = none := by decide +kernel
  have undrained : earlier.Undrained sheet replacingSheet := by decide +kernel
  have listed : kinds = [.removed, .created, .modified] := by decide +kernel
  have leads : ChangeKind.Leads true kinds true := by
    rw [listed]
    exact .removed (.created (.modified (.nil true)))
  obtain ⟨_, _, _, modified⟩ := pending_is_net_effect begins undrained leads
  exact ⟨begins, undrained, listed, leads, modified.mpr ⟨rfl, rfl, by decide +kernel⟩⟩

end Workbench
