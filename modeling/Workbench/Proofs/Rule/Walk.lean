import Mathlib.Tactic.Tauto
import Workbench.Proofs.Text.Split
import Workbench.Rule.Evaluate

set_option autoImplicit false

namespace Workbench

variable {α : Type}

def Rule.fires (search : Search α) (rule : Rule α) (url : List Char) : Bool :=
  (search rule.pattern url).isSome != rule.negated

def Rule.target (search : Search α) (rule : Rule α) (url : List Char) : List Char :=
  match rule.replacement with
  | some template => Template.expand template (search rule.pattern url)
  | none => url

def Rule.handOn (search : Search α) (url : List Char) (rule : Rule α) : List Char :=
  if rule.fires search url && !rule.action.isTerminal then rule.target search url else url

def urlBehind (search : Search α) (url : List Char) (rules : List (Rule α)) : List Char :=
  rules.foldl (Rule.handOn search) url

def Rule.stops (rule : Rule α) : Bool :=
  rule.action.isTerminal || rule.last

def Passes (search : Search α) (url : List Char) (rules : List (Rule α)) : Prop :=
  ∀ before rule after, rules = before ++ rule :: after →
    rule.fires search (urlBehind search url before) = true → rule.stops = false

-- Some rewrite fires and changes the URL that it is applied to.
def Changes (search : Search α) (url : List Char) (rules : List (Rule α)) : Prop :=
  ∃ before rule after, rules = before ++ rule :: after ∧
    rule.fires search (urlBehind search url before) = true ∧ rule.action = .rewrite ∧
    rule.target search (urlBehind search url before) ≠ urlBehind search url before

def Action.outcome? (target : List Char) : Action -> Option Outcome
  | .rewrite => none
  | .proxy => some (.proxy target)
  | .redirect status => some (.redirect target status)
  | .respond code => some (.status code)

theorem Action.outcome?_eq_some_proxy_iff (action : Action) (target url : List Char) :
    action.outcome? target = some (.proxy url) ↔ action = .proxy ∧ target = url := by
  cases action <;> simp [Action.outcome?]

theorem Action.outcome?_eq_some_redirect_iff (action : Action) (target location : List Char)
    (status : Nat) :
    action.outcome? target = some (.redirect location status) ↔
      action = .redirect status ∧ target = location := by
  cases action <;> simp [Action.outcome?, and_comm]

theorem Action.outcome?_eq_some_status_iff (action : Action) (target : List Char) (code : Nat) :
    action.outcome? target = some (.status code) ↔ action = .respond code := by
  cases action <;> simp [Action.outcome?]

-- The outcome of a walk that was decided by no terminal rule.
def Undecided (search : Search α) (url : List Char) (rules : List (Rule α)) (outcome : Outcome) :
    Prop :=
  (Changes search url rules ∧ outcome = .rewritten (urlBehind search url rules)) ∨
    (¬ Changes search url rules ∧ outcome = .unchanged)

structure StopsAt (search : Search α) (url : List Char) (before : List (Rule α)) (rule : Rule α) :
    Prop where
  passes : Passes search url before
  fires : rule.fires search (urlBehind search url before) = true
  stops : rule.stops = true

/-- What a list of rules decides: the first rule that stops the walk answers if it is terminal. -/
inductive Decides (search : Search α) (url : List Char) : List (Rule α) -> Outcome -> Prop
  | terminal {before after : List (Rule α)} {rule : Rule α} {outcome : Outcome}
      (stop : StopsAt search url before rule)
      (answer : rule.action.outcome? (rule.target search (urlBehind search url before)) =
        some outcome) :
      Decides search url (before ++ rule :: after) outcome
  | last {before after : List (Rule α)} {rule : Rule α} {outcome : Outcome}
      (stop : StopsAt search url before rule) (rewrite : rule.action = .rewrite)
      (undecided : Undecided search url (before ++ [rule]) outcome) :
      Decides search url (before ++ rule :: after) outcome
  | through {rules : List (Rule α)} {outcome : Outcome} (passes : Passes search url rules)
      (undecided : Undecided search url rules outcome) :
      Decides search url rules outcome

theorem Action.not_isTerminal_iff (action : Action) :
    ¬ action.isTerminal = true ↔ action = .rewrite := by
  cases action <;> simp [Action.isTerminal]

theorem Rule.action_of_not_stops {rule : Rule α} (free : rule.stops = false) :
    rule.action = .rewrite := by
  simp only [Rule.stops, Bool.or_eq_false_iff] at free
  exact rule.action.not_isTerminal_iff.mp (by simp [free.1])

theorem Rule.apply?_eq (search : Search α) (rule : Rule α) (url : List Char) :
    rule.apply? search url =
      if rule.fires search url then some (rule.target search url) else none := by
  unfold Rule.apply? Rule.fires Rule.target
  cases search rule.pattern url <;> cases rule.negated <;> rfl

section
variable (search : Search α)

@[simp] theorem urlBehind_nil (url : List Char) : urlBehind search url [] = url := rfl

@[simp] theorem urlBehind_cons (url : List Char) (rule : Rule α) (rest : List (Rule α)) :
    urlBehind search url (rule :: rest) = urlBehind search (rule.handOn search url) rest := rfl

theorem passes_nil (url : List Char) : Passes search url [] := by
  intro before rule after split
  simp at split

theorem passes_cons (url : List Char) (rule : Rule α) (rest : List (Rule α)) :
    Passes search url (rule :: rest) ↔
      (rule.fires search url = true → rule.stops = false) ∧
        Passes search (rule.handOn search url) rest := by
  rw [Passes, forall_cut_cons]
  rfl

theorem not_changes_nil (url : List Char) : ¬ Changes search url [] := by
  rintro ⟨before, rule, after, split, _⟩
  simp at split

theorem changes_cons (url : List Char) (rule : Rule α) (rest : List (Rule α)) :
    Changes search url (rule :: rest) ↔
      (rule.fires search url = true ∧ rule.action = .rewrite ∧ rule.target search url ≠ url) ∨
        Changes search (rule.handOn search url) rest := by
  rw [Changes, exists_cut_cons]
  rfl

theorem passes_or_stopsAt (url : List Char) (rules : List (Rule α)) :
    Passes search url rules ∨
      ∃ before rule after, rules = before ++ rule :: after ∧ StopsAt search url before rule := by
  induction rules generalizing url with
  | nil => exact .inl (passes_nil search url)
  | cons rule rest ih =>
      by_cases stopped : rule.fires search url = true ∧ rule.stops = true
      · exact .inr ⟨[], rule, rest, rfl, passes_nil search url, stopped.1, stopped.2⟩
      · have first : rule.fires search url = true → rule.stops = false := by
          intro fires
          simpa [fires] using stopped
        rcases ih (rule.handOn search url) with passes | ⟨before, other, after, split, stop⟩
        · exact .inl ((passes_cons search url rule rest).mpr ⟨first, passes⟩)
        · exact .inr ⟨rule :: before, other, after, by simp [split],
            (passes_cons search url rule before).mpr ⟨first, stop.passes⟩, stop.fires, stop.stops⟩

theorem evaluateFrom_cons_of_not_stopping (changed : Bool) (url : List Char) (rule : Rule α)
    (rest : List (Rule α)) (free : rule.fires search url = true → rule.stops = false) :
    evaluateFrom search changed url (rule :: rest) =
      evaluateFrom search
        (changed || (rule.fires search url && rule.target search url ≠ url))
        (rule.handOn search url) rest := by
  simp only [evaluateFrom, Rule.apply?_eq]
  by_cases fires : rule.fires search url = true
  · have rewrite := Rule.action_of_not_stops (free fires)
    have goesOn : rule.last = false := by
      simpa [Rule.stops, rewrite, Action.isTerminal] using free fires
    simp [fires, rewrite, goesOn, Rule.handOn, Action.isTerminal]
  · simp [fires, Rule.handOn]

-- The invariant of the walk: the flag tells whether a rewrite has changed the URL so far.
theorem evaluateFrom_append (before rest : List (Rule α)) (changed : Bool) (url : List Char)
    (passes : Passes search url before) :
    ∃ changed', (changed' = true ↔ changed = true ∨ Changes search url before) ∧
      evaluateFrom search changed url (before ++ rest) =
        evaluateFrom search changed' (urlBehind search url before) rest := by
  induction before generalizing changed url with
  | nil => exact ⟨changed, by simp [not_changes_nil], rfl⟩
  | cons rule before ih =>
      obtain ⟨first, others⟩ := (passes_cons search url rule before).mp passes
      obtain ⟨changed', flag, walk⟩ :=
        ih (changed || (rule.fires search url && rule.target search url ≠ url)) _ others
      refine ⟨changed', ?_, ?_⟩
      · have rewrites : rule.fires search url = true → rule.action = .rewrite := fun fires =>
          Rule.action_of_not_stops (first fires)
        rw [flag, changes_cons]
        simp only [Bool.or_eq_true, Bool.and_eq_true, decide_eq_true_eq]
        tauto
      · rw [List.cons_append, evaluateFrom_cons_of_not_stopping search changed url rule _ first]
        exact walk

theorem undecided_ofUrl (url : List Char) (rules : List (Rule α)) (changed : Bool)
    (flag : changed = true ↔ Changes search url rules) :
    Undecided search url rules (.ofUrl changed (urlBehind search url rules)) := by
  cases changed with
  | true => exact .inl ⟨flag.mp rfl, rfl⟩
  | false => exact .inr ⟨by simp [← flag], rfl⟩

theorem evaluateWith_append (before rest : List (Rule α)) (url : List Char)
    (passes : Passes search url before) :
    ∃ changed, (changed = true ↔ Changes search url before) ∧
      evaluateWith search (before ++ rest) url =
        evaluateFrom search changed (urlBehind search url before) rest := by
  obtain ⟨changed, flag, walk⟩ := evaluateFrom_append search before rest false url passes
  exact ⟨changed, by simpa using flag, walk⟩

theorem urlBehind_append (url : List Char) (before rest : List (Rule α)) :
    urlBehind search url (before ++ rest) =
      urlBehind search (urlBehind search url before) rest := by
  simp [urlBehind]

theorem changes_append (url : List Char) (before rest : List (Rule α)) :
    Changes search url (before ++ rest) ↔
      Changes search url before ∨ Changes search (urlBehind search url before) rest := by
  induction before generalizing url with
  | nil => simp [not_changes_nil]
  | cons rule before ih => simp only [List.cons_append, changes_cons, ih, urlBehind_cons, or_assoc]

theorem undecided_of_last (before after : List (Rule α)) (rule : Rule α) (url : List Char)
    (stop : StopsAt search url before rule) (rewrite : rule.action = .rewrite) :
    Undecided search url (before ++ [rule])
      (evaluateWith search (before ++ rule :: after) url) := by
  obtain ⟨changed, flag, walk⟩ := evaluateWith_append search before (rule :: after) url stop.passes
  have last : rule.last = true := by
    simpa [Rule.stops, rewrite, Action.isTerminal] using stop.stops
  have behind : urlBehind search url (before ++ [rule]) =
      rule.target search (urlBehind search url before) := by
    simp [urlBehind_append, Rule.handOn, stop.fires, rewrite, Action.isTerminal]
  have outcome : evaluateWith search (before ++ rule :: after) url =
      .ofUrl (changed || rule.target search (urlBehind search url before) ≠
        urlBehind search url before) (urlBehind search url (before ++ [rule])) := by
    simp [walk, evaluateFrom, Rule.apply?_eq, stop.fires, rewrite, last, behind]
  rw [outcome]
  apply undecided_ofUrl
  simp [changes_append, changes_cons, not_changes_nil, flag, stop.fires, rewrite]

theorem answer_of_terminal (before after : List (Rule α)) (rule : Rule α) (url : List Char)
    (stop : StopsAt search url before rule) (terminal : rule.action.isTerminal = true) :
    rule.action.outcome? (rule.target search (urlBehind search url before)) =
      some (evaluateWith search (before ++ rule :: after) url) := by
  obtain ⟨changed, _, walk⟩ := evaluateWith_append search before (rule :: after) url stop.passes
  simp only [walk, evaluateFrom, Rule.apply?_eq, stop.fires, if_true]
  cases action : rule.action with
  | rewrite => simp [action, Action.isTerminal] at terminal
  | proxy => rfl
  | redirect status => rfl
  | respond code => rfl

theorem undecided_of_passes (rules : List (Rule α)) (url : List Char)
    (passes : Passes search url rules) :
    Undecided search url rules (evaluateWith search rules url) := by
  obtain ⟨changed, flag, walk⟩ := evaluateWith_append search rules [] url passes
  rw [List.append_nil] at walk
  rw [walk]
  exact undecided_ofUrl search url rules changed flag

theorem Undecided.unique {url : List Char} {rules : List (Rule α)} {first second : Outcome}
    (left : Undecided search url rules first) (right : Undecided search url rules second) :
    first = second := by
  rcases left with ⟨changes, rfl⟩ | ⟨kept, rfl⟩
  · exact (right.resolve_right fun unchanged => unchanged.1 changes).2.symm
  · exact (right.resolve_left fun changed => kept changed.1).2.symm

theorem decides_evaluateWith (rules : List (Rule α)) (url : List Char) :
    Decides search url rules (evaluateWith search rules url) := by
  rcases passes_or_stopsAt search url rules with passes | ⟨before, rule, after, rfl, stop⟩
  · exact .through passes (undecided_of_passes search rules url passes)
  · by_cases terminal : rule.action.isTerminal = true
    · exact .terminal stop (answer_of_terminal search before after rule url stop terminal)
    · have rewrite := rule.action.not_isTerminal_iff.mp terminal
      exact .last stop rewrite (undecided_of_last search before after rule url stop rewrite)

theorem eq_evaluateWith_of_decides {rules : List (Rule α)} {url : List Char} {outcome : Outcome}
    (decides : Decides search url rules outcome) : evaluateWith search rules url = outcome := by
  cases decides with
  | @terminal before after rule _ stop answer =>
      have terminal : rule.action.isTerminal = true := by
        cases action : rule.action <;> simp_all [Action.isTerminal, Action.outcome?]
      have same := answer_of_terminal search before after rule url stop terminal
      exact Option.some.inj (same.symm.trans answer)
  | @last before after rule _ stop rewrite undecided =>
      exact (undecided_of_last search before after rule url stop rewrite).unique search undecided
  | through passes undecided =>
      exact (undecided_of_passes search rules url passes).unique search undecided

theorem rule_of_answer {rules : List (Rule α)} {url : List Char} {outcome : Outcome}
    (answered : evaluateWith search rules url = outcome) (kept : outcome ≠ .unchanged)
    (whole : ∀ other, outcome ≠ .rewritten other) :
    ∃ before rule after, rules = before ++ rule :: after ∧
      rule.action.outcome? (rule.target search (urlBehind search url before)) = some outcome := by
  have decided {rules : List (Rule α)} (undecided : Undecided search url rules outcome) :
      False := by
    rcases undecided with ⟨_, rewritten⟩ | ⟨_, unchanged⟩
    · exact whole _ rewritten
    · exact kept unchanged
  have decides := decides_evaluateWith search rules url
  rw [answered] at decides
  cases decides with
  | @terminal before after rule _ stop answer => exact ⟨before, rule, after, rfl, answer⟩
  | last stop rewrite undecided => exact (decided undecided).elim
  | through passes undecided => exact (decided undecided).elim

theorem evaluateWith_congr_behind (before after others : List (Rule α)) (rule : Rule α)
    (url : List Char) (stop : StopsAt search url before rule) :
    evaluateWith search (before ++ rule :: others) url =
      evaluateWith search (before ++ rule :: after) url := by
  by_cases terminal : rule.action.isTerminal = true
  · have left := answer_of_terminal search before others rule url stop terminal
    have right := answer_of_terminal search before after rule url stop terminal
    exact Option.some.inj (left.symm.trans right)
  · have rewrite := rule.action.not_isTerminal_iff.mp terminal
    exact (undecided_of_last search before others rule url stop rewrite).unique search
      (undecided_of_last search before after rule url stop rewrite)

end

/-- Evaluation answers as the first rule decides that fires and stops the walk, or as what has
changed tells if there is none, and the rules behind such a rule can be replaced by any others. -/
theorem evaluateWith_eq_iff_decides (search : Search α) (rules : List (Rule α)) (url : List Char) :
    (∀ outcome, evaluateWith search rules url = outcome ↔ Decides search url rules outcome) ∧
      ∀ before rule after, rules = before ++ rule :: after → StopsAt search url before rule →
        ∀ others, evaluateWith search (before ++ rule :: others) url =
          evaluateWith search rules url := by
  constructor
  · intro outcome
    constructor
    · rintro rfl
      exact decides_evaluateWith search rules url
    · exact eq_evaluateWith_of_decides search
  · rintro before rule after rfl stop others
    exact evaluateWith_congr_behind search before after others rule url stop

end Workbench
