import Workbench.Config.Basic
import Workbench.Proofs.Pattern.Thread
import Workbench.Proofs.Rule.Language
import Workbench.Proofs.Rule.Template
import Workbench.Rule.Evaluate

set_option autoImplicit false

namespace Workbench.Backend

open Pattern

def mark : List Char := "/REST/".toList

def origin : List Char := "http://localhost:8080".toList

def source : List Char := "^/REST/(.*)$".toList

-- Compiled from the back: the letters of the mark stand behind the loop that they lead to.
def steps : Steps := #[
  .accept,
  .save 1 0,
  .check .textEnd 1,
  .save 3 2,
  .fork 5 3,
  .char (CharSet.single '\n').complement 4,
  .save 2 4,
  .char (.single '/') 6,
  .char (.single 'T') 7,
  .char (.single 'S') 8,
  .char (.single 'E') 9,
  .char (.single 'R') 10,
  .char (.single '/') 11,
  .check .textStart 12,
  .save 0 13]

def program : Program := ⟨steps, 14⟩

def pattern : Pattern := ⟨source, program⟩

def rule : Rule Pattern where
  pattern := pattern
  negated := false
  replacement := some (origin ++ mark ++ "$1".toList)
  action := .proxy
  last := false

def node : Node :=
  .seq (.anchor .textStart) (.seq (.chars (.single '/')) (.seq (.chars (.single 'R'))
    (.seq (.chars (.single 'E')) (.seq (.chars (.single 'S')) (.seq (.chars (.single 'T'))
      (.seq (.chars (.single '/')) (.seq
        (.group 1 (.repeated (.chars (CharSet.single '\n').complement) 0 none true))
        (.anchor .textEnd))))))))

theorem source_denotes_node : Node.parse? source false = some node := by
  decide +kernel

theorem parse?_source : Pattern.parse? source false = some pattern := by
  rw [Pattern.parse?, source_denotes_node]
  rfl

theorem default_words :
    RuleWords defaultRewrite.toList source (origin ++ mark ++ "$1".toList) [['P']] := by
  refine ⟨some "[P]".toList, ?_, .bracketed ['P']⟩
  rw [← words_eq_tokens]
  decide +kernel

theorem default_flags : FlagsSaid [['P']] { action := .proxy } := by
  apply (blockFlags_eq_ok_iff_of_pieces (.bracketed ['P']) _).mp
  decide +kernel

theorem parse_default : Rule.parse defaultRewrite.toList = .ok rule := by
  have plain : ∀ rest, source ≠ '!' :: rest := by
    intro rest same
    exact absurd (List.cons.inj same).1 (by decide)
  apply parseWith_of_denoted
  exact .intro default_words default_flags (.plain plain) parse?_source
    (fun _ => .inl (by decide))

theorem rules_default : Rule.parseAll [defaultRewrite.toList] = .ok [rule] := by
  rw [Rule.parseAll, List.mapM_cons, parse_default]
  rfl

theorem newline_free (char : Char) :
    (CharSet.single '\n').complement.contains char = true ↔ char ≠ '\n' := by
  have limit : char.toNat ≤ 0x10FFFF := by
    have valid : char.toNat < 0xD800 ∨ 0xDFFF < char.toNat ∧ char.toNat < 0x110000 := char.valid
    omega
  have code : char = '\n' ↔ char.toNat = 10 := by
    rw [← Char.toNat_inj]
    rfl
  have ranges : (CharSet.single '\n').complement = ⟨[⟨0, 9⟩, ⟨11, 0x10FFFF⟩]⟩ := rfl
  rw [ne_eq, code, ranges]
  simp only [CharSet.contains, CharSet.containsCode]
  by_cases low : char.toNat ≤ 9
  · simp [low]
    omega
  · by_cases newline : char.toNat = 10
    · simp [newline]
    · have high : ¬ char.toNat < 11 := by omega
      simp [low, high, limit, newline]

theorem single_contains (letter char : Char) :
    (CharSet.single letter).contains char = true ↔ char = letter := by
  rw [← Char.toNat_inj]
  simp only [CharSet.single, CharSet.range, CharSet.contains, CharSet.containsCode]
  split <;> simp <;> omega

theorem follow_late (fresh : Array Bool) (index : Nat) (before : Char) (after : Option Char) :
    follow steps ⟨index, some before, after⟩ fresh [⟨14, []⟩] = [] := by
  by_cases first : fresh[14]? = some true
  · rw [follow_moves first rfl]
    by_cases second : (fresh.setIfInBounds 14 false)[13]? = some true
    · rw [List.singleton_append, follow_moves second rfl]
      exact follow_nil
    · rw [List.singleton_append, follow_stale second, follow_nil]
  · rw [follow_stale first, follow_nil]

theorem run_dead (index : Nat) (before : Char) (text : List Char) :
    program.run index (some before) none [] text = none := by
  induction text generalizing index before with
  | nil =>
      rw [Program.run_nil, Program.followed, List.nil_append]
      exact congrArg (fun threads => (cutAtAccept steps threads).2) (follow_late _ _ _ _)
  | cons char rest ih =>
      have cut : cutAtAccept steps
          (program.followed ⟨index, some before, some char⟩ []) = ([], none) :=
        congrArg (cutAtAccept steps) (follow_late _ _ _ _)
      rw [Program.run_cons cut]
      exact ih (index + 1) char

def Awaits (state : Nat) (letter : Char) (next : Nat) : Prop :=
  steps[state]? = some (.char (.single letter) next)

theorem followed_awaiting {state next : Nat} {letter : Char} (awaits : Awaits state letter next)
    (index : Nat) (before : Char) (after : Option Char) (saves : Saves) :
    program.followed ⟨index, some before, after⟩ [⟨state, saves⟩] = [⟨state, saves⟩] := by
  have bound : state < 15 := (Array.getElem?_eq_some_iff.mp awaits).1
  have isFresh : (Array.replicate 15 true)[state]? = some true := by
    simp [bound]
  have waits : Thread.moves? steps ⟨index, some before, after⟩ ⟨state, saves⟩ = none := by
    simp only [Thread.moves?, show steps[state]? = _ from awaits]
  rw [Program.followed, List.singleton_append]
  change follow steps _ (Array.replicate 15 true) _ = _
  rw [follow_waits isFresh waits]
  exact congrArg _ (follow_late _ _ _ _)

theorem cut_awaiting {state next : Nat} {letter : Char} (awaits : Awaits state letter next)
    (saves : Saves) : cutAtAccept steps [⟨state, saves⟩] = ([⟨state, saves⟩], none) := by
  simp only [cutAtAccept, show steps[state]? = _ from awaits]

theorem run_awaiting {state next : Nat} {letter : Char} (awaits : Awaits state letter next)
    (index : Nat) (before : Char) (saves : Saves) (text : List Char) :
    program.run index (some before) none [⟨state, saves⟩] text =
      match text with
      | [] => none
      | char :: rest =>
          if char = letter then program.run (index + 1) (some char) none [⟨next, saves⟩] rest
          else none := by
  cases text with
  | nil =>
      rw [Program.run_nil, followed_awaiting awaits]
      exact congrArg Prod.snd (cut_awaiting awaits saves)
  | cons char rest =>
      have cut : cutAtAccept steps
          (program.followed ⟨index, some before, some char⟩ [⟨state, saves⟩]) =
          ([⟨state, saves⟩], none) := by
        rw [followed_awaiting awaits, cut_awaiting awaits]
      rw [Program.run_cons cut]
      change program.run _ _ _ (advance steps _ _) _ = _
      rw [advance_singleton (show steps[(⟨state, saves⟩ : Thread).state]? = _ from awaits)]
      by_cases same : char = letter
      next =>
        rw [if_pos ((single_contains letter char).mpr same)]
        exact (if_pos same).symm
      next =>
        rw [if_neg (mt (single_contains letter char).mp same), run_dead]
        exact (if_neg same).symm

def looped (index : Nat) (saves : Saves) : Saves :=
  (1, index) :: (3, index) :: saves

section
variable {fresh : Array Bool} (isFresh : ∀ state < 6, fresh[state]? = some true)
include isFresh

theorem follow_loop_inside (index : Nat) (before after : Char) (saves : Saves) :
    follow steps ⟨index, some before, some after⟩ fresh [⟨4, saves⟩, ⟨14, []⟩] =
      [⟨5, saves⟩] := by
  rw [follow_moves (isFresh 4 (by decide)) rfl, List.cons_append,
    follow_waits (by simp [isFresh]) rfl, List.singleton_append,
    follow_moves (by simp [isFresh]) rfl, List.singleton_append,
    follow_moves (by simp [isFresh]) (show _ = some [] from rfl), List.nil_append, follow_late]

theorem follow_loop_end (index : Nat) (before : Char) (saves : Saves) :
    follow steps ⟨index, some before, none⟩ fresh [⟨4, saves⟩, ⟨14, []⟩] =
      [⟨5, saves⟩, ⟨0, looped index saves⟩] := by
  rw [follow_moves (isFresh 4 (by decide)) rfl, List.cons_append,
    follow_waits (by simp [isFresh]) rfl, List.singleton_append,
    follow_moves (by simp [isFresh]) rfl, List.singleton_append,
    follow_moves (by simp [isFresh]) (show _ = some [⟨1, (3, index) :: saves⟩] from rfl),
    List.singleton_append, follow_moves (by simp [isFresh]) rfl, List.singleton_append,
    follow_waits (by simp [isFresh]) rfl, follow_late]
  rfl

end

theorem all_fresh (state : Nat) (bound : state < 6) :
    (Array.replicate 15 true)[state]? = some true := by
  rw [Array.getElem?_replicate, if_pos (by omega)]

theorem followed_loop_inside (index : Nat) (before after : Char) (saves : Saves) :
    program.followed ⟨index, some before, some after⟩ [⟨4, saves⟩] = [⟨5, saves⟩] :=
  follow_loop_inside all_fresh index before after saves

theorem followed_loop_end (index : Nat) (before : Char) (saves : Saves) :
    program.followed ⟨index, some before, none⟩ [⟨4, saves⟩] =
      [⟨5, saves⟩, ⟨0, looped index saves⟩] :=
  follow_loop_end all_fresh index before saves

theorem followed_enter (index : Nat) (before : Char) (after : Option Char) (saves : Saves) :
    program.followed ⟨index, some before, after⟩ [⟨6, saves⟩] =
      program.followed ⟨index, some before, after⟩ [⟨4, (2, index) :: saves⟩] := by
  have isFresh : ∀ state < 6,
      ((Array.replicate 15 true).setIfInBounds 6 false)[state]? = some true := by
    intro state bound
    rw [Array.getElem?_setIfInBounds_ne (by omega), all_fresh state bound]
  have entered : program.followed ⟨index, some before, after⟩ [⟨6, saves⟩] =
      follow steps ⟨index, some before, after⟩
        ((Array.replicate 15 true).setIfInBounds 6 false)
        [⟨4, (2, index) :: saves⟩, ⟨14, []⟩] := by
    rw [Program.followed, List.singleton_append]
    exact follow_moves rfl (show _ = some [⟨4, (2, index) :: saves⟩] from rfl)
  rw [entered]
  -- The state that has been left does not belong to the loop, so nothing there is stale.
  cases after with
  | none => rw [follow_loop_end isFresh, followed_loop_end]
  | some after => rw [follow_loop_inside isFresh, followed_loop_inside]

-- The invariant of the loop: its thread alone is left, with what it has saved before.
theorem run_loop (index : Nat) (before : Char) (saves : Saves) (text : List Char) :
    program.run index (some before) none [⟨4, saves⟩] text =
      if '\n' ∈ text then none else some (looped (index + text.length) saves) := by
  induction text generalizing index before with
  | nil =>
      rw [Program.run_nil, followed_loop_end]
      rfl
  | cons char rest ih =>
      have cut : cutAtAccept steps
          (program.followed ⟨index, some before, some char⟩ [⟨4, saves⟩]) =
          ([⟨5, saves⟩], none) := by
        rw [followed_loop_inside]
        rfl
      have step : steps[(⟨5, saves⟩ : Thread).state]? =
          some (.char (CharSet.single '\n').complement 4) := rfl
      rw [Program.run_cons cut]
      change program.run _ _ _ (advance steps _ _) _ = _
      rw [advance_singleton step]
      by_cases newline : char = '\n'
      next =>
        rw [if_neg (by rw [newline_free]; exact not_not_intro newline), newline]
        simpa using run_dead (index + 1) '\n' rest
      next =>
        rw [if_pos ((newline_free char).mpr newline), ih]
        simp [Ne.symm newline, Nat.add_assoc, Nat.add_comm 1]

theorem run_enter (index : Nat) (before : Char) (saves : Saves) (text : List Char) :
    program.run index (some before) none [⟨6, saves⟩] text =
      if '\n' ∈ text then none else
        some (looped (index + text.length) ((2, index) :: saves)) := by
  rw [← run_loop index before]
  exact Program.run_congr (followed_enter index before text.head? saves)

inductive Spells : Nat -> List Char -> Prop
  | done : Spells 6 []
  | letter {state next : Nat} {letter : Char} {letters : List Char}
      (awaits : Awaits state letter next) (behind : Spells next letters) :
      Spells state (letter :: letters)

theorem run_spelled {state : Nat} {letters : List Char} (spells : Spells state letters)
    (index : Nat) (before : Char) (saves : Saves) (text : List Char) :
    program.run index (some before) none [⟨state, saves⟩] text =
      if letters <+: text ∧ '\n' ∉ text.drop letters.length then
        some (looped (index + text.length) ((2, index + letters.length) :: saves))
      else none := by
  induction spells generalizing index before text with
  | done =>
      rw [run_enter]
      by_cases newline : '\n' ∈ text <;> simp [newline]
  | @letter state next letter letters awaits behind ih =>
      rw [run_awaiting awaits]
      cases text with
      | nil => simp
      | cons char rest =>
          by_cases same : char = letter
          next =>
            subst same
            simp only [if_true, ih, List.cons_prefix_cons, true_and, List.length_cons,
              List.drop_succ_cons]
            simp only [Nat.add_assoc, Nat.add_comm 1]
          next =>
            simp [same, Ne.symm same]

def saved (text : List Char) : Saves :=
  looped text.length [(2, mark.length), (0, 0)]

theorem followed_start (after : Option Char) :
    program.followed ⟨0, none, after⟩ [] = [⟨12, [(0, 0)]⟩] := by
  rw [Program.followed, List.nil_append]
  change follow steps _ (Array.replicate 15 true) _ = _
  rw [follow_moves rfl (show _ = some [⟨13, [(0, 0)]⟩] from rfl), List.singleton_append,
    follow_moves rfl (show _ = some [⟨12, [(0, 0)]⟩] from rfl), List.singleton_append,
    follow_waits rfl rfl, follow_nil]

theorem run_program (text : List Char) :
    program.run 0 none none [] text =
      if mark <+: text ∧ '\n' ∉ text.drop mark.length then some (saved text) else none := by
  have slash : Awaits 12 '/' 11 := rfl
  have letters : Spells 11 "REST/".toList :=
    .letter rfl (.letter rfl (.letter rfl (.letter rfl (.letter rfl .done))))
  cases text with
  | nil =>
      rw [Program.run_nil, followed_start]
      rfl
  | cons char rest =>
      have cut : cutAtAccept steps (program.followed ⟨0, none, some char⟩ []) =
          ([⟨12, [(0, 0)]⟩], none) := by
        rw [followed_start]
        rfl
      have split : mark = '/' :: "REST/".toList := rfl
      rw [Program.run_cons cut]
      change program.run _ _ _ (advance steps _ _) _ = _
      rw [advance_singleton (show steps[(⟨12, [(0, 0)]⟩ : Thread).state]? = _ from slash), split]
      simp only [List.cons_prefix_cons]
      by_cases same : char = '/'
      next =>
        rw [if_pos ((single_contains '/' char).mpr same), run_spelled letters, same]
        simp [saved, split, Nat.add_comm 1]
      next =>
        rw [if_neg (mt (single_contains '/' char).mp same), run_dead]
        simp [Ne.symm same]

theorem search_pattern (url : List Char) :
    pattern.search url =
      if mark <+: url ∧ '\n' ∉ url.drop mark.length then
        some (Pattern.groupText url (saved url))
      else none := by
  rw [Pattern.search, show pattern.program = program from rfl, run_program]
  split <;> rfl

theorem expand_rest (groups : Groups) :
    Template.expand "$1".toList (some groups) = (groups 1).getD [] := by
  have reference : Template.expand "$1".toList (some groups) =
      Template.groupText (some groups) ['1'] := rfl
  rw [reference]
  rfl

theorem groupText_rest (url : List Char) :
    Pattern.groupText url (saved url) 1 = some (url.drop mark.length) := by
  have cut : Pattern.groupText url (saved url) 1 =
      some ((url.drop mark.length).take (url.length - mark.length)) := rfl
  rw [cut, List.take_of_length_le (by simp)]

theorem apply?_rule (url : List Char) :
    rule.apply? Pattern.search url =
      if mark <+: url ∧ '\n' ∉ url.drop mark.length then some (origin ++ url) else none := by
  have plain : '$' ∉ origin ++ mark := by decide
  unfold Rule.apply?
  rw [show rule.pattern = pattern from rfl, search_pattern]
  by_cases taken : mark <+: url ∧ '\n' ∉ url.drop mark.length
  next =>
    obtain ⟨rest, rfl⟩ := taken.1
    rw [if_pos taken, if_pos taken]
    have expanded : Template.expand (origin ++ mark ++ "$1".toList)
        (some (Pattern.groupText (mark ++ rest) (saved (mark ++ rest)))) =
        origin ++ mark ++ rest := by
      rw [Template.expand_append plain, expand_rest, groupText_rest, List.drop_left]
      rfl
    rw [← List.append_assoc, ← expanded]
    rfl
  next =>
    rw [if_neg taken, if_neg taken]
    rfl

theorem evaluate_rule (url : List Char) :
    evaluate [rule] url =
      if mark <+: url ∧ '\n' ∉ url.drop mark.length then .proxy (origin ++ url)
      else .unchanged := by
  rw [evaluate, evaluateWith, evaluateFrom, apply?_rule]
  by_cases taken : mark <+: url ∧ '\n' ∉ url.drop mark.length
  next =>
    rw [if_pos taken, if_pos taken]
    rfl
  next =>
    rw [if_neg taken, if_neg taken]
    rfl

/-- The rules that a configuration has unless it says otherwise send a URL on whole if it stands
behind the mark and is of one line from there on. They leave every other URL alone. -/
theorem default_rules_send_marked_lines_on :
    ∃ rules, Rule.parseAll (({} : DevSection).rewrites.map String.toList) = .ok rules ∧
      ∀ url, evaluate rules url =
        if "/REST/".toList <+: url ∧ '\n' ∉ url.drop "/REST/".length then
          .proxy ("http://localhost:8080".toList ++ url)
        else .unchanged := by
  have length : "/REST/".length = mark.length := by decide
  refine ⟨[rule], rules_default, ?_⟩
  intro url
  rw [length]
  exact evaluate_rule url

end Workbench.Backend
