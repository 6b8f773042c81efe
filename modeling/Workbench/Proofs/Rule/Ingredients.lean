import Workbench.Proofs.Rule.Proxy
import Workbench.Proofs.Rule.Substitution

set_option autoImplicit false

namespace Workbench

namespace Template

theorem mem_of_cutInto {template : List Char} {pieces : List Piece} (cut : CutInto template pieces)
    {char : Char} (among : .character char ∈ pieces) : char ∈ template := by
  induction cut with
  | nil => contradiction
  | character first plain behind ih =>
      rcases List.mem_cons.mp among with same | later
      next => exact Piece.character.inj same ▸ List.mem_cons_self
      next => exact List.mem_cons_of_mem _ (ih later)
  | reference nonempty all whole behind ih =>
      rcases List.mem_cons.mp among with same | later
      next => contradiction
      next => exact List.mem_append_right _ (ih later)

theorem mem_textAt {groups : Option Groups} {number : Nat} {char : Char}
    (mem : char ∈ textAt groups number) :
    ∃ texts text, groups = some texts ∧ texts number = some text ∧ char ∈ text := by
  cases groups with
  | none => contradiction
  | some texts =>
      rw [textAt] at mem
      split at mem
      next =>
        cases found : texts number with
        | none =>
            rw [found] at mem
            contradiction
        | some text =>
            rw [found] at mem
            exact ⟨texts, text, rfl, found, mem⟩
      next => contradiction

theorem mem_expand {template : List Char} {groups : Option Groups} {char : Char}
    (mem : char ∈ expand template groups) :
    char ∈ template ∨
      ∃ texts number text, groups = some texts ∧ texts number = some text ∧ char ∈ text := by
  obtain ⟨pieces, cut⟩ := exists_cutInto template
  rw [(substitutes_expand groups).eq_flatMap cut] at mem
  obtain ⟨piece, among, inserted⟩ := List.mem_flatMap.mp mem
  cases piece with
  | character own =>
      rw [Piece.inserted, List.mem_singleton] at inserted
      exact .inl (mem_of_cutInto cut (inserted ▸ among))
  | reference digits =>
      obtain ⟨texts, text, captured, found, inside⟩ := mem_textAt inserted
      exact .inr ⟨texts, _, text, captured, found, inside⟩

end Template

theorem Pattern.mem_of_search {pattern : Pattern} {url text : List Char} {groups : Groups}
    {number : Nat} (found : pattern.search url = some groups) (group : groups number = some text)
    {char : Char} (mem : char ∈ text) : char ∈ url := by
  rw [search, Option.map_eq_some_iff] at found
  obtain ⟨saves, _, rfl⟩ := found
  simp only [groupText, Option.bind_eq_bind, Option.bind_eq_some_iff, Option.pure_def,
    Option.some.injEq] at group
  obtain ⟨first, _, last, _, rfl⟩ := group
  exact List.mem_of_mem_drop (List.mem_of_mem_take mem)

-- Is a character written in the replacement of one of the rules?
def Writes (rules : List (Rule Pattern)) (char : Char) : Prop :=
  ∃ rule ∈ rules, ∃ replacement, rule.replacement = some replacement ∧ char ∈ replacement

theorem Writes.mono {rules others : List (Rule Pattern)} {char : Char}
    (written : Writes rules char) (subset : rules ⊆ others) : Writes others char := by
  obtain ⟨rule, among, replacement, own, mem⟩ := written
  exact ⟨rule, subset among, replacement, own, mem⟩

theorem mem_target {rule : Rule Pattern} {url : List Char} {char : Char}
    (mem : char ∈ rule.target Pattern.search url) : char ∈ url ∨ Writes [rule] char := by
  rw [Rule.target] at mem
  split at mem
  next template own =>
    rcases Template.mem_expand mem with written | ⟨groups, number, text, found, group, inside⟩
    next => exact .inr ⟨rule, List.mem_cons_self, template, own, written⟩
    next => exact .inl (Pattern.mem_of_search found group inside)
  next => exact .inl mem

theorem mem_urlBehind {rules : List (Rule Pattern)} {url : List Char} {char : Char}
    (mem : char ∈ urlBehind Pattern.search url rules) : char ∈ url ∨ Writes rules char := by
  induction rules generalizing url with
  | nil => exact .inl mem
  | cons rule rest ih =>
      rcases ih mem with handed | later
      next =>
        rw [Rule.handOn] at handed
        split at handed
        next =>
          exact (mem_target handed).imp_right fun written =>
            written.mono (List.cons_subset_cons rule (List.nil_subset rest))
        next => exact .inl handed
      next => exact .inr (later.mono (List.subset_cons_self rule rest))

theorem mem_location {rules : List (Rule Pattern)} {url location : List Char} {status : Nat}
    (redirected : evaluate rules url = .redirect location status) {char : Char}
    (mem : char ∈ location) : char ∈ url ∨ Writes rules char := by
  obtain ⟨before, rule, after, rfl, answer⟩ :=
    rule_of_answer Pattern.search redirected (by simp) (by simp)
  obtain ⟨_, rfl⟩ := (Action.outcome?_eq_some_redirect_iff _ _ _ _).mp answer
  rcases mem_target mem with handed | written
  next =>
    exact (mem_urlBehind handed).imp_right fun written =>
      written.mono (List.subset_append_left before _)
  next =>
    refine .inr (written.mono (List.cons_subset.mpr ⟨?_, List.nil_subset _⟩))
    exact List.mem_append_right before List.mem_cons_self

theorem action_of_parse {text : List Char} {rule : Rule Pattern}
    (parsed : Rule.parse text = .ok rule) :
    rule.action = .rewrite ∨ ∃ item, RuleFlag.Spells item (.action rule.action) := by
  rw [Rule.parse, parseWith_eq_ok_iff] at parsed
  cases parsed with
  | intro words said sourced compiles proxied =>
      rcases said.action with ⟨rewrite, _⟩ | ⟨_, item, _, _, spells, _⟩
      next => exact .inl rewrite
      next => exact .inr ⟨item, spells⟩

section
variable {texts : List (List Char)} {rules : List (Rule Pattern)}
  (accepted : Rule.parseAll texts = .ok rules) {url : List Char}
include accepted

theorem action_of_answer {outcome : Outcome} (answered : evaluate rules url = outcome)
    (kept : outcome ≠ .unchanged) (whole : ∀ other, outcome ≠ .rewritten other) :
    ∃ item action target, RuleFlag.Spells item (.action action) ∧
      action.outcome? target = some outcome := by
  obtain ⟨before, rule, after, rfl, answer⟩ := rule_of_answer Pattern.search answered kept whole
  have among : rule ∈ before ++ rule :: after := List.mem_append_right before List.mem_cons_self
  obtain ⟨text, _, parsed⟩ := parsed_of_mem_parseAll accepted among
  rcases action_of_parse parsed with rewrite | ⟨item, spells⟩
  next =>
    rw [rewrite] at answer
    contradiction
  next => exact ⟨item, _, _, spells, answer⟩

theorem bounds_of_redirect {location : List Char} {status : Nat}
    (redirected : evaluate rules url = .redirect location status) :
    300 ≤ status ∧ status ≤ 399 := by
  obtain ⟨item, action, target, spells, answer⟩ :=
    action_of_answer accepted redirected (by simp) (by simp)
  obtain ⟨rfl, _⟩ := (Action.outcome?_eq_some_redirect_iff _ _ _ _).mp answer
  cases spells with
  | redirect => decide
  | redirectTo valid =>
      obtain ⟨_, _, _, _, _, bounds⟩ := valid
      exact bounds

theorem code_of_status {code : Nat} (refused : evaluate rules url = .status code) :
    code = 403 ∨ code = 410 := by
  obtain ⟨item, action, target, spells, answer⟩ :=
    action_of_answer accepted refused (by simp) (by simp)
  obtain rfl := (Action.outcome?_eq_some_status_iff _ _ _).mp answer
  cases spells with
  | forbidden => exact .inl rfl
  | gone => exact .inr rfl

end

end Workbench
