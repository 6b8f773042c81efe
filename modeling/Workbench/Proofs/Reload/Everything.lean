import Workbench.Proofs.Reload.Session

set_option autoImplicit false

namespace Workbench

namespace Glob

def Token.Star : Token → Prop
  | .sequence | .components => True
  | _ => False

theorem exists_judge_eq_firstDecided {token : Token} (star : token.Star) (tokens : List Token)
    (text : List Char) :
    ∃ before, judge (token :: tokens) text = firstDecided (judge tokens) (before ++ [[]]) := by
  cases token with
  | sequence =>
      obtain ⟨before, ends⟩ : ∃ before, suffixes text = before ++ [[]] := by
        induction text with
        | nil => exact ⟨[], rfl⟩
        | cons char rest ih =>
            obtain ⟨before, ends⟩ := ih
            exact ⟨(char :: rest) :: before, by rw [suffixes, ends, List.cons_append]⟩
      exact ⟨before, by rw [judge, ends]⟩
  | components => exact ⟨text :: behindSlashes text, by rw [judge]⟩
  | literal | anyChar | within | except => exact star.elim

theorem firstDecided_judge_nil (before : List (List Char)) :
    firstDecided (judge []) (before ++ [[]]) = .matched := by
  induction before with
  | nil => rfl
  | cons text rest ih =>
      cases text with
      | nil => rfl
      | cons char behind => exact ih

theorem firstDecided_of_forall_matched {judge : List Char → Verdict}
    (all : ∀ text, judge text = .matched) (before : List (List Char)) :
    firstDecided judge (before ++ [[]]) = .matched := by
  cases before with
  | nil => rw [List.nil_append, firstDecided, all]
  | cons text rest => rw [List.cons_append, firstDecided, all]

theorem judge_of_stars {tokens : List Token} (nonempty : tokens ≠ [])
    (stars : ∀ token ∈ tokens, token.Star) (text : List Char) : judge tokens text = .matched := by
  induction tokens generalizing text with
  | nil => exact absurd rfl nonempty
  | cons token rest ih =>
      obtain ⟨before, tried⟩ :=
        exists_judge_eq_firstDecided (stars token List.mem_cons_self) rest text
      rw [tried]
      by_cases last : rest = []
      · rw [last]
        exact firstDecided_judge_nil before
      · have matched := ih last fun other among => stars other (List.mem_cons_of_mem _ among)
        exact firstDecided_of_forall_matched matched before

theorem accepts_of_stars {glob : Glob} (nonempty : glob.tokens ≠ [])
    (stars : ∀ token ∈ glob.tokens, token.Star) (text : List Char) :
    glob.accepts text = true := by
  rw [accepts, judge_of_stars nonempty stars text]
  rfl

end Glob

namespace Watch

theorem any_accepts_iff_under {watch : Watch} {glob : Glob} (among : glob ∈ watch.globs)
    (nonempty : glob.tokens ≠ []) (stars : ∀ token ∈ glob.tokens, token.Star)
    (shown : Path → List Char) (path : Path) :
    (path.relativeTo? watch.directory).any
        (fun relative => watch.globs.any (·.accepts (shown relative))) = true ↔
      watch.directory.components <+: path.components := by
  cases found : path.relativeTo? watch.directory with
  | none =>
      have apart := (Path.relativeTo?_eq_none_iff path watch.directory).mp found
      simp [apart]
  | some relative =>
      have under : watch.directory.components <+: path.components :=
        ⟨relative.components, (Path.components_of_relativeTo? found).symm⟩
      have accepted : watch.globs.any (·.accepts (shown relative)) = true :=
        List.any_eq_true.mpr ⟨glob, among, Glob.accepts_of_stars nonempty stars _⟩
      simp [under, accepted]

theorem covers_eq_any (watch : Watch) (path : Path) :
    watch.covers path = (path.relativeTo? watch.directory).any
      fun relative => watch.globs.any (·.accepts relative.text) := by
  rw [covers]
  cases path.relativeTo? watch.directory <;> rfl

theorem globs_ofPatterns_none (directory : Path) :
    (ofPatterns directory none).globs = [⟨"**/*".toList, [.components, .sequence]⟩] := by
  have parsed : Glob.parse? "**/*".toList = some ⟨"**/*".toList, [.components, .sequence]⟩ := by
    decide +kernel
  simp only [globs, ofPatterns, Option.getD_none, defaultPatterns, List.filterMap_cons, parsed,
    List.filterMap_nil]

/-- Where no patterns are given, a watch is for a path if and only if the names of its directory
are the first ones of the path. That stays so if the rest of the path is no text and is matched
the way it is displayed, however that may be. -/
theorem default_covers_exactly_what_is_under (directory : Path) :
    let watch := ofPatterns directory none
    (∀ path, watch.covers path = true ↔ directory.components <+: path.components) ∧
    (∀ (shown : Path → List Char) (path : Path),
      (path.relativeTo? directory).any
          (fun relative => watch.globs.any (·.accepts (shown relative))) = true ↔
        directory.components <+: path.components) := by
  intro watch
  have among : ⟨"**/*".toList, [.components, .sequence]⟩ ∈ watch.globs := by
    rw [globs_ofPatterns_none]
    exact List.mem_cons_self
  have stars : ∀ token ∈ [Glob.Token.components, .sequence], token.Star := by
    simp [Glob.Token.Star]
  have any_iff := any_accepts_iff_under among (List.cons_ne_nil _ _) stars
  constructor
  · intro path
    rw [covers_eq_any]
    exact any_iff Path.text path
  · exact any_iff

example :
    let watch := ofPatterns (.ofString "/app") none
    watch.covers (.ofString "/app/.git/a\n[b]") = true ∧ watch.covers (.ofString "/app") = true ∧
      watch.covers (.ofString "/application/x") = false := by
  decide +kernel

end Watch

end Workbench
