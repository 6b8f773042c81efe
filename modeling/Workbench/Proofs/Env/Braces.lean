import Workbench.Env.Reference
import Workbench.Proofs.Text.Split

set_option autoImplicit false

namespace Workbench.Env

def mark : List Char := [':', '-']

-- What may stand between the braces of a reference, with the name and the default that it gives.
-- The name of a group is none, and a mark in front of everything is part of the name.
inductive Names : List Char → List Char → Option (List Char) → Prop
  | bare {name : List Char} (closed : '\x7d' ∉ name) (notGroup : isGroupName name = false)
      (whole : mark <:+: name → mark <+: name) : Names name name none
  | fallback {name text : List Char} (closed : '\x7d' ∉ name ++ mark ++ text)
      (notGroup : isGroupName name = false) (first : ¬ mark <:+: name) :
      Names (name ++ mark ++ text) name (some text)

-- A group in braces that is given a default.
inductive GroupWithDefault : List Char → List Char → Prop
  | intro {group text : List Char} (closed : '\x7d' ∉ group ++ mark ++ text)
      (digits : isGroupName group = true) (nonempty : group ≠ []) :
      GroupWithDefault (group ++ mark ++ text) text

def braced (body : List Char) : List Char :=
  '$' :: '\x7b' :: body ++ ['\x7d']

theorem eq_nil_of_mark_in_front {name rest : List Char} (begins : mark <+: name ++ mark ++ rest)
    (first : ¬ mark <:+: name) : name = [] := by
  obtain ⟨others, same⟩ := begins
  match name with
  | [] => rfl
  | [head] => simp [mark] at same
  | head :: next :: tail =>
      simp only [mark, List.cons_append, List.nil_append, List.cons.injEq] at same
      obtain ⟨rfl, rfl, _⟩ := same
      exact absurd ⟨[], tail, rfl⟩ first

theorem cutFallback?_eq_none_iff (body : List Char) :
    cutFallback? body = none ↔ ¬ mark <:+: body := by
  fun_induction cutFallback? body with
  | case1 => simp [mark]
  | case2 rest => simp [mark, List.infix_cons_iff]
  | case3 char rest other ih =>
      have front : ¬ mark <+: char :: rest := by
        rintro ⟨tail, same⟩
        exact other tail (List.cons.inj same).1.symm (List.cons.inj same).2.symm
      rw [Option.map_eq_none_iff, ih, List.infix_cons_iff]
      exact (not_congr (or_iff_right front)).symm

theorem cutFallback?_eq_some_iff (body name text : List Char) :
    cutFallback? body = some (name, text) ↔ body = name ++ mark ++ text ∧ ¬ mark <:+: name := by
  fun_induction cutFallback? body generalizing name with
  | case1 => simp [mark]
  | case2 rest =>
      constructor
      · rintro same
        obtain ⟨rfl, rfl⟩ := Prod.mk.inj (Option.some.inj same)
        exact ⟨rfl, by decide⟩
      · rintro ⟨same, first⟩
        have begins : mark <+: name ++ mark ++ text := same ▸ ⟨rest, rfl⟩
        obtain rfl := eq_nil_of_mark_in_front begins first
        simpa [mark] using same
  | case3 char rest other ih =>
      have front : ¬ mark <+: char :: rest := by
        rintro ⟨tail, same⟩
        exact other tail (List.cons.inj same).1.symm (List.cons.inj same).2.symm
      rw [Option.map_eq_some_iff]
      constructor
      · rintro ⟨⟨found, behind⟩, cut, same⟩
        obtain ⟨rfl, rfl⟩ := Prod.mk.inj same
        obtain ⟨rfl, first⟩ := (ih found).mp cut
        refine ⟨rfl, fun inside => ?_⟩
        obtain begins | inside := List.infix_cons_iff.mp inside
        next => exact front (begins.trans ⟨mark ++ behind, by simp⟩)
        next => exact first inside
      · rintro ⟨same, first⟩
        cases name with
        | nil => exact absurd (same ▸ ⟨text, rfl⟩) front
        | cons head tail =>
            obtain ⟨rfl, rfl⟩ := List.cons.inj same
            have free : ¬ mark <:+: tail := fun inside =>
              first (inside.trans (List.suffix_cons char tail).isInfix)
            exact ⟨(tail, text), (ih tail).mpr ⟨rfl, free⟩, rfl⟩

theorem ofBraces_of_whole {name : List Char} (whole : mark <:+: name → mark <+: name) :
    Segment.ofBraces name =
      if isGroupName name = true then .text (braced name) else .variable name none := by
  unfold Segment.ofBraces
  dsimp only
  split
  next first behind text cut =>
    obtain ⟨rfl, free⟩ := (cutFallback?_eq_some_iff _ _ _).mp cut
    have begins := whole ⟨first :: behind, text, rfl⟩
    exact absurd (eq_nil_of_mark_in_front begins free) (List.cons_ne_nil _ _)
  next => rfl

theorem ofBraces_of_fallback {name : List Char} (nonempty : name ≠ []) (first : ¬ mark <:+: name)
    (text : List Char) :
    Segment.ofBraces (name ++ mark ++ text) =
      if isGroupName name = true then .text text else .variable name (some text) := by
  have cut := (cutFallback?_eq_some_iff _ name text).mpr ⟨rfl, first⟩
  obtain ⟨head, tail, rfl⟩ := List.exists_cons_of_ne_nil nonempty
  unfold Segment.ofBraces
  dsimp only
  rw [cut]
  rfl

theorem ne_nil_of_not_isGroupName {name : List Char} (notGroup : isGroupName name = false) :
    name ≠ [] := by
  rintro rfl
  contradiction

theorem Names.ofBraces {body name : List Char} {fallback : Option (List Char)}
    (names : Names body name fallback) : Segment.ofBraces body = .variable name fallback := by
  cases names with
  | bare _ notGroup whole => rw [ofBraces_of_whole whole, notGroup, if_neg Bool.false_ne_true]
  | fallback _ notGroup first =>
      rw [ofBraces_of_fallback (ne_nil_of_not_isGroupName notGroup) first, notGroup,
        if_neg Bool.false_ne_true]

theorem no_mark_of_isGroupName {name : List Char} (digits : isGroupName name = true) :
    ¬ mark <:+: name := by
  intro inside
  have colon := List.all_eq_true.mp digits ':' (inside.subset List.mem_cons_self)
  exact absurd colon (by decide)

theorem Names.closed {body name : List Char} {fallback : Option (List Char)}
    (names : Names body name fallback) : '\x7d' ∉ body := by
  cases names <;> assumption

theorem GroupWithDefault.closed {body text : List Char} (group : GroupWithDefault body text) :
    '\x7d' ∉ body := by
  cases group
  assumption

theorem GroupWithDefault.ofBraces {body text : List Char} (group : GroupWithDefault body text) :
    Segment.ofBraces body = .text text := by
  cases group with
  | intro _ digits nonempty =>
      rw [ofBraces_of_fallback nonempty (no_mark_of_isGroupName digits), if_pos digits]

theorem ofBraces_of_isGroupName {body : List Char} (digits : isGroupName body = true) :
    Segment.ofBraces body = .text (braced body) := by
  rw [ofBraces_of_whole fun inside => absurd inside (no_mark_of_isGroupName digits), if_pos digits]

theorem braces_cases {body : List Char} (closed : '\x7d' ∉ body) :
    (∃ name fallback, Names body name fallback) ∨ isGroupName body = true ∨
      ∃ text, GroupWithDefault body text := by
  cases cut : cutFallback? body with
  | none =>
      cases group : isGroupName body with
      | true => exact .inr (.inl rfl)
      | false =>
          have whole : mark <:+: body → mark <+: body := fun inside =>
            absurd inside ((cutFallback?_eq_none_iff body).mp cut)
          exact .inl ⟨body, none, .bare closed group whole⟩
  | some found =>
      obtain ⟨name, text⟩ := found
      obtain ⟨rfl, first⟩ := (cutFallback?_eq_some_iff _ _ _).mp cut
      cases group : isGroupName name with
      | false => exact .inl ⟨name, some text, .fallback closed group first⟩
      | true =>
          by_cases nameless : name = []
          next =>
            subst nameless
            exact .inl ⟨_, none, .bare closed (by simp [isGroupName, mark]) fun _ => ⟨text, rfl⟩⟩
          next => exact .inr (.inr ⟨text, .intro closed group nameless⟩)

theorem braced_append (body rest : List Char) :
    braced body ++ rest = '$' :: '\x7b' :: (body ++ '\x7d' :: rest) := by
  simp [braced]

theorem braced_append_inj {body other rest after : List Char} (closed : '\x7d' ∉ body)
    (otherClosed : '\x7d' ∉ other) (same : braced body ++ rest = braced other ++ after) :
    body = other ∧ rest = after := by
  rw [braced_append, braced_append] at same
  have cut := (Text.cutAt?_eq_some_iff '\x7d' _ body rest).mpr ⟨rfl, closed⟩
  rw [(List.cons.inj (List.cons.inj same).2).2,
    (Text.cutAt?_eq_some_iff '\x7d' _ other after).mpr ⟨rfl, otherClosed⟩] at cut
  obtain ⟨rfl, rfl⟩ := Prod.mk.inj (Option.some.inj cut)
  exact ⟨rfl, rfl⟩

end Workbench.Env
