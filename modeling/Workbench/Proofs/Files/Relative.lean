import Mathlib.Data.List.DropRight
import Workbench.Files.Path
import Workbench.Proofs.Text.Split

set_option autoImplicit false

namespace Workbench.Path

theorem pieces_ne_nil (path : Path) : path.pieces ≠ [] :=
  Text.splitOn_ne_nil '/' path.text

theorem slash_not_mem_piece {path : Path} {piece : List Char} (among : piece ∈ path.pieces) :
    '/' ∉ piece :=
  Text.not_mem_of_mem_splitOn among

theorem dropIgnoredEnd_eq (pieces : List (List Char)) :
    dropIgnoredEnd pieces = pieces.rdropWhile (!counts ·) :=
  rfl

theorem filter_dropWhile (pieces : List (List Char)) :
    (pieces.dropWhile (!counts ·)).filter counts = pieces.filter counts := by
  induction pieces with
  | nil => rfl
  | cons piece rest ih =>
      by_cases counted : counts piece = true
      · simp [counted]
      · simp [counted, ih]

theorem filter_dropIgnoredEnd (pieces : List (List Char)) :
    (dropIgnoredEnd pieces).filter counts = pieces.filter counts := by
  rw [dropIgnoredEnd, List.filter_reverse, filter_dropWhile, ← List.filter_reverse,
    List.reverse_reverse]

theorem filter_dropComponents (count : Nat) (pieces : List (List Char)) :
    (dropComponents count pieces).filter counts = (pieces.filter counts).drop count := by
  induction pieces generalizing count with
  | nil => cases count <;> simp [dropComponents]
  | cons piece rest ih =>
      cases count with
      | zero => simp [dropComponents]
      | succ count => by_cases counted : counts piece = true <;> simp [dropComponents, counted, ih]

theorem dropComponents_subset (count : Nat) (pieces : List (List Char)) :
    dropComponents count pieces ⊆ pieces := by
  induction pieces generalizing count with
  | nil => cases count <;> simp [dropComponents]
  | cons piece rest ih =>
      cases count with
      | zero => simp [dropComponents]
      | succ count =>
          by_cases counted : counts piece = true <;>
            simp only [dropComponents, counted, if_true, Bool.false_eq_true, if_false]
          · exact List.Subset.trans (ih count) (List.subset_cons_self _ _)
          · exact List.Subset.trans (ih (count + 1)) (List.subset_cons_self _ _)

theorem dropIgnoredEnd_subset (pieces : List (List Char)) : dropIgnoredEnd pieces ⊆ pieces :=
  (List.rdropWhile_prefix _ pieces).subset

theorem dropIgnoredEnd_cons {piece : List Char} (counted : counts piece = true)
    (rest : List (List Char)) :
    dropIgnoredEnd (piece :: rest) = piece :: dropIgnoredEnd rest := by
  induction rest using List.reverseRecOn with
  | nil => simp [dropIgnoredEnd, counted]
  | append_singleton rest last ih =>
      rw [dropIgnoredEnd_eq, dropIgnoredEnd_eq] at ih ⊢
      rw [← List.cons_append, List.rdropWhile_concat, List.rdropWhile_concat]
      split
      · exact ih
      · simp

theorem slash_not_head {piece : List Char} (free : '/' ∉ piece) : piece.head? ≠ some '/' := by
  intro first
  exact free (List.mem_of_head? first)

theorem components_joinWith {piece : List Char} {rest : List (List Char)}
    (free : ∀ other ∈ piece :: rest, '/' ∉ other) (counted : counts piece = true) :
    components ⟨Text.joinWith '/' (piece :: rest)⟩ =
      ((piece :: rest).filter counts).map componentOf := by
  have split : pieces ⟨Text.joinWith '/' (piece :: rest)⟩ = piece :: rest :=
    Text.splitOn_joinWith free (List.cons_ne_nil _ _)
  simp only [counts, Bool.and_eq_true, Bool.not_eq_true', List.isEmpty_eq_false_iff,
    decide_eq_true_eq] at counted
  obtain ⟨nonempty, noDot⟩ := counted
  have relative : isAbsolute ⟨Text.joinWith '/' (piece :: rest)⟩ = false := by
    have head : (Text.joinWith '/' (piece :: rest)).head? = piece.head? := by
      cases rest <;> cases piece <;> simp_all [Text.joinWith]
    simpa [isAbsolute, head] using slash_not_head (free piece List.mem_cons_self)
  have counted : counts piece = true := by simp [counts, nonempty, noDot]
  rw [components, split]
  simp [relative, nonempty, noDot, counted]

theorem exists_front (path : Path) :
    ∃ first rest, path.pieces = first :: rest ∧
      (path.text = [] ∧ path.components = [] ∨
        ∃ front, path.components = front :: (rest.filter counts).map componentOf) := by
  obtain ⟨first, rest, split⟩ := List.exists_cons_of_ne_nil path.pieces_ne_nil
  refine ⟨first, rest, split, ?_⟩
  by_cases absolute : path.isAbsolute = true
  · exact .inr ⟨.root, by simp [components, split, absolute]⟩
  · by_cases blank : first = []
    · have text : path.text = Text.joinWith '/' (first :: rest) := by
        rw [← split, pieces, Text.joinWith_splitOn]
      have last : rest = [] := by
        cases rest with
        | nil => rfl
        | cons next others => simp [isAbsolute, text, blank, Text.joinWith] at absolute
      subst blank last
      exact .inl ⟨text, by simp [components, split, absolute]⟩
    · by_cases dot : first = ['.']
      · exact .inr ⟨.current, by simp [components, split, absolute, dot]⟩
      · exact .inr ⟨componentOf first, by simp [components, split, absolute, blank, dot]⟩

theorem components_behind {rest : List (List Char)} (free : ∀ piece ∈ rest, '/' ∉ piece)
    (count : Nat) :
    components ⟨Text.joinWith '/'
        (dropIgnoredEnd ((dropComponents count rest).dropWhile (!counts ·)))⟩ =
      ((rest.filter counts).map componentOf).drop count := by
  have filtered : (dropIgnoredEnd ((dropComponents count rest).dropWhile (!counts ·))).filter
      counts = (rest.filter counts).drop count := by
    rw [filter_dropIgnoredEnd, filter_dropWhile, filter_dropComponents]
  have subset : dropIgnoredEnd ((dropComponents count rest).dropWhile (!counts ·)) ⊆ rest :=
    List.Subset.trans (dropIgnoredEnd_subset _)
      (List.Subset.trans (List.dropWhile_sublist _).subset (dropComponents_subset count rest))
  rw [← List.map_drop, ← filtered]
  cases behind : (dropComponents count rest).dropWhile (!counts ·) with
  | nil => rfl
  | cons piece others =>
      have counted : counts piece = true := by
        have head := List.head?_dropWhile_not (!counts ·) (dropComponents count rest)
        simpa [behind] using head
      rw [behind, dropIgnoredEnd_cons counted] at subset
      rw [dropIgnoredEnd_cons counted]
      exact components_joinWith (fun other among => free other (subset among)) counted

theorem components_trimmed {path : Path} {first : List Char} {rest : List (List Char)}
    (split : path.pieces = first :: rest) :
    components (if (dropIgnoredEnd rest).isEmpty && path.isAbsolute then ⟨['/']⟩
      else ⟨Text.joinWith '/' (first :: dropIgnoredEnd rest)⟩) = path.components := by
  have text : path.text = Text.joinWith '/' (first :: rest) := by
    rw [← split, pieces, Text.joinWith_splitOn]
  have filtered := filter_dropIgnoredEnd rest
  split
  next trimmed =>
    simp only [Bool.and_eq_true, List.isEmpty_iff] at trimmed
    rw [trimmed.1] at filtered
    have root : components ⟨['/']⟩ = [.root] := by decide
    have alone : path.components = [.root] := by
      simp [components, split, trimmed.2, ← filtered]
    rw [root, alone]
  next kept =>
    have free : ∀ piece ∈ first :: dropIgnoredEnd rest, '/' ∉ piece := by
      intro piece among
      have inside : piece ∈ path.pieces := by
        rw [split]
        exact List.cons_subset_cons _ (dropIgnoredEnd_subset rest) among
      exact slash_not_mem_piece inside
    have split' : pieces ⟨Text.joinWith '/' (first :: dropIgnoredEnd rest)⟩ =
        first :: dropIgnoredEnd rest := Text.splitOn_joinWith free (List.cons_ne_nil _ _)
    have absolute : isAbsolute ⟨Text.joinWith '/' (first :: dropIgnoredEnd rest)⟩ =
        path.isAbsolute := by
      unfold isAbsolute at kept ⊢
      rw [text] at kept ⊢
      cases first with
      | cons char chars => cases rest <;> cases dropIgnoredEnd _ <;> simp [Text.joinWith]
      | nil =>
          cases rest with
          | nil => simp [Text.joinWith, dropIgnoredEnd]
          | cons next others =>
              cases trimmed : dropIgnoredEnd (next :: others) with
              | nil => simp [trimmed, Text.joinWith] at kept
              | cons _ _ => simp [Text.joinWith]
    simp only [components, split', split, absolute, filtered]

theorem relativeTo?_eq_none_iff (path base : Path) :
    path.relativeTo? base = none ↔ ¬ base.components <+: path.components := by
  rw [← List.isPrefixOf_iff_prefix, relativeTo?]
  split
  next under =>
    simp only [under, not_true_eq_false, iff_false]
    split
    · split <;> simp
    · simp
    · simp
  next apart => simp [apart]

theorem components_of_relativeTo? {path base relative : Path}
    (found : path.relativeTo? base = some relative) :
    path.components = base.components ++ relative.components := by
  have under : base.components <+: path.components := by
    by_contra apart
    rw [(relativeTo?_eq_none_iff path base).mpr apart] at found
    contradiction
  obtain ⟨behind, whole⟩ := under
  suffices relative.components = behind by rw [this, whole]
  rw [relativeTo?, if_pos (List.isPrefixOf_iff_prefix.mpr ⟨behind, whole⟩)] at found
  obtain ⟨first, rest, split, front⟩ := path.exists_front
  rw [split] at found
  cases length : base.components.length with
  | zero =>
      rw [length] at found
      rw [List.length_eq_zero_iff.mp length, List.nil_append] at whole
      dsimp only at found
      rw [← apply_ite some, Option.some.injEq] at found
      rw [whole, ← found, components_trimmed split]
  | succ count =>
      rw [length] at found
      obtain rfl := Option.some.inj found
      obtain ⟨_, nameless⟩ | ⟨front, components⟩ := front
      · have lengths := congrArg List.length whole
        rw [nameless, List.length_append, length] at lengths
        simp at lengths
      · have free : ∀ piece ∈ rest, '/' ∉ piece := by
          intro piece among
          exact slash_not_mem_piece (split ▸ List.mem_cons_of_mem first among)
        have left : (base.components ++ behind).drop base.components.length = behind :=
          List.drop_left
        rw [components_behind free, ← left, whole, components, length, List.drop_succ_cons]

end Workbench.Path
