import Workbench.Text.Blank
import Mathlib.Data.List.Basic

set_option autoImplicit false

namespace Workbench

section
variable {α : Type} {first : α} {rest : List α} {holds : List α -> α -> List α -> Prop}

theorem exists_cut_cons :
    (∃ before item after, first :: rest = before ++ item :: after ∧ holds before item after) ↔
      holds [] first rest ∨
        ∃ before item after, rest = before ++ item :: after ∧
          holds (first :: before) item after := by
  constructor
  · rintro ⟨before, item, after, split, holdsThere⟩
    cases before with
    | nil =>
        obtain ⟨rfl, rfl⟩ := List.cons.inj split
        exact .inl holdsThere
    | cons head before =>
        obtain ⟨rfl, rfl⟩ := List.cons.inj split
        exact .inr ⟨before, item, after, rfl, holdsThere⟩
  · rintro (here | ⟨before, item, after, rfl, behind⟩)
    · exact ⟨[], first, rest, rfl, here⟩
    · exact ⟨first :: before, item, after, rfl, behind⟩

theorem forall_cut_cons :
    (∀ before item after, first :: rest = before ++ item :: after → holds before item after) ↔
      holds [] first rest ∧
        ∀ before item after, rest = before ++ item :: after →
          holds (first :: before) item after := by
  constructor
  · intro all
    refine ⟨all [] first rest rfl, ?_⟩
    rintro before item after rfl
    exact all (first :: before) item after rfl
  · rintro ⟨here, behind⟩ before item after split
    cases before with
    | nil =>
        obtain ⟨rfl, rfl⟩ := List.cons.inj split
        exact here
    | cons head before =>
        obtain ⟨rfl, tails⟩ := List.cons.inj split
        exact behind before item after tails

end

namespace Text

theorem wordsFrom_eq_filter (word text : List Char) :
    wordsFrom word text = (text.splitOnPPrepend isBlank word).filter (!·.isEmpty) := by
  induction text generalizing word with
  | nil => cases word <;> simp [wordsFrom]
  | cons char rest ih =>
      by_cases blank : isBlank char = true
      · rw [List.splitOnPPrepend_cons_pos blank]
        cases word <;> simp [wordsFrom, blank, ih]
      · rw [List.splitOnPPrepend_cons_neg (by simpa using blank)]
        simp [wordsFrom, blank, ih]

theorem words_eq_filter (text : List Char) :
    words text = (text.splitOnP isBlank).filter (!·.isEmpty) :=
  wordsFrom_eq_filter [] text

theorem wordsFrom_eq_nil_iff (word text : List Char) :
    wordsFrom word text = [] ↔ word = [] ∧ ∀ char ∈ text, isBlank char = true := by
  induction text generalizing word with
  | nil => simp [wordsFrom]
  | cons char rest ih =>
      by_cases blank : isBlank char = true <;> cases word <;> simp [wordsFrom, blank, ih]

theorem words_eq_nil_iff (text : List Char) :
    words text = [] ↔ ∀ char ∈ text, isBlank char = true :=
  (wordsFrom_eq_nil_iff [] text).trans (and_iff_right rfl)

theorem no_blank_of_mem_wordsFrom {word text piece : List Char}
    (free : ∀ char ∈ word, isBlank char = false) (among : piece ∈ wordsFrom word text) :
    ∀ char ∈ piece, isBlank char = false := by
  induction text generalizing word with
  | nil =>
      cases word with
      | nil => simp [wordsFrom] at among
      | cons last before =>
          simp only [wordsFrom, List.isEmpty_cons, Bool.false_eq_true, if_false,
            List.mem_singleton] at among
          intro char mem
          rw [among, List.mem_reverse] at mem
          exact free char mem
  | cons char rest ih =>
      rw [wordsFrom] at among
      by_cases blank : isBlank char = true
      next =>
        rw [if_pos blank] at among
        split at among
        next => exact ih (by simp) among
        next =>
          obtain rfl | behind := List.mem_cons.mp among
          next => simpa using free
          next => exact ih (by simp) behind
      next =>
        rw [if_neg blank] at among
        refine ih ?_ among
        rw [List.forall_mem_cons]
        exact ⟨by simpa using blank, free⟩

theorem no_blank_of_mem_words {text piece : List Char} (among : piece ∈ words text) :
    ∀ char ∈ piece, isBlank char = false :=
  no_blank_of_mem_wordsFrom (by simp) among

theorem splitOn_eq (mark : Char) (text : List Char) : splitOn mark text = text.splitOn mark := by
  induction text with
  | nil => rfl
  | cons char rest ih =>
      rw [List.splitOn_cons_eq_if_modifyHead, ← ih]
      by_cases same : char = mark
      · simp [splitOn, same]
      · cases pieces : splitOn mark rest <;> simp [splitOn, same, pieces]
        have nonempty := List.splitOn_ne_nil mark rest
        rw [← ih, pieces] at nonempty
        contradiction

theorem joinWith_cons_cons (mark : Char) (piece next : List Char) (rest : List (List Char)) :
    joinWith mark (piece :: next :: rest) = piece ++ mark :: joinWith mark (next :: rest) :=
  rfl

theorem joinWith_eq_intercalate (mark : Char) (pieces : List (List Char)) :
    joinWith mark pieces = [mark].intercalate pieces := by
  induction pieces with
  | nil => rfl
  | cons piece rest ih =>
      cases rest with
      | nil => simp [joinWith]
      | cons next others => simp [joinWith, ih]

def markedBy (mark : Char) (part : Option (List Char)) : List Char :=
  match part with
  | some part => mark :: part
  | none => []

theorem markedBy_inj {mark : Char} {first second : Option (List Char)}
    (same : markedBy mark first = markedBy mark second) : first = second := by
  cases first <;> cases second <;> simp_all [markedBy]

section
variable {α : Type} {keep : α -> Bool} {first rest : List α}
  (kept : ∀ item ∈ first, keep item = true) (stops : ∀ item ∈ rest.head?, keep item = false)
include kept stops

theorem takeWhile_append_of_stops : (first ++ rest).takeWhile keep = first := by
  rw [List.takeWhile_append_of_pos kept]
  cases rest with
  | nil => simp
  | cons item others => simp [stops item rfl]

theorem dropWhile_append_of_stops : (first ++ rest).dropWhile keep = rest := by
  rw [List.dropWhile_append_of_pos kept]
  cases rest with
  | nil => rfl
  | cons item others => simp [stops item rfl]

end

theorem head?_dropWhile {α : Type} {keep : α -> Bool} {items : List α} {item : α}
    (head : item ∈ (items.dropWhile keep).head?) : keep item = false := by
  have stops := List.head?_dropWhile_not keep items
  rw [head] at stops
  exact stops

theorem splitOn_ne_nil (mark : Char) (text : List Char) : splitOn mark text ≠ [] := by
  rw [splitOn_eq]
  exact List.splitOn_ne_nil mark text

theorem joinWith_splitOn (mark : Char) (text : List Char) :
    joinWith mark (splitOn mark text) = text := by
  rw [joinWith_eq_intercalate, splitOn_eq, List.intercalate_splitOn]

theorem splitOn_joinWith {mark : Char} {pieces : List (List Char)}
    (free : ∀ piece ∈ pieces, mark ∉ piece) (nonempty : pieces ≠ []) :
    splitOn mark (joinWith mark pieces) = pieces := by
  rw [joinWith_eq_intercalate, splitOn_eq, List.splitOn_intercalate mark free nonempty]

theorem joinWith_concat (mark : Char) {pieces : List (List Char)} (nonempty : pieces ≠ [])
    (last : List Char) :
    joinWith mark (pieces ++ [last]) = joinWith mark pieces ++ mark :: last := by
  induction pieces with
  | nil => contradiction
  | cons piece rest ih =>
      cases rest with
      | nil => rfl
      | cons next others =>
          have behind := ih (List.cons_ne_nil _ _)
          simp only [List.cons_append, joinWith_cons_cons, List.append_assoc] at behind ⊢
          rw [behind]

theorem joinWith_sublist (mark : Char) {part whole : List (List Char)}
    (sublist : part.Sublist whole) : (joinWith mark part).Sublist (joinWith mark whole) := by
  induction sublist with
  | slnil => exact List.Sublist.refl _
  | @cons part whole piece _ ih =>
      cases whole with
      | nil => exact ih.trans (List.nil_sublist _)
      | cons next others =>
          rw [joinWith_cons_cons]
          exact ih.trans ((List.sublist_cons_self _ _).trans (List.sublist_append_right _ _))
  | @cons_cons part whole piece sublist ih =>
      cases part with
      | nil =>
          cases whole with
          | nil => exact List.Sublist.refl _
          | cons next others => exact List.sublist_append_left _ _
      | cons first behind =>
          cases whole with
          | nil => cases sublist
          | cons next others =>
              rw [joinWith_cons_cons, joinWith_cons_cons]
              exact (List.Sublist.refl piece).append (ih.cons_cons mark)

theorem mem_joinWith {mark char : Char} {pieces : List (List Char)}
    (mem : char ∈ joinWith mark pieces) : char = mark ∨ ∃ piece ∈ pieces, char ∈ piece := by
  induction pieces with
  | nil => simp [joinWith] at mem
  | cons piece rest ih =>
      cases rest with
      | nil => exact .inr ⟨piece, List.mem_cons_self, mem⟩
      | cons next others =>
          rw [joinWith_cons_cons, List.mem_append, List.mem_cons] at mem
          obtain here | same | behind := mem
          next => exact .inr ⟨piece, List.mem_cons_self, here⟩
          next => exact .inl same
          next =>
            obtain same | ⟨other, among, holds⟩ := ih behind
            next => exact .inl same
            next => exact .inr ⟨other, List.mem_cons_of_mem _ among, holds⟩

theorem mem_joinWith_of_mem (mark : Char) {char : Char} {piece : List Char}
    {pieces : List (List Char)} (among : piece ∈ pieces) (mem : char ∈ piece) :
    char ∈ joinWith mark pieces := by
  induction pieces with
  | nil => contradiction
  | cons first rest ih =>
      cases rest with
      | nil =>
          rw [List.mem_singleton] at among
          exact among ▸ mem
      | cons next others =>
          rw [joinWith_cons_cons, List.mem_append, List.mem_cons]
          obtain rfl | behind := List.mem_cons.mp among
          next => exact .inl mem
          next => exact .inr (.inr (ih behind))

theorem mem_of_mem_splitOn {mark char : Char} {text piece : List Char}
    (among : piece ∈ splitOn mark text) (mem : char ∈ piece) : char ∈ text := by
  rw [← joinWith_splitOn mark text]
  exact mem_joinWith_of_mem mark among mem

theorem not_mem_of_mem_splitOn {mark : Char} {text piece : List Char}
    (among : piece ∈ splitOn mark text) : mark ∉ piece := by
  induction text generalizing piece with
  | nil =>
      rw [splitOn, List.mem_singleton] at among
      simp [among]
  | cons char rest ih =>
      rw [splitOn] at among
      by_cases same : char = mark
      next =>
        rw [if_pos same, List.mem_cons] at among
        obtain rfl | behind := among
        next => exact List.not_mem_nil
        next => exact ih behind
      next =>
        rw [if_neg same] at among
        cases pieces : splitOn mark rest with
        | nil => exact absurd pieces (splitOn_ne_nil mark rest)
        | cons first others =>
            rw [pieces] at ih among
            obtain rfl | behind := List.mem_cons.mp among
            next =>
              rw [List.mem_cons, not_or]
              exact ⟨Ne.symm same, ih List.mem_cons_self⟩
            next => exact ih (List.mem_cons_of_mem _ behind)

theorem resume_cut (mark : Char) (before after : List Char) :
    resume (before ++ mark :: after) after = after := by
  have text : before ++ mark :: after = (before ++ [mark]) ++ after := by simp
  rw [resume, text, List.length_append, Nat.add_sub_cancel, List.drop_left]

theorem cutAt?_eq_none_iff (mark : Char) (text : List Char) :
    cutAt? mark text = none ↔ mark ∉ text := by
  induction text with
  | nil => simp [cutAt?]
  | cons char rest ih =>
      by_cases same : char = mark
      · simp [cutAt?, same]
      · simp [cutAt?, same, ih, Ne.symm same]

theorem cutAt?_eq_some_iff (mark : Char) (text before after : List Char) :
    cutAt? mark text = some (before, after) ↔ text = before ++ mark :: after ∧ mark ∉ before := by
  induction text generalizing before with
  | nil => simp [cutAt?]
  | cons char rest ih =>
      by_cases same : char = mark
      · subst same
        cases before with
        | nil => simp [cutAt?, eq_comm]
        | cons head tail =>
            simp only [cutAt?, if_true, Option.some.injEq, Prod.mk.injEq, List.nil_eq,
              reduceCtorEq, false_and, List.cons_append, List.cons.injEq, List.mem_cons, not_or,
              false_iff]
            rintro ⟨⟨rfl, _⟩, different, _⟩
            exact different rfl
      · cases before with
        | nil => simp [cutAt?, same]
        | cons head tail =>
            have step := ih tail
            simp only [cutAt?, same, if_false, Option.map_eq_some_iff, Prod.exists, Prod.mk.injEq,
              List.cons.injEq, List.cons_append, List.mem_cons, not_or]
            constructor
            · rintro ⟨found, behind, cut, ⟨rfl, rfl⟩, rfl⟩
              obtain ⟨rfl, free⟩ := step.mp cut
              exact ⟨⟨rfl, rfl⟩, Ne.symm same, free⟩
            · rintro ⟨⟨rfl, rfl⟩, _, free⟩
              exact ⟨tail, after, step.mpr ⟨rfl, free⟩, ⟨rfl, rfl⟩, rfl⟩

end Text

end Workbench
