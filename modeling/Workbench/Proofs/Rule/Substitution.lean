import Mathlib.Data.List.TakeWhile
import Workbench.Proofs.Rule.Template
import Workbench.Proofs.Text.Letter

set_option autoImplicit false

namespace Workbench.Template

def StartsWithDigit (text : List Char) : Prop := ∃ digit ∈ text.head?, digit.isDigit = true

-- More digits behind the text would belong to its last reference.
def EndsInReference (text : List Char) : Prop :=
  ∃ front digits, text = front ++ '$' :: digits ∧ ∀ digit ∈ digits, digit.isDigit = true

def textAt (groups : Option Groups) (number : Nat) : List Char :=
  match groups with
  | some texts => if number < 2 ^ 64 then (texts number).getD [] else []
  | none => []

def spelled (digits : List Char) : Nat :=
  Nat.ofDigits 10 (digits.reverse.map fun digit => digit.toNat - 48)

structure Substitutes (groups : Option Groups) (result : List Char -> List Char) : Prop where
  append : ∀ left right, ¬ (EndsInReference left ∧ StartsWithDigit right) →
    result (left ++ right) = result left ++ result right
  character : ∀ char, result [char] = [char]
  reference : ∀ digits, digits ≠ [] → (∀ digit ∈ digits, digit.isDigit = true) →
    result ('$' :: digits) = textAt groups (spelled digits)

inductive Piece
  | character (char : Char)
  | reference (digits : List Char)

def Piece.inserted (groups : Option Groups) : Piece -> List Char
  | .character char => [char]
  | .reference digits => textAt groups (spelled digits)

/-- How a text is cut: a dollar sign stands for itself only if no digit is behind it, and a
reference has all digits that are there. -/
inductive CutInto : List Char -> List Piece -> Prop
  | nil : CutInto [] []
  | character (char : Char) {rest : List Char} {pieces : List Piece}
      (plain : char = '$' → ¬ StartsWithDigit rest) (behind : CutInto rest pieces) :
      CutInto (char :: rest) (.character char :: pieces)
  | reference {digits rest : List Char} {pieces : List Piece} (nonempty : digits ≠ [])
      (all : ∀ digit ∈ digits, digit.isDigit = true) (whole : ¬ StartsWithDigit rest)
      (behind : CutInto rest pieces) :
      CutInto ('$' :: digits ++ rest) (.reference digits :: pieces)

theorem not_startsWithDigit_dropWhile (text : List Char) :
    ¬ StartsWithDigit (text.dropWhile Char.isDigit) := by
  rintro ⟨digit, first, isDigit⟩
  have stops := List.head?_dropWhile_not Char.isDigit text
  rw [Option.mem_def.mp first] at stops
  simp [isDigit] at stops

theorem takeWhile_ne_nil {text : List Char} (starts : StartsWithDigit text) :
    text.takeWhile Char.isDigit ≠ [] := by
  obtain ⟨digit, first, isDigit⟩ := starts
  obtain ⟨rest, rfl⟩ := List.head?_eq_some_iff.mp first
  simp [isDigit]

-- By the length of what is left, since a reference takes its digits with it.
theorem exists_cutInto (template : List Char) : ∃ pieces, CutInto template pieces := by
  induction length : template.length using Nat.strongRecOn generalizing template with
  | ind total ih =>
      cases template with
      | nil => exact ⟨_, .nil⟩
      | cons char rest =>
          rw [List.length_cons] at length
          by_cases refers : char = '$' ∧ StartsWithDigit rest
          next =>
            obtain ⟨rfl, starts⟩ := refers
            have shorter := (List.dropWhile_suffix Char.isDigit : _ <:+ rest).length_le
            obtain ⟨pieces, behind⟩ := ih _ (by omega) (rest.dropWhile Char.isDigit) rfl
            have cut := CutInto.reference (takeWhile_ne_nil starts)
              (fun digit inside => List.mem_takeWhile_imp inside)
              (not_startsWithDigit_dropWhile rest) behind
            rw [List.cons_append, List.takeWhile_append_dropWhile] at cut
            exact ⟨_, cut⟩
          next =>
            obtain ⟨pieces, behind⟩ := ih _ (by omega) rest rfl
            exact ⟨_, .character char (fun dollar starts => refers ⟨dollar, starts⟩) behind⟩

theorem endsInReference_cons (char : Char) (rest : List Char) :
    EndsInReference (char :: rest) ↔
      EndsInReference rest ∨ char = '$' ∧ ∀ digit ∈ rest, digit.isDigit = true := by
  constructor
  · rintro ⟨front, digits, same, all⟩
    cases front with
    | nil =>
        obtain ⟨rfl, rfl⟩ := List.cons.inj same
        exact .inr ⟨rfl, all⟩
    | cons first front =>
        obtain ⟨rfl, rfl⟩ := List.cons.inj same
        exact .inl ⟨front, digits, rfl, all⟩
  · rintro (⟨front, digits, rfl, all⟩ | ⟨rfl, all⟩)
    · exact ⟨char :: front, digits, rfl, all⟩
    · exact ⟨[], rest, rfl, all⟩

namespace Substitutes

variable {groups : Option Groups} {result : List Char -> List Char}

theorem nil (substitutes : Substitutes groups result) : result [] = [] := by
  have twice := substitutes.append [] [] (by simp [StartsWithDigit])
  simpa using twice

theorem eq_flatMap (substitutes : Substitutes groups result) {template : List Char}
    {pieces : List Piece} (cut : CutInto template pieces) :
    result template = pieces.flatMap (Piece.inserted groups) := by
  induction cut with
  | nil => exact substitutes.nil
  | @character char rest pieces plain behind ih =>
      have border : ¬ (EndsInReference [char] ∧ StartsWithDigit rest) := by
        rintro ⟨ends, digit⟩
        rw [endsInReference_cons] at ends
        obtain ⟨front, digits, same, _⟩ | ⟨dollar, _⟩ := ends
        · simp at same
        · exact plain dollar digit
      have parts := substitutes.append [char] rest border
      rw [substitutes.character, ih] at parts
      exact parts
  | @reference digits rest pieces nonempty all whole behind ih =>
      have parts := substitutes.append ('$' :: digits) rest fun ends => whole ends.2
      rw [substitutes.reference digits nonempty all, ih] at parts
      exact parts

end Substitutes

def Open (reference : Option (List Char)) (text : List Char) : Prop :=
  EndsInReference text ∨ reference.isSome = true ∧ ∀ digit ∈ text, digit.isDigit = true

theorem expandFrom_some {digits text : List Char} (groups : Option Groups)
    (ended : ¬ StartsWithDigit text) :
    expandFrom groups (some digits) text =
      endReference groups digits.reverse ++ expandFrom groups none text := by
  cases text with
  | nil => simp [expandFrom]
  | cons char rest =>
      have other : char.isDigit = false := by simpa [StartsWithDigit] using ended
      simp [expandFrom, other]

theorem expandFrom_append_of_apart {left right : List Char} (groups : Option Groups)
    (reference : Option (List Char)) (apart : ¬ (Open reference left ∧ StartsWithDigit right)) :
    expandFrom groups reference (left ++ right) =
      expandFrom groups reference left ++ expandFrom groups none right := by
  induction left generalizing reference with
  | nil =>
      cases reference with
      | none => rfl
      | some digits =>
          have ended : ¬ StartsWithDigit right := fun starts =>
            apart ⟨.inr ⟨rfl, List.forall_mem_nil _⟩, starts⟩
          rw [List.nil_append, expandFrom_some groups ended]
          rfl
  | cons char rest ih =>
      have fresh (closed : ¬ (EndsInReference (char :: rest) ∧ StartsWithDigit right)) :
          expandFrom groups none (char :: rest ++ right) =
            expandFrom groups none (char :: rest) ++ expandFrom groups none right := by
        rw [endsInReference_cons] at closed
        simp only [List.cons_append, expandFrom]
        split
        next dollar =>
          apply ih (some [])
          rintro ⟨ends | ⟨_, all⟩, starts⟩
          · exact closed ⟨.inl ends, starts⟩
          · exact closed ⟨.inr ⟨dollar, all⟩, starts⟩
        next =>
          rw [ih none]
          · rfl
          · rintro ⟨ends | ⟨impossible, _⟩, starts⟩
            · exact closed ⟨.inl ends, starts⟩
            · contradiction
      cases reference with
      | none => exact fresh fun both => apart ⟨.inl both.1, both.2⟩
      | some digits =>
          by_cases digit : char.isDigit = true
          next =>
            simp only [List.cons_append, expandFrom, digit, if_true]
            apply ih (some (char :: digits))
            rintro ⟨ends | ⟨_, all⟩, starts⟩
            · exact apart ⟨.inl ((endsInReference_cons char rest).mpr (.inl ends)), starts⟩
            · exact apart ⟨.inr ⟨rfl, List.forall_mem_cons.mpr ⟨digit, all⟩⟩, starts⟩
          next =>
            have ended (text : List Char) : ¬ StartsWithDigit (char :: text) := by
              simpa [StartsWithDigit] using digit
            rw [expandFrom_some groups (ended rest), List.append_assoc,
              ← fresh fun both => apart ⟨.inl both.1, both.2⟩]
            exact expandFrom_some groups (ended (rest ++ right))

theorem expandFrom_digits {digits : List Char} (groups : Option Groups) (read : List Char)
    (all : ∀ digit ∈ digits, digit.isDigit = true) :
    expandFrom groups (some read) digits = endReference groups (read.reverse ++ digits) := by
  induction digits generalizing read with
  | nil => simp [expandFrom]
  | cons digit rest ih =>
      rw [List.forall_mem_cons] at all
      simp only [expandFrom, all.1, if_true]
      rw [ih (digit :: read) all.2, List.reverse_cons, List.append_assoc]
      rfl

theorem groupText_eq_textAt (groups : Option Groups) {digits : List Char}
    (all : ∀ digit ∈ digits, digit.isDigit = true) :
    groupText groups digits = textAt groups (spelled digits) := by
  have limit : groupLimit = 2 ^ 64 := rfl
  rw [groupText, Text.digitsValue_ten all, limit, ← spelled]
  cases groups with
  | none => simp [textAt]
  | some texts => simp [textAt]

theorem substitutes_expand (groups : Option Groups) :
    Substitutes groups fun template => expand template groups where
  append left right apart := by
    apply expandFrom_append_of_apart groups none
    rintro ⟨ends | ⟨impossible, _⟩, starts⟩
    · exact apart ⟨ends, starts⟩
    · contradiction
  character char := by
    by_cases dollar : char = '$' <;> simp [expand, expandFrom, endReference, dollar]
  reference digits nonempty all := by
    have whole : expand ('$' :: digits) groups = endReference groups digits :=
      expandFrom_digits groups [] all
    rw [whole, endReference, if_neg (by simpa using nonempty), groupText_eq_textAt groups all]

/-- Substitution is what the three laws say and nothing else. It takes a template in pieces that
depend on the template alone, and puts what the groups hold in their places as it is. -/
theorem expand_obeys_laws :
    (∀ groups result, Substitutes groups result ↔ result = fun template => expand template groups) ∧
      ∀ template, ∃ pieces, CutInto template pieces ∧
        ∀ groups, expand template groups = pieces.flatMap (Piece.inserted groups) := by
  refine ⟨fun groups result => ⟨fun substitutes => ?_, ?_⟩, fun template => ?_⟩
  · funext template
    obtain ⟨pieces, cut⟩ := exists_cutInto template
    rw [substitutes.eq_flatMap cut, (substitutes_expand groups).eq_flatMap cut]
  · rintro rfl
    exact substitutes_expand groups
  · obtain ⟨pieces, cut⟩ := exists_cutInto template
    exact ⟨pieces, cut, fun groups => (substitutes_expand groups).eq_flatMap cut⟩

example : expand "$$1-$01$x".toList
    (some fun group => if group = 1 then some "$2".toList else none) =
    "$$2-$2$x".toList := by
  decide

end Workbench.Template
