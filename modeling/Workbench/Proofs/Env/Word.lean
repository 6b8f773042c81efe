import Workbench.Proofs.Env.Reading

set_option autoImplicit false

namespace Workbench.Env

inductive Letter
  | copied (char : Char)
  | inserted (name : List Char)

def Segment.letters : Segment → List Letter
  | .text copied => copied.map .copied
  | .variable name _ => [.inserted name]

def letters (parts : List Segment) : List Letter :=
  parts.flatMap Segment.letters

theorem letters_text_cons (text : List Char) (parts : List Segment) :
    letters (.text text :: parts) = text.map .copied ++ letters parts := rfl

theorem letters_variable_cons (name : List Char) (fallback : Option (List Char))
    (parts : List Segment) :
    letters (.variable name fallback :: parts) = .inserted name :: letters parts := rfl

def fill (values : List Char → List Char) : List Letter → List Char
  | [] => []
  | .copied char :: rest => char :: fill values rest
  | .inserted name :: rest => values name ++ fill values rest

theorem exists_other (char : Char) : ∃ other, other ≠ char :=
  if same : char = 'x' then ⟨'y', same ▸ by decide⟩ else ⟨'x', Ne.symm same⟩

theorem eq_of_fill_eq {word other : List Letter}
    (same : ∀ values, fill values word = fill values other) : word = other := by
  induction word generalizing other with
  | nil =>
      match other with
      | [] => rfl
      | .copied char :: rest => exact absurd (same fun _ => []) (by simp [fill])
      | .inserted name :: rest => exact absurd (same fun _ => ['x']) (by simp [fill])
  | cons letter rest ih =>
      match letter, other with
      | .copied char, [] => exact absurd (same fun _ => []) (by simp [fill])
      | .inserted name, [] => exact absurd (same fun _ => ['x']) (by simp [fill])
      | .copied char, .copied char' :: rest' =>
          have heads := (List.cons.inj (same fun _ => [])).1
          have behind := ih fun values => (List.cons.inj (same values)).2
          rw [heads, behind]
      | .inserted name, .inserted name' :: rest' =>
          by_cases heads : name = name'
          next =>
            subst heads
            rw [ih fun values => List.append_cancel_left (same values)]
          next =>
            have differs := same fun text => if text = name then ['x'] else ['y']
            simp [fill, Ne.symm heads] at differs
      | .copied char, .inserted name :: rest' =>
          obtain ⟨other, differs⟩ := exists_other char
          exact absurd (List.cons.inj (same fun _ => [other])).1.symm differs
      | .inserted name, .copied char :: rest' =>
          obtain ⟨other, differs⟩ := exists_other char
          exact absurd (List.cons.inj (same fun _ => [other])).1 differs

theorem fill_append (values : List Char → List Char) (word other : List Letter) :
    fill values (word ++ other) = fill values word ++ fill values other := by
  induction word with
  | nil => rfl
  | cons letter rest ih => cases letter <;> simp [fill, ih]

theorem fill_map_copied (values : List Char → List Char) (text : List Char) :
    fill values (text.map .copied) = text := by
  induction text with
  | nil => rfl
  | cons char rest ih => rw [List.map_cons, fill, ih]

-- No reference begins in a text, when the rest is behind it.
def Plain (text rest : List Char) : Prop :=
  ∀ start, start <:+ text → start ≠ [] → ¬ Refers (start ++ rest)

theorem suffix_or_across {short front back : List Char} (within : short <:+ front ++ back) :
    short <:+ back ∨ ∃ start, start ≠ [] ∧ start <:+ front ∧ short = start ++ back := by
  obtain ⟨before, same⟩ := within
  obtain ⟨start, rfl, rfl⟩ | ⟨between, rfl, rfl⟩ := List.append_eq_append_iff.mp same
  next =>
    match start with
    | [] => exact .inl List.suffix_rfl
    | char :: others => exact .inr ⟨_, List.cons_ne_nil _ _, List.suffix_append _ _, rfl⟩
  next => exact .inl (List.suffix_append _ _)

theorem Plain.append {first second rest : List Char} (plain : Plain first (second ++ rest))
    (plainSecond : Plain second rest) : Plain (first ++ second) rest := by
  intro start within nonempty
  obtain inRest | ⟨begun, crosses, across, rfl⟩ := suffix_or_across within
  next => exact plainSecond start inRest nonempty
  next =>
    rw [List.append_assoc]
    exact plain begun across crosses

theorem Plain.cons {char : Char} {text rest : List Char} (first : ¬ Refers (char :: (text ++ rest)))
    (plain : Plain text rest) : Plain (char :: text) rest := by
  intro start within nonempty
  obtain rfl | inRest := List.suffix_cons_iff.mp within
  next => exact first
  next => exact plain start inRest nonempty

section Reads

variable {value : List Char} {parts : List Segment} {word : List Letter}

theorem Reads.of_copied {char : Char} (reads : Reads value parts)
    (same : letters parts = .copied char :: word) :
    ∃ rest others, value = char :: rest ∧ ¬ Refers value ∧ Reads rest others ∧
      letters others = word := by
  cases reads with
  | done => contradiction
  | reference names more =>
      rw [letters_variable_cons] at same
      exact absurd (List.cons.inj same).1 Letter.noConfusion
  | copied plain more =>
      rw [letters_text_cons] at same
      obtain ⟨head, rfl⟩ := List.cons.inj same
      obtain rfl := Letter.copied.inj head
      exact ⟨_, _, rfl, plain, more, rfl⟩

theorem Reads.of_inserted {name : List Char} (reads : Reads value parts)
    (same : letters parts = .inserted name :: word) :
    ∃ body fallback rest others, Names body name fallback ∧ value = braced body ++ rest ∧
      Reads rest others ∧ letters others = word := by
  cases reads with
  | done => contradiction
  | reference names more =>
      rw [letters_variable_cons] at same
      obtain ⟨head, rfl⟩ := List.cons.inj same
      obtain rfl := Letter.inserted.inj head
      exact ⟨_, _, _, _, names, rfl, more, rfl⟩
  | copied plain more =>
      rw [letters_text_cons] at same
      exact absurd (List.cons.inj same).1 Letter.noConfusion

theorem Reads.of_text {text : List Char} (reads : Reads value parts)
    (same : letters parts = text.map .copied ++ word) :
    ∃ rest others, value = text ++ rest ∧ Plain text rest ∧ Reads rest others ∧
      letters others = word := by
  induction text generalizing value parts with
  | nil =>
      refine ⟨value, parts, rfl, ?_, reads, same⟩
      intro start within nonempty
      exact absurd (List.suffix_nil.mp within) nonempty
  | cons char text ih =>
      obtain ⟨rest, others, rfl, first, behind, sameTail⟩ := reads.of_copied same
      obtain ⟨last, segmentsLeft, rfl, plain, readsLeft, wordLeft⟩ := ih behind sameTail
      exact ⟨last, segmentsLeft, rfl, plain.cons first, readsLeft, wordLeft⟩

theorem Plain.reads {text rest : List Char} (plain : Plain text rest) (more : Reads rest parts) :
    Reads (text ++ rest) (text.map (.text [·]) ++ parts) := by
  induction text with
  | nil => exact more
  | cons char text ih =>
      have behind : Plain text rest := fun start within =>
        plain start (within.trans (List.suffix_cons char text))
      exact .copied (plain _ List.suffix_rfl (List.cons_ne_nil _ _)) (ih behind)

end Reads

theorem exists_reads (value : List Char) : ∃ parts, Reads value parts := by
  induction length : value.length using Nat.strong_induction_on generalizing value with
  | _ size ih =>
      subst length
      by_cases refers : Refers value
      next =>
        obtain ⟨body, name, fallback, rest, names, rfl⟩ := refers
        obtain ⟨parts, reads⟩ := ih rest.length (by simp [braced]; omega) rest rfl
        exact ⟨_, .reference names reads⟩
      next =>
        cases value with
        | nil => exact ⟨[], .done⟩
        | cons char rest =>
            obtain ⟨parts, reads⟩ := ih rest.length (by simp) rest rfl
            exact ⟨_, .copied refers reads⟩

end Workbench.Env
