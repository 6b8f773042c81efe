import Workbench.CommandLine.Invocation
import Workbench.Proofs.Text.Split

set_option autoImplicit false

namespace Workbench

abbrev Setting := CommandOption × Option (List Char)

def PlainWord (word : List Char) : Prop :=
  word.head? ≠ some '-' ∨ word = ['-']

def CommandOption.longWord (option : CommandOption) : List Char :=
  '-' :: '-' :: option.name.toList

inductive SpelledByLetters (options : List CommandOption) :
    List Char -> List Setting -> Option CommandOption -> Prop
  | done : SpelledByLetters options [] [] none
  | flag {option : CommandOption} {letter : Char} {rest : List Char} {settings : List Setting}
      {last : Option CommandOption} (known : option ∈ options)
      (lettered : option.letter? = some letter) (bare : option.takesValue = false)
      (behind : SpelledByLetters options rest settings last) :
      SpelledByLetters options (letter :: rest) ((option, none) :: settings) last
  | marked {option : CommandOption} {letter : Char} {value : List Char} (known : option ∈ options)
      (lettered : option.letter? = some letter) (valued : option.takesValue = true) :
      SpelledByLetters options (letter :: '=' :: value) [(option, some value)] none
  | attached {option : CommandOption} {letter : Char} {value : List Char}
      (known : option ∈ options) (lettered : option.letter? = some letter)
      (valued : option.takesValue = true) (nonempty : value ≠ [])
      (unmarked : value.head? ≠ some '=') :
      SpelledByLetters options (letter :: value) [(option, some value)] none
  | last {option : CommandOption} {letter : Char} (known : option ∈ options)
      (lettered : option.letter? = some letter) (valued : option.takesValue = true) :
      SpelledByLetters options [letter] [] (some option)

inductive Spelled (options : List CommandOption) : List (List Char) -> List Setting -> Prop
  | done : Spelled options [] []
  | separator : Spelled options [['-', '-']] []
  | flag {option : CommandOption} {rest : List (List Char)} {settings : List Setting}
      (known : option ∈ options) (bare : option.takesValue = false)
      (behind : Spelled options rest settings) :
      Spelled options (option.longWord :: rest) ((option, none) :: settings)
  | marked {option : CommandOption} {value : List Char} {rest : List (List Char)}
      {settings : List Setting} (known : option ∈ options) (valued : option.takesValue = true)
      (behind : Spelled options rest settings) :
      Spelled options ((option.longWord ++ '=' :: value) :: rest)
        ((option, some value) :: settings)
  | apart {option : CommandOption} {value : List Char} {rest : List (List Char)}
      {settings : List Setting} (known : option ∈ options) (valued : option.takesValue = true)
      (plain : PlainWord value) (behind : Spelled options rest settings) :
      Spelled options (option.longWord :: value :: rest) ((option, some value) :: settings)
  | letters {letters : List Char} {front settings : List Setting} {rest : List (List Char)}
      (nonempty : letters ≠ []) (spelled : SpelledByLetters options letters front none)
      (behind : Spelled options rest settings) :
      Spelled options (('-' :: letters) :: rest) (front ++ settings)
  | lettersApart {option : CommandOption} {letters value : List Char}
      {front settings : List Setting} {rest : List (List Char)}
      (spelled : SpelledByLetters options letters front (some option)) (plain : PlainWord value)
      (behind : Spelled options rest settings) :
      Spelled options (('-' :: letters) :: value :: rest)
        (front ++ (option, some value) :: settings)

namespace CommandOption

theorem name_injective {left right : CommandOption} (same : left.name = right.name) :
    left = right := by
  revert same
  cases left <;> cases right <;> decide

theorem letter_injective {left right : CommandOption} {letter : Char}
    (first : left.letter? = some letter) (second : right.letter? = some letter) : left = right := by
  have same := first.trans second.symm
  revert same first
  cases left <;> cases right <;> simp [letter?]

theorem mark_not_mem_name (option : CommandOption) : '=' ∉ option.name.toList := by
  cases option <;> decide

theorem name_ne_nil (option : CommandOption) : option.name.toList ≠ [] := by
  cases option <;> decide

theorem letter_ne_dash {option : CommandOption} {letter : Char}
    (lettered : option.letter? = some letter) : letter ≠ '-' := by
  rintro rfl
  revert lettered
  cases option <;> decide

end CommandOption

theorem find?_eq_some_of_unique {α : Type} {test : α -> Bool} {items : List α} {item : α}
    (member : item ∈ items) (holds : test item = true)
    (unique : ∀ other, test other = true → other = item) : items.find? test = some item := by
  cases found : items.find? test with
  | none => exact absurd holds (List.find?_eq_none.mp found item member)
  | some other => rw [unique other (List.find?_some found)]

theorem find_name {options : List CommandOption} {option : CommandOption}
    (known : option ∈ options) :
    (options.find? fun other => other.name.toList = option.name.toList) = some option := by
  refine find?_eq_some_of_unique known (by simp) fun other same => ?_
  rw [decide_eq_true_eq, String.toList_inj] at same
  exact CommandOption.name_injective same

theorem find_letter {options : List CommandOption} {option : CommandOption} {letter : Char}
    (known : option ∈ options) (lettered : option.letter? = some letter) :
    (options.find? fun other => other.letter? = some letter) = some option := by
  refine find?_eq_some_of_unique known (by simp [lettered]) fun other same => ?_
  rw [decide_eq_true_eq] at same
  exact CommandOption.letter_injective same lettered

variable {options : List CommandOption}

theorem SpelledByLetters.head?_ne_dash {text : List Char} {settings : List Setting}
    {last : Option CommandOption} (spelled : SpelledByLetters options text settings last) :
    text.head? ≠ some '-' := by
  cases spelled with
  | done => simp
  | flag _ lettered | marked _ lettered | attached _ lettered | last _ lettered =>
      simpa using CommandOption.letter_ne_dash lettered

theorem SpelledByLetters.ne_nil_of_last {text : List Char} {settings : List Setting}
    {option : CommandOption} (spelled : SpelledByLetters options text settings (some option)) :
    text ≠ [] := by
  rintro rfl
  cases spelled

theorem SpelledByLetters.takesValue_last {text : List Char} {settings : List Setting}
    {option : CommandOption} (spelled : SpelledByLetters options text settings (some option)) :
    option.takesValue = true := by
  generalize same : some option = last at spelled
  induction spelled with
  | done | marked | attached => contradiction
  | flag _ _ _ _ ih => exact ih same
  | last known lettered valued =>
      obtain rfl := Option.some.inj same
      exact valued

namespace Token

theorem ofText_longWord (option : CommandOption) :
    ofText option.longWord = .long option.name.toList none := by
  cases option <;> rfl

theorem ofText_marked (option : CommandOption) (value : List Char) :
    ofText (option.longWord ++ '=' :: value) = .long option.name.toList (some value) := by
  have cut := (Text.cutAt?_eq_some_iff '=' _ option.name.toList value).mpr
    ⟨rfl, option.mark_not_mem_name⟩
  cases name : option.name.toList with
  | nil => exact absurd name option.name_ne_nil
  | cons first rest =>
      rw [name] at cut
      simp only [CommandOption.longWord, name, List.cons_append] at cut ⊢
      simp [ofText, cut]

theorem ofText_letters {letters : List Char} (nonempty : letters ≠ [])
    (notLong : letters.head? ≠ some '-') : ofText ('-' :: letters) = .short letters := by
  cases letters with
  | nil => exact absurd rfl nonempty
  | cons first rest =>
      have other : first ≠ '-' := by simpa using notLong
      simp [ofText, other]

theorem ofText_plain {word : List Char} (plain : PlainWord word) : ofText word = .word word := by
  rcases plain with other | rfl
  · cases word with
    | nil => rfl
    | cons first rest =>
        have other : first ≠ '-' := by simpa using other
        simp [ofText, other]
  · rfl

theorem plain_of_ofText {word text : List Char} (read : ofText word = .word text) :
    text = word ∧ PlainWord word := by
  unfold ofText at read
  split at read
  next => contradiction
  next => split at read <;> contradiction
  next => exact ⟨(Token.word.inj read).symm, .inr rfl⟩
  next => contradiction
  next notLong notSeparator notDash other =>
    refine ⟨(Token.word.inj read).symm, .inl fun dash => ?_⟩
    obtain ⟨rest, rfl⟩ := List.head?_eq_some_iff.mp dash
    exact other rest rfl

theorem separator_of_ofText {word : List Char} (read : ofText word = .separator) :
    word = ['-', '-'] := by
  unfold ofText at read
  split at read
  next => rfl
  next => split at read <;> contradiction
  all_goals contradiction

theorem long_of_ofText {word name : List Char} {value : Option (List Char)}
    (read : ofText word = .long name value) :
    word = '-' :: '-' :: name ++ Text.markedBy '=' value := by
  unfold ofText at read
  split at read
  next => contradiction
  next rest _ =>
    split at read
    next before after cut =>
      obtain ⟨rfl, rfl⟩ := Token.long.inj read
      obtain ⟨rfl, -⟩ := (Text.cutAt?_eq_some_iff '=' rest before after).mp cut
      rfl
    next =>
      obtain ⟨rfl, rfl⟩ := Token.long.inj read
      simp [Text.markedBy]
  all_goals contradiction

theorem short_of_ofText {word letters : List Char} (read : ofText word = .short letters) :
    letters ≠ [] ∧ word = '-' :: letters := by
  unfold ofText at read
  split at read
  next => contradiction
  next => split at read <;> contradiction
  next => contradiction
  next rest _ _ notDash =>
    obtain rfl := Token.short.inj read
    refine ⟨?_, rfl⟩
    rintro rfl
    exact notDash rfl
  next => contradiction

end Token

end Workbench
