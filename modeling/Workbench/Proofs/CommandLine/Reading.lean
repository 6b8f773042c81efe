import Workbench.Proofs.CommandLine.Given
import Workbench.Proofs.Success

set_option autoImplicit false

namespace Workbench

namespace Arguments

def setAll (arguments : Arguments) (settings : List Setting) : Except UsageError Arguments :=
  settings.foldlM (fun arguments setting => arguments.set setting.1 setting.2) arguments

theorem setAll_cons (arguments : Arguments) (setting : Setting) (rest : List Setting) :
    arguments.setAll (setting :: rest) =
      arguments.set setting.1 setting.2 >>= fun arguments => arguments.setAll rest := by
  simp [setAll]

theorem setAll_singleton (arguments : Arguments) (setting : Setting) :
    arguments.setAll [setting] = arguments.set setting.1 setting.2 :=
  (setAll_cons arguments setting []).trans (bind_pure _)

theorem setAll_append (arguments : Arguments) (front rest : List Setting) :
    arguments.setAll (front ++ rest) =
      arguments.setAll front >>= fun arguments => arguments.setAll rest := by
  simp [setAll]

theorem set_none_of_takesValue (arguments : Arguments) {option : CommandOption}
    (valued : option.takesValue = true) : arguments.set option none = .error (.noValue option) := by
  cases option <;> first | contradiction | rfl

end Arguments

namespace Reading

variable {options : List CommandOption}

theorem pending_of_settle {reading next : Reading} (settled : reading.settle = .ok next) :
    next.pending = none := by
  unfold settle at settled
  split at settled
  next free =>
    obtain rfl := Except.ok.inj settled
    exact free
  next =>
    obtain ⟨arguments, -, same⟩ := bind_eq_ok_iff.mp settled
    obtain rfl := Except.ok.inj same
    rfl

theorem settle_bind_congr {α : Type} (reading : Reading)
    {left right : Reading → Except UsageError α}
    (same : ∀ arguments, left ⟨arguments, none⟩ = right ⟨arguments, none⟩) :
    reading.settle >>= left = reading.settle >>= right := by
  cases settled : reading.settle with
  | error fault => rfl
  | ok next =>
      obtain ⟨arguments, pending⟩ := next
      obtain rfl : pending = none := pending_of_settle settled
      exact same arguments

theorem settle_bind_settle {α : Type} (reading : Reading) (next : Reading → Except UsageError α) :
    (reading.settle >>= fun reading => reading.settle >>= next) = reading.settle >>= next :=
  reading.settle_bind_congr fun _ => rfl

theorem take_settled (arguments : Arguments) (option : CommandOption)
    (value : Option (List Char)) :
    take ⟨arguments, none⟩ option value = (⟨·, none⟩) <$> arguments.set option value := by
  exact (map_eq_pure_bind (m := Except UsageError) _ _).symm

theorem take_eq (reading : Reading) (option : CommandOption) (value : Option (List Char)) :
    reading.take option value = reading.settle >>= fun reading => reading.take option value :=
  (settle_bind_settle reading _).symm

theorem await_eq (reading : Reading) (option : CommandOption) :
    reading.await option = reading.settle >>= fun reading => reading.await option :=
  (settle_bind_settle reading _).symm

section

variable {option : CommandOption} {letter : Char} (known : option ∈ options)
  (lettered : option.letter? = some letter) (reading : Reading)

include known lettered

theorem readLetters_flag (bare : option.takesValue = false) (rest : List Char) :
    readLetters options reading (letter :: rest) =
      reading.take option none >>= fun reading => readLetters options reading rest := by
  simp [readLetters, find_letter known lettered, bare]

theorem readLetters_marked (valued : option.takesValue = true) (value : List Char) :
    readLetters options reading (letter :: '=' :: value) = reading.take option (some value) := by
  simp [readLetters, find_letter known lettered, valued]

theorem readLetters_attached (valued : option.takesValue = true) {value : List Char}
    (nonempty : value ≠ []) (unmarked : value.head? ≠ some '=') :
    readLetters options reading (letter :: value) = reading.take option (some value) := by
  cases value with
  | nil => exact absurd rfl nonempty
  | cons first rest =>
      have other : first ≠ '=' := by simpa using unmarked
      simp [readLetters, find_letter known lettered, valued, other]

theorem readLetters_last (valued : option.takesValue = true) :
    readLetters options reading [letter] = reading.await option := by
  simp [readLetters, find_letter known lettered, valued]

end

theorem readLetters_settled {text : List Char} {settings : List Setting}
    {last : Option CommandOption} (spelled : SpelledByLetters options text settings last)
    (arguments : Arguments) :
    readLetters options ⟨arguments, none⟩ text =
      (⟨·, last.map (·, none)⟩) <$> arguments.setAll settings := by
  induction spelled generalizing arguments with
  | done => rfl
  | @flag option letter rest settings last known lettered bare behind ih =>
      rw [readLetters_flag known lettered _ bare, take_settled, Arguments.setAll_cons]
      cases arguments.set option none with
      | error fault => rfl
      | ok next => exact ih next
  | marked known lettered valued =>
      rw [readLetters_marked known lettered _ valued, take_settled, Arguments.setAll_singleton]
      rfl
  | attached known lettered valued nonempty unmarked =>
      rw [readLetters_attached known lettered _ valued nonempty unmarked, take_settled,
        Arguments.setAll_singleton]
      rfl
  | last known lettered valued =>
      rw [readLetters_last known lettered _ valued]
      rfl

theorem readLetters_spelled {text : List Char} {settings : List Setting}
    {last : Option CommandOption} (spelled : SpelledByLetters options text settings last)
    (begun : text ≠ []) (reading : Reading) :
    readLetters options reading text = reading.settle >>= fun reading =>
      (⟨·, last.map (·, none)⟩) <$> reading.arguments.setAll settings := by
  have first : readLetters options reading text =
      reading.settle >>= fun reading => readLetters options reading text := by
    cases spelled with
    | done => exact absurd rfl begun
    | flag known lettered bare behind =>
        simp only [readLetters_flag known lettered _ bare]
        rw [take_eq, bind_assoc]
    | marked known lettered valued =>
        simp only [readLetters_marked known lettered _ valued]
        rw [take_eq]
    | attached known lettered valued nonempty unmarked =>
        simp only [readLetters_attached known lettered _ valued nonempty unmarked]
        rw [take_eq]
    | last known lettered valued =>
        simp only [readLetters_last known lettered _ valued]
        rw [await_eq]
  rw [first]
  exact reading.settle_bind_congr (readLetters_settled spelled)

theorem readName_flag {option : CommandOption} (known : option ∈ options)
    (bare : option.takesValue = false) (reading : Reading) :
    readName options reading option.name.toList none = reading.take option none := by
  simp [readName, find_name known, bare]

theorem readName_marked {option : CommandOption} (known : option ∈ options)
    (valued : option.takesValue = true) (reading : Reading) (value : List Char) :
    readName options reading option.name.toList (some value) =
      reading.take option (some value) := by
  simp [readName, find_name known, valued]

theorem readName_apart {option : CommandOption} (known : option ∈ options)
    (valued : option.takesValue = true) (reading : Reading) :
    readName options reading option.name.toList none = reading.await option := by
  simp [readName, find_name known, valued]

theorem setAll_taken (arguments : Arguments) (option : CommandOption) (value : Option (List Char))
    (settings : List Setting) :
    (take ⟨arguments, none⟩ option value >>= fun reading =>
        reading.settle >>= fun reading => reading.arguments.setAll settings) =
      arguments.setAll ((option, value) :: settings) := by
  rw [take_settled, bind_map_left, Arguments.setAll_cons]
  rfl

theorem setAll_awaited (arguments : Arguments) (option : CommandOption) (value : List Char)
    (settings : List Setting) :
    (settle ⟨arguments, some (option, some value)⟩ >>= fun reading =>
        reading.arguments.setAll settings) =
      arguments.setAll ((option, some value) :: settings) := by
  have settled : settle ⟨arguments, some (option, some value)⟩ =
      (⟨·, none⟩) <$> arguments.set option (some value) :=
    (map_eq_pure_bind (m := Except UsageError) _ _).symm
  rw [settled, bind_map_left, Arguments.setAll_cons]

theorem read_spelled {words : List (List Char)} {settings : List Setting}
    (spelled : Spelled options words settings) (reading : Reading) :
    reading.read options (words.map Token.ofText) =
      reading.settle >>= fun reading => reading.arguments.setAll settings := by
  -- Whatever comes first settles what is pending, so each case starts with nothing pending.
  induction spelled generalizing reading with
  | done => rfl
  | separator => rfl
  | flag known bare behind ih =>
      simp only [List.map_cons, Token.ofText_longWord, read, readName_flag known bare, ih]
      rw [take_eq, bind_assoc]
      exact reading.settle_bind_congr fun arguments => setAll_taken arguments _ _ _
  | marked known valued behind ih =>
      simp only [List.map_cons, Token.ofText_marked, read, readName_marked known valued, ih]
      rw [take_eq, bind_assoc]
      exact reading.settle_bind_congr fun arguments => setAll_taken arguments _ _ _
  | apart known valued plain behind ih =>
      simp only [List.map_cons, Token.ofText_longWord, Token.ofText_plain plain, read,
        readName_apart known valued, ih]
      rw [await_eq, bind_assoc]
      exact reading.settle_bind_congr fun arguments => setAll_awaited arguments _ _ _
  | letters nonempty spelled behind ih =>
      simp only [List.map_cons, Token.ofText_letters nonempty spelled.head?_ne_dash, read, ih]
      rw [readLetters_spelled spelled nonempty, bind_assoc]
      refine reading.settle_bind_congr fun arguments => ?_
      rw [bind_map_left, Arguments.setAll_append]
      rfl
  | lettersApart spelled plain behind ih =>
      simp only [List.map_cons, Token.ofText_letters spelled.ne_nil_of_last spelled.head?_ne_dash,
        Token.ofText_plain plain, read, ih]
      rw [readLetters_spelled spelled spelled.ne_nil_of_last, bind_assoc]
      refine reading.settle_bind_congr fun arguments => ?_
      rw [bind_map_left, Arguments.setAll_append]
      exact congrArg (_ >>= ·) (funext fun arguments => setAll_awaited arguments _ _ _)

theorem take_eq_ok {reading next : Reading} {option : CommandOption} {value : Option (List Char)}
    (taken : reading.take option value = .ok next) :
    (∃ middle, reading.settle = .ok middle) ∧ next.pending = none := by
  obtain ⟨middle, settled, taken⟩ := bind_eq_ok_iff.mp taken
  obtain ⟨arguments, -, same⟩ := bind_eq_ok_iff.mp taken
  obtain rfl := Except.ok.inj same
  have free := pending_of_settle settled
  exact ⟨⟨middle, settled⟩, free⟩

theorem await_eq_ok {reading next : Reading} {option : CommandOption}
    (awaited : reading.await option = .ok next) :
    (∃ middle, reading.settle = .ok middle) ∧ next.pending = some (option, none) := by
  obtain ⟨middle, settled, same⟩ := bind_eq_ok_iff.mp awaited
  obtain rfl := Except.ok.inj same
  exact ⟨⟨middle, settled⟩, rfl⟩

theorem readLetters_eq_ok {text : List Char} {reading next : Reading} (begun : text ≠ [])
    (read : readLetters options reading text = .ok next) :
    ∃ settings last, SpelledByLetters options text settings last ∧
      (∃ middle, reading.settle = .ok middle) ∧ next.pending = last.map (·, none) := by
  induction text generalizing reading with
  | nil => exact absurd rfl begun
  | cons letter rest ih =>
      rw [readLetters] at read
      split at read
      next => contradiction
      next option found =>
        have known := List.mem_of_find?_eq_some found
        have lettered : option.letter? = some letter := by simpa using List.find?_some found
        split at read
        next valued =>
          split at read
          next =>
            obtain ⟨settled, awaits⟩ := await_eq_ok read
            exact ⟨[], some option, .last known lettered valued, settled, awaits⟩
          next value =>
            obtain ⟨settled, free⟩ := take_eq_ok read
            exact ⟨_, none, .marked known lettered valued, settled, free⟩
          next begun unmarked =>
            obtain ⟨settled, free⟩ := take_eq_ok read
            refine ⟨_, none, .attached known lettered valued begun fun mark => ?_, settled, free⟩
            obtain ⟨value, rfl⟩ := List.head?_eq_some_iff.mp mark
            exact unmarked value rfl
        next bare =>
          rw [Bool.not_eq_true] at bare
          obtain ⟨middle, taken, read⟩ := bind_eq_ok_iff.mp read
          obtain ⟨settled, free⟩ := take_eq_ok taken
          cases rest with
          | nil =>
              obtain rfl := Except.ok.inj read
              exact ⟨_, none, .flag known lettered bare .done, settled, free⟩
          | cons second others =>
              obtain ⟨settings, last, spelled, -, awaits⟩ := ih (by simp) read
              exact ⟨_, last, .flag known lettered bare spelled, settled, awaits⟩

theorem readName_eq_ok {name : List Char} {value : Option (List Char)} {reading next : Reading}
    (read : readName options reading name value = .ok next) :
    ∃ option ∈ options, option.name.toList = name ∧ (∃ middle, reading.settle = .ok middle) ∧
      (option.takesValue = value.isSome ∧ next.pending = none ∨
        option.takesValue = true ∧ value = none ∧ next.pending = some (option, none)) := by
  unfold readName at read
  split at read
  next => contradiction
  next option found =>
    have known := List.mem_of_find?_eq_some found
    have named : option.name.toList = name := by simpa using List.find?_some found
    refine ⟨option, known, named, ?_⟩
    cases valued : option.takesValue <;> cases value <;> rw [valued] at read
    case false.some => contradiction
    case true.none =>
      obtain ⟨settled, awaits⟩ := await_eq_ok read
      exact ⟨settled, .inr ⟨rfl, rfl, awaits⟩⟩
    all_goals
      obtain ⟨settled, free⟩ := take_eq_ok read
      exact ⟨settled, .inl ⟨rfl, free⟩⟩

structure SpelledBehind (options : List CommandOption) (reading : Reading)
    (words : List (List Char)) : Prop where
  waiting : ∀ option, reading.pending = some (option, none) →
    ∃ value rest settings, words = value :: rest ∧ PlainWord value ∧ Spelled options rest settings
  free : (∀ option, reading.pending ≠ some (option, none)) →
    ∃ settings, Spelled options words settings

def WaitsForValue (reading : Reading) : Prop :=
  ∀ option, reading.pending = some (option, none) → option.takesValue = true

theorem spelledBehind_of_settle {reading middle : Reading} {words : List (List Char)}
    {settings : List Setting} (waits : reading.WaitsForValue)
    (settled : reading.settle = .ok middle) (spelled : Spelled options words settings) :
    SpelledBehind options reading words := by
  refine ⟨fun option pending => ?_, fun _ => ⟨settings, spelled⟩⟩
  unfold settle at settled
  rw [pending] at settled
  simp [Arguments.set_none_of_takesValue _ (waits option pending), bind, Except.bind] at settled

section

variable {word : List Char} {rest : List (List Char)} {reading next : Reading}
  (waits : reading.WaitsForValue) (behind : next.WaitsForValue → SpelledBehind options next rest)

include behind

theorem exists_spelled_of_free (free : next.pending = none) :
    ∃ settings, Spelled options rest settings :=
  (behind (by simp [WaitsForValue, free])).free (by simp [free])

theorem exists_spelled_of_awaits {option : CommandOption} (valued : option.takesValue = true)
    (awaits : next.pending = some (option, none)) :
    ∃ value others settings,
      rest = value :: others ∧ PlainWord value ∧ Spelled options others settings :=
  (behind (by simp [WaitsForValue, awaits, valued])).waiting option awaits

include waits

theorem spelledBehind_of_long {name : List Char} {value : Option (List Char)}
    (token : Token.ofText word = .long name value)
    (read : readName options reading name value = .ok next) :
    SpelledBehind options reading (word :: rest) := by
  rw [Token.long_of_ofText token]
  obtain ⟨option, known, rfl, ⟨middle, settled⟩, ⟨taken, free⟩ | ⟨valued, rfl, awaits⟩⟩ :=
    readName_eq_ok read
  · obtain ⟨settings, spelled⟩ := exists_spelled_of_free behind free
    cases value with
    | none =>
        rw [Text.markedBy, List.append_nil]
        exact spelledBehind_of_settle waits settled (.flag known taken spelled)
    | some text => exact spelledBehind_of_settle waits settled (.marked known taken spelled)
  · obtain ⟨value, others, settings, rfl, plain, spelled⟩ :=
      exists_spelled_of_awaits behind valued awaits
    rw [Text.markedBy, List.append_nil]
    exact spelledBehind_of_settle waits settled (.apart known valued plain spelled)

theorem spelledBehind_of_short {letters : List Char} (token : Token.ofText word = .short letters)
    (read : readLetters options reading letters = .ok next) :
    SpelledBehind options reading (word :: rest) := by
  obtain ⟨nonempty, rfl⟩ := Token.short_of_ofText token
  obtain ⟨front, last, spelledFront, ⟨middle, settled⟩, awaits⟩ := readLetters_eq_ok nonempty read
  cases last with
  | none =>
      obtain ⟨settings, spelled⟩ := exists_spelled_of_free behind awaits
      exact spelledBehind_of_settle waits settled (.letters nonempty spelledFront spelled)
  | some option =>
      obtain ⟨value, others, settings, rfl, plain, spelled⟩ :=
        exists_spelled_of_awaits behind spelledFront.takesValue_last awaits
      exact spelledBehind_of_settle waits settled (.lettersApart spelledFront plain spelled)

omit waits in
theorem spelledBehind_of_word {text : List Char} (token : Token.ofText word = .word text)
    (read : reading.readWord text = .ok next) :
    SpelledBehind options reading (word :: rest) := by
  obtain ⟨rfl, plain⟩ := Token.plain_of_ofText token
  unfold readWord at read
  split at read
  next option pending =>
    obtain rfl := Except.ok.inj read
    obtain ⟨settings, spelled⟩ := (behind (by simp [WaitsForValue])).free (by simp)
    exact ⟨fun _ _ => ⟨_, rest, settings, rfl, plain, spelled⟩, fun free =>
      absurd pending (free option)⟩
  next => contradiction

end

theorem spelledBehind_of_read {words : List (List Char)} {reading : Reading}
    {arguments : Arguments} (read : reading.read options (words.map Token.ofText) = .ok arguments)
    (waits : reading.WaitsForValue) : SpelledBehind options reading words := by
  induction words generalizing reading with
  | nil =>
      obtain ⟨middle, settled, -⟩ := bind_eq_ok_iff.mp read
      exact spelledBehind_of_settle waits settled .done
  | cons word rest ih =>
      rw [List.map_cons] at read
      cases token : Token.ofText word with
      | separator =>
          rw [token] at read
          obtain rfl := Token.separator_of_ofText token
          cases rest with
          | nil =>
              obtain ⟨middle, settled, -⟩ := bind_eq_ok_iff.mp read
              exact spelledBehind_of_settle waits settled .separator
          | cons => contradiction
      | long name value =>
          rw [token, Reading.read] at read
          obtain ⟨next, named, others⟩ := bind_eq_ok_iff.mp read
          exact spelledBehind_of_long waits (ih others) token named
      | short letters =>
          rw [token, Reading.read] at read
          obtain ⟨next, lettered, others⟩ := bind_eq_ok_iff.mp read
          exact spelledBehind_of_short waits (ih others) token lettered
      | word text =>
          rw [token, Reading.read] at read
          obtain ⟨next, placed, others⟩ := bind_eq_ok_iff.mp read
          exact spelledBehind_of_word (ih others) token placed

theorem exists_spelled_of_read {words : List (List Char)} {arguments : Arguments}
    (read : Reading.read options {} (words.map Token.ofText) = .ok arguments) :
    ∃ settings, Spelled options words settings :=
  (spelledBehind_of_read read (by simp [WaitsForValue])).free (by simp)

end Reading

end Workbench
