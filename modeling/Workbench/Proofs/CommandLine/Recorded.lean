import Mathlib.Data.List.Induction
import Workbench.Proofs.CommandLine.Reading
import Workbench.Proofs.Text.Letter

set_option autoImplicit false

namespace Workbench

def valuesOf (option : CommandOption) (settings : List Setting) : List (List Char) :=
  settings.filterMap fun setting => if setting.1 = option then setting.2 else none

theorem valuesOf_concat (option : CommandOption) (settings : List Setting) (setting : Setting) :
    valuesOf option (settings ++ [setting]) =
      valuesOf option settings ++ (if setting.1 = option then setting.2 else none).toList := by
  simp [valuesOf, List.filterMap_eq_flatMap_toList]

def SpellsPort (text : List Char) (port : UInt16) : Prop :=
  ∃ digits, (text = digits ∨ text = '+' :: digits ∨ text = '-' :: digits ∧ port = 0) ∧
    digits ≠ [] ∧ (∀ digit ∈ digits, digit.isDigit = true) ∧
    Nat.ofDigits 10 (digits.reverse.map fun digit => digit.toNat - 48) = port.toNat

def truthText (truth : Bool) : List Char :=
  (if truth then "true" else "false").toList

namespace Arguments

inductive Sets (arguments : Arguments) :
    CommandOption -> Option (List Char) -> Arguments -> Prop
  | config {value : List Char} (first : arguments.config = none) :
      Sets arguments .config (some value) { arguments with config := some ⟨value⟩ }
  | host {value : List Char} (first : arguments.host = none) :
      Sets arguments .host (some value) { arguments with host := some (String.ofList value) }
  | port {value : List Char} {port : UInt16} (first : arguments.port = none)
      (spelled : SpellsPort value port) :
      Sets arguments .port (some value) { arguments with port := some port }
  | files {value : List Char} (first : arguments.files = none) :
      Sets arguments .files (some value) { arguments with files := some ⟨value⟩ }
  | baseDir {value : List Char} (first : arguments.baseDir = none) :
      Sets arguments .baseDir (some value) { arguments with baseDir := some ⟨value⟩ }
  | rewrite {value : List Char} :
      Sets arguments .rewrite (some value)
        { arguments with rewrites := arguments.rewrites ++ [String.ofList value] }
  | liveReload (truth : Bool) (first : arguments.liveReload = none) :
      Sets arguments .liveReload (some (truthText truth))
        { arguments with liveReload := some truth }
  | noOpen (first : arguments.noOpen = false) :
      Sets arguments .noOpen none { arguments with noOpen := true }
  | noLiveReload (first : arguments.noLiveReload = false) :
      Sets arguments .noLiveReload none { arguments with noLiveReload := true }
  | verbose (first : arguments.verbose = false) :
      Sets arguments .verbose none { arguments with verbose := true }

theorem spellsPort_of_number {text digits : List Char} {number : Nat} {negative : Bool}
    (spelled : text = digits ∨ text = '+' :: digits ∨ text = '-' :: digits ∧ negative = true)
    (read : Text.number? 10 digits = some number)
    (bounded : ¬ (decide (maxPort < number) || (negative && decide (number ≠ 0))) = true) :
    SpellsPort text number.toUInt16 := by
  obtain ⟨nonempty, all, value⟩ := (Text.number?_ten_eq_some_iff digits number).mp read
  simp only [Bool.or_eq_true, Bool.and_eq_true, decide_eq_true_eq, not_or, not_and, not_not,
    Nat.not_lt] at bounded
  refine ⟨digits, ?_, nonempty, all, ?_⟩
  · rcases spelled with plain | plus | ⟨minus, isNegative⟩
    · exact .inl plain
    · exact .inr (.inl plus)
    · exact .inr (.inr ⟨minus, by rw [bounded.2 isNegative]; rfl⟩)
  · rw [value, Nat.toUInt16_eq, UInt16.toNat_ofNat_of_lt' (Nat.lt_succ_of_le bounded.1)]

theorem spellsPort_of_port? {text : List Char} {port : UInt16}
    (read : port? text = some port) : SpellsPort text port := by
  have numbered {digits : List Char} (negative : Bool)
      (spelled : text = digits ∨ text = '+' :: digits ∨ text = '-' :: digits ∧ negative = true)
      (same : port? text = (Text.number? 10 digits).bind fun number =>
        if maxPort < number || (negative && number ≠ 0) then none else some number.toUInt16) :
      SpellsPort text port := by
    obtain ⟨number, found, bounded⟩ := Option.bind_eq_some_iff.mp (same.symm.trans read)
    split at bounded
    next => contradiction
    next bounded' =>
      obtain rfl := Option.some.inj bounded
      exact spellsPort_of_number spelled found bounded'
  by_cases plus : text.head? = some '+'
  · obtain ⟨digits, rfl⟩ := List.head?_eq_some_iff.mp plus
    refine numbered false (.inr (.inl rfl)) ?_
    cases found : Text.number? 10 digits <;> simp [port?, found]
  by_cases minus : text.head? = some '-'
  · obtain ⟨digits, rfl⟩ := List.head?_eq_some_iff.mp minus
    refine numbered true (.inr (.inr ⟨rfl, rfl⟩)) ?_
    cases found : Text.number? 10 digits <;> simp [port?, found]
  · refine numbered false (.inl rfl) ?_
    cases text with
    | nil => rfl
    | cons first rest =>
        have notPlus : first ≠ '+' := by simpa using plus
        have notMinus : first ≠ '-' := by simpa using minus
        cases found : Text.number? 10 (first :: rest) <;> simp [port?, found, notPlus, notMinus]

theorem once_eq_ok {α : Type} {option : CommandOption} {before after : Option α}
    {read : Except UsageError α} (done : once option before read = .ok after) :
    before = none ∧ ∃ value, read = .ok value ∧ after = some value := by
  unfold once at done
  split at done
  next => contradiction
  next first =>
    refine ⟨by simpa using first, ?_⟩
    cases read with
    | error fault => contradiction
    | ok value => exact ⟨value, rfl, (Except.ok.inj done).symm⟩

theorem raised_eq_ok {option : CommandOption} {before after : Bool}
    (done : raised option before = .ok after) : before = false ∧ after = true := by
  unfold raised at done
  split at done
  next => contradiction
  next first => exact ⟨by simpa using first, (Except.ok.inj done).symm⟩

theorem readPath_eq_ok {option : CommandOption} {value : List Char} {path : Path}
    (read : readPath option value = .ok path) : path = ⟨value⟩ := by
  unfold readPath at read
  split at read
  next => contradiction
  next => exact (Except.ok.inj read).symm

theorem readPort_eq_ok {option : CommandOption} {value : List Char} {port : UInt16}
    (read : readPort option value = .ok port) : SpellsPort value port := by
  unfold readPort at read
  split at read
  next found =>
    obtain rfl := Except.ok.inj read
    exact spellsPort_of_port? found
  next => contradiction

theorem readTruth_eq_ok {option : CommandOption} {value : List Char} {truth : Bool}
    (read : readTruth option value = .ok truth) : value = truthText truth := by
  unfold readTruth at read
  rw [← String.toList_ofList (l := value)]
  split at read
  next same =>
    obtain rfl := Except.ok.inj read
    rw [same]
    rfl
  next same =>
    obtain rfl := Except.ok.inj read
    rw [same]
    rfl
  next => contradiction

theorem sets_of_setValue {arguments next : Arguments} {option : CommandOption} {value : List Char}
    (done : arguments.setValue option value = .ok next) :
    Sets arguments option (some value) next := by
  unfold setValue at done
  cases option
  case help | version | noOpen | noLiveReload | verbose => contradiction
  case rewrite =>
    obtain rfl := Except.ok.inj done
    exact .rewrite
  all_goals
    obtain ⟨after, set, same⟩ := bind_eq_ok_iff.mp done
    obtain rfl := Except.ok.inj same
    obtain ⟨first, read, found, rfl⟩ := once_eq_ok set
  case config =>
    obtain rfl := readPath_eq_ok found
    exact .config first
  case host =>
    obtain rfl := Except.ok.inj found
    exact .host first
  case port => exact .port first (readPort_eq_ok found)
  case files =>
    obtain rfl := readPath_eq_ok found
    exact .files first
  case baseDir =>
    obtain rfl := readPath_eq_ok found
    exact .baseDir first
  case liveReload =>
    obtain rfl := readTruth_eq_ok found
    exact .liveReload read first

theorem sets_of_setFlag {arguments next : Arguments} {option : CommandOption}
    (done : arguments.setFlag option = .ok next) : Sets arguments option none next := by
  unfold setFlag at done
  cases option
  case help | version | config | host | port | files | baseDir | rewrite | liveReload =>
    contradiction
  all_goals
    obtain ⟨after, set, same⟩ := bind_eq_ok_iff.mp done
    obtain rfl := Except.ok.inj same
    obtain ⟨first, rfl⟩ := raised_eq_ok set
  case noOpen => exact .noOpen first
  case noLiveReload => exact .noLiveReload first
  case verbose => exact .verbose first

theorem sets_of_set {arguments next : Arguments} {option : CommandOption}
    {value : Option (List Char)} (done : arguments.set option value = .ok next) :
    Sets arguments option value next := by
  cases value with
  | none => exact sets_of_setFlag done
  | some value => exact sets_of_setValue done

structure Records (settings : List Setting) (arguments : Arguments) : Prop where
  config : valuesOf .config settings = arguments.config.toList.map Path.text
  host : valuesOf .host settings = arguments.host.toList.map String.toList
  port : List.Forall₂ SpellsPort (valuesOf .port settings) arguments.port.toList
  files : valuesOf .files settings = arguments.files.toList.map Path.text
  baseDir : valuesOf .baseDir settings = arguments.baseDir.toList.map Path.text
  rewrites : valuesOf .rewrite settings = arguments.rewrites.map String.toList
  liveReload : valuesOf .liveReload settings = arguments.liveReload.toList.map truthText
  noOpen : arguments.noOpen = true ↔ (.noOpen, none) ∈ settings
  noLiveReload : arguments.noLiveReload = true ↔ (.noLiveReload, none) ∈ settings

theorem records_nil : Records [] {} := by
  constructor <;> simp [valuesOf]

theorem Records.set {settings : List Setting} {arguments next : Arguments}
    {option : CommandOption} {value : Option (List Char)} (records : Records settings arguments)
    (set : Sets arguments option value next) : Records (settings ++ [(option, value)]) next where
  config := by cases set <;> simp [valuesOf_concat, records.config, *]
  host := by cases set <;> simp [valuesOf_concat, records.host, *]
  port := by
    cases set with
    | port first spelled =>
        have unset : valuesOf .port settings = [] := by simpa [first] using records.port
        simp [valuesOf_concat, unset, spelled]
    | _ => simpa [valuesOf_concat] using records.port
  files := by cases set <;> simp [valuesOf_concat, records.files, *]
  baseDir := by cases set <;> simp [valuesOf_concat, records.baseDir, *]
  rewrites := by cases set <;> simp [valuesOf_concat, records.rewrites]
  liveReload := by cases set <;> simp [valuesOf_concat, records.liveReload, *]
  noOpen := by cases set <;> simp [records.noOpen]
  noLiveReload := by cases set <;> simp [records.noLiveReload]

theorem records_of_setAll {settings : List Setting} {arguments : Arguments}
    (done : Arguments.setAll {} settings = .ok arguments) : Records settings arguments := by
  induction settings using List.reverseRecOn generalizing arguments with
  | nil =>
      obtain rfl := Except.ok.inj done
      exact records_nil
  | append_singleton front last ih =>
      rw [setAll_append] at done
      obtain ⟨before, reached, set⟩ := bind_eq_ok_iff.mp done
      rw [setAll_singleton] at set
      exact (ih reached).set (sets_of_set set)

theorem withEnvironment_eq_ok {environment : Env.Environment} {arguments next : Arguments}
    (done : arguments.withEnvironment environment = .ok next) :
    next = { arguments with
      config := arguments.config.or ((environment configVariable).map Path.mk) } := by
  unfold withEnvironment at done
  split at done
  next value first found =>
    cases sets_of_set done
    simp [first, found]
  next apart =>
    obtain rfl := Except.ok.inj done
    have kept : arguments.config.or ((environment configVariable).map Path.mk) =
        arguments.config := by
      cases config : arguments.config with
      | some path => rfl
      | none =>
          cases found : environment configVariable with
          | some value => exact absurd found (apart value config)
          | none => rfl
    rw [kept]

theorem checked_eq_ok {arguments next : Arguments} (done : arguments.checked = .ok next) :
    ¬ (arguments.noLiveReload = true ∧ arguments.liveReload.isSome = true) ∧ next = arguments := by
  unfold checked at done
  split at done
  next => contradiction
  next apart => exact ⟨by simpa using apart, (Except.ok.inj done).symm⟩

end Arguments

theorem Invocation.records_of_parse {environment : Env.Environment} {words : List (List Char)}
    {invocation : Invocation} (accepted : Invocation.parse environment words = .ok invocation) :
    ∃ rest, words = invocation.command.name.toList :: rest ∧
      (∃ settings, Spelled invocation.command.options rest settings) ∧
      ∀ settings, Spelled invocation.command.options rest settings →
        ∃ recorded, Arguments.Records settings recorded ∧
          ¬ (recorded.noLiveReload = true ∧ recorded.liveReload.isSome = true) ∧
          invocation.arguments = { recorded with
            config := recorded.config.or
              ((environment Arguments.configVariable).map Path.mk) } := by
  unfold Invocation.parse at accepted
  split at accepted
  next => contradiction
  next first rest =>
    split at accepted
    next command named =>
      obtain ⟨recorded, read, accepted⟩ := bind_eq_ok_iff.mp accepted
      obtain ⟨completed, found, accepted⟩ := bind_eq_ok_iff.mp accepted
      obtain ⟨_, checked, same⟩ := bind_eq_ok_iff.mp accepted
      obtain rfl := Except.ok.inj same
      obtain rfl := Arguments.withEnvironment_eq_ok found
      obtain ⟨apart, rfl⟩ := Arguments.checked_eq_ok checked
      have same : command.name.toList = first := by simpa using List.find?_some named
      refine ⟨rest, by rw [same], Reading.exists_spelled_of_read read, fun settings spelled => ?_⟩
      rw [Reading.read_spelled spelled] at read
      exact ⟨recorded, Arguments.records_of_setAll read, apart, rfl⟩
    next =>
      split at accepted <;> contradiction

end Workbench
