import Workbench.Proofs.Config.Loaded

set_option autoImplicit false

namespace Workbench

def Surroundings.Holds (surroundings : Surroundings) (file : Path) (read : Config) : Prop :=
  ∃ text written expanded, surroundings.readText file = .ok text ∧
    ConfigFile.parse? text = some written ∧
    written.expand surroundings.environment = .ok expanded ∧
    read = { expanded.resolve (file.parent?.getD ⟨['.']⟩) with source := some file }

def Overrides.Gives (overrides : Overrides) : Requirement -> Prop
  | .seedHost => overrides.seedHost ≠ none
  | .seedPort => overrides.seedPort ≠ none
  | .devHost => overrides.devHost ≠ none
  | .devPort => overrides.devPort ≠ none
  | .rewrite _ => overrides.rewrites ≠ none
  | .node _ _ => False
  | .quiet => False

namespace Config

variable {config : Config} {surroundings : Surroundings}

def overridden (config : Config) (overrides : Option Overrides) : Config :=
  overrides.elim config config.override

theorem violates_override_iff {overrides : Overrides} {requirement : Requirement}
    (kept : ¬ overrides.Gives requirement) :
    (config.override overrides).Violates requirement ↔ config.Violates requirement := by
  cases requirement with
  | seedHost | seedPort | devHost | devPort | rewrite =>
      have missing := not_ne_iff.mp kept
      simp [Violates, override, missing]
  | node | quiet => rfl

theorem check_eq_error_iff (config : Config) (error : ConfigError) :
    config.check = .error error ↔
      ∃ requirement violation, config.FirstViolated requirement ∧
        config.violation? requirement = some violation ∧ error = .invalid violation := by
  have said : config.check = .error error ↔
      ∃ violation, config.validate = .error violation ∧ error = .invalid violation := by
    rw [check]
    cases config.validate <;> simp [eq_comm]
  rw [said]
  constructor
  next =>
    intro found
    obtain ⟨violation, invalid, same⟩ := found
    obtain ⟨requirement, first, told⟩ := (config.validate_eq_error_iff violation).mp invalid
    exact ⟨requirement, violation, first, told, same⟩
  next =>
    intro found
    obtain ⟨requirement, violation, first, told, same⟩ := found
    exact ⟨violation, (config.validate_eq_error_iff violation).mpr ⟨requirement, first, told⟩, same⟩

theorem check_eq_ok_iff_valid (config checked : Config) :
    config.check = .ok checked ↔ checked = config ∧ config.Valid := by
  rw [check_eq_ok_iff, validate_eq_ok_iff, and_comm]

theorem ofFile_of_holds {file : Path} {read : Config} (holds : surroundings.Holds file read) :
    ofFile surroundings file = read.check := by
  obtain ⟨text, written, expanded, stored, parsed, done, rfl⟩ := holds
  simp only [ofFile, stored, ofText, parsed, done]
  have same : ({ expanded.resolve (file.parent?.getD ⟨['.']⟩) with source := some file } :
      Config).validate = (expanded.resolve (file.parent?.getD ⟨['.']⟩)).validate := rfl
  rw [check, check, same]
  cases (expanded.resolve (file.parent?.getD ⟨['.']⟩)).validate <;> rfl

theorem found_of_holds {path : Option Path} {file : Path} {read : Config}
    (origin : path = some file ∨
      path = none ∧ surroundings.discover? surroundings.directory = some file)
    (holds : surroundings.Holds file read) : found surroundings path = read.check := by
  rw [← ofFile_of_holds holds]
  cases origin with
  | inl named =>
      obtain ⟨text, -, -, stored, -⟩ := holds
      have there : surroundings.tree.leadsSomewhere surroundings.directory file = true := by
        unfold Surroundings.readText at stored
        unfold FileTree.leadsSomewhere
        split at stored
        next => contradiction
        next leads => rw [leads]
        next leads => rw [leads]
      rw [named, found, if_pos there]
  | inr discovered =>
      simp only [discovered.1, found, discovered.2]

def twice (read final : Config) : Except ConfigError Config :=
  read.check >>= fun _ => final.check

theorem load_of_holds {path : Option Path} {file : Path} {read : Config}
    (origin : path = some file ∨
      path = none ∧ surroundings.discover? surroundings.directory = some file)
    (holds : surroundings.Holds file read) (overrides : Option Overrides) :
    load surroundings path overrides = read.twice (read.overridden overrides) := by
  rw [load, twice, found_of_holds origin holds]
  cases checked : read.check with
  | error error => rfl
  | ok again =>
      obtain ⟨same, -⟩ := (check_eq_ok_iff_valid _ _).mp checked
      subst same
      cases overrides with
      | none => exact checked.symm
      | some overrides => rfl

section Twice

variable {read final : Config}

theorem twice_eq_ok_iff :
    read.twice final = .ok config ↔ config = final ∧ read.Valid ∧ final.Valid := by
  simp only [twice, bind_eq_ok_iff, check_eq_ok_iff_valid]
  grind

theorem twice_eq_error_iff (error : ConfigError) :
    read.twice final = .error error ↔
      ∃ faulty, (faulty = read ∨ faulty = final ∧ read.Valid) ∧
        ∃ requirement violation, faulty.FirstViolated requirement ∧
          faulty.violation? requirement = some violation ∧ error = .invalid violation := by
  simp only [twice, bind_eq_error_iff, check_eq_ok_iff_valid, ← check_eq_error_iff]
  grind

theorem twice_fails_iff :
    (∃ error, read.twice final = .error error) ↔ ¬ (read.Valid ∧ final.Valid) := by
  cases outcome : read.twice final with
  | ok config => simp [(twice_eq_ok_iff.mp outcome).2]
  | error error =>
      refine iff_of_true ⟨error, rfl⟩ fun valid => ?_
      have succeeds := twice_eq_ok_iff.mpr ⟨rfl, valid⟩
      rw [outcome] at succeeds
      contradiction

end Twice

theorem not_valid_of_firstViolated {requirement : Requirement}
    (first : config.FirstViolated requirement) : ¬ config.Valid :=
  fun valid => config.valid_iff.mp valid requirement first.violated

/-- A file has to be valid by itself. If it is not, loading fails for the first of its settings
that is wrong, even where the command line gives another and nothing else is wrong. -/
theorem file_has_to_be_valid {path : Option Path} {file : Path} {read : Config}
    (origin : path = some file ∨
      path = none ∧ surroundings.discover? surroundings.directory = some file)
    (holds : surroundings.Holds file read) (overrides : Option Overrides) :
    let final := read.overridden overrides
    let loaded := load surroundings path overrides
    (∀ config, loaded = .ok config ↔ config = final ∧ read.Valid ∧ final.Valid) ∧
      (∀ error, loaded = .error error ↔
        ∃ faulty, (faulty = read ∨ faulty = final ∧ read.Valid) ∧
          ∃ requirement violation, faulty.FirstViolated requirement ∧
            faulty.violation? requirement = some violation ∧ error = .invalid violation) ∧
      (((∃ error, loaded = .error error) ↔ ¬ final.Valid) ↔ read.Valid ∨ ¬ final.Valid) ∧
      (final.Valid → ∀ error, loaded = .error error →
        ∃ given requirement violation, overrides = some given ∧ given.Gives requirement ∧
          read.FirstViolated requirement ∧ read.violation? requirement = some violation ∧
          error = .invalid violation) := by
  intro final loaded
  have both : loaded = read.twice final := load_of_holds origin holds overrides
  rw [both]
  refine ⟨fun _ => twice_eq_ok_iff, twice_eq_error_iff, ?_, ?_⟩
  next =>
    rw [twice_fails_iff]
    tauto
  next =>
    intro valid error failed
    obtain ⟨faulty, which, requirement, violation, first, told, same⟩ :=
      (twice_eq_error_iff error).mp failed
    have wrong := not_valid_of_firstViolated first
    -- What is valid in the end can only have been wrong in the file.
    obtain rfl : faulty = read := which.resolve_right fun last => wrong (last.1 ▸ valid)
    cases overrides with
    | none => exact absurd valid wrong
    | some given =>
        refine ⟨given, requirement, violation, rfl, ?_, first, told, same⟩
        by_contra kept
        exact final.valid_iff.mp valid requirement ((violates_override_iff kept).mpr first.violated)

def servingAt (port : String) : Surroundings where
  tree := FileTree.addFile {} ["nd.toml".toList] ("[seed]\nport = " ++ port ++ "\n").toUTF8
  directory := []
  environment := fun _ => none

def readAt (port : UInt16) (file : Path) : Config :=
  { ConfigFile.resolve { seed := { port := port } } (file.parent?.getD ⟨['.']⟩) with
    source := some file }

theorem discovered_port_is_overridden :
    load (servingAt "7") none (some { seedPort := some 5 }) =
      .ok (readAt 5 (.ofString "/nd.toml")) := by
  have found : (servingAt "7").discover? (servingAt "7").directory =
      some (.ofString "/nd.toml") := by decide +kernel
  have holds : (servingAt "7").Holds (.ofString "/nd.toml") (readAt 7 (.ofString "/nd.toml")) :=
    ⟨"[seed]\nport = 7\n", { seed := { port := 7 } }, { seed := { port := 7 } },
      by decide +kernel, by decide +kernel, by decide +kernel, rfl⟩
  have loads := (file_has_to_be_valid (.inr ⟨rfl, found⟩) holds (some { seedPort := some 5 })).1
  refine (loads _).mpr ⟨by decide +kernel, ?_, ?_⟩
  all_goals
    rw [← validate_eq_ok_iff]
    decide +kernel

theorem overridden_port_is_refused :
    (servingAt "0").Holds (.ofString "nd.toml") (readAt 0 (.ofString "nd.toml")) ∧
      ((readAt 0 (.ofString "nd.toml")).overridden (some { seedPort := some 5 })).Valid ∧
      load (servingAt "0") (some (.ofString "nd.toml")) (some { seedPort := some 5 }) =
        .error (.invalid (.zeroPort "seed.port")) := by
  refine ⟨⟨"[seed]\nport = 0\n", { seed := { port := 0 } }, { seed := { port := 0 } },
    by decide +kernel, by decide +kernel, by decide +kernel, rfl⟩, ?_, by decide +kernel⟩
  rw [← validate_eq_ok_iff]
  decide +kernel

end Config

end Workbench
