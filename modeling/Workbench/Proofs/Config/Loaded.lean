import Workbench.Proofs.Config.Loading
import Workbench.Proofs.Config.Violation
import Workbench.Proofs.Rule.Language

set_option autoImplicit false

namespace Workbench

theorem Rule.blank_of_empty {text : List Char} {error : RuleError}
    (failed : Rule.parse text = .error error) (empty : error.fault = .empty) :
    ∀ char ∈ text, Text.isBlank char = true := by
  have first := ((parseWith_eq_error_iff Pattern.parse? text error).mp failed).2
  rw [empty] at first
  rw [← Text.words_eq_nil_iff, words_eq_tokens]
  cases first with
  | empty blank => exact blank
  | flag _ _ _ faulty => cases faulty

namespace Config

variable {config : Config} {surroundings : Surroundings}

-- A requirement that is not met while all of those before it are.
structure FirstViolated (config : Config) (requirement : Requirement) : Prop where
  violated : config.Violates requirement
  first : ∀ earlier : Requirement, earlier.Before requirement → ¬ config.Violates earlier

theorem validate_eq_error_iff (config : Config) (violation : Violation) :
    config.validate = .error violation ↔
      ∃ requirement, config.FirstViolated requirement ∧
        config.violation? requirement = some violation := by
  have head : config.validate = .error violation ↔
      config.requirements.findSome? config.found? = some violation := by
    rw [← List.head?_filterMap, ← violations_eq, validate]
    cases config.violations <;> simp
  rw [head, List.findSome?_eq_some_iff]
  have ordered := config.pairwise_before_requirements
  constructor
  · rintro ⟨before, requirement, after, split, found, met⟩
    obtain ⟨violated, said⟩ := (found?_eq_some_iff requirement violation).mp found
    refine ⟨requirement, ⟨violated, fun earlier precedes other => ?_⟩, said⟩
    have member := split ▸ mem_requirements other
    rw [split, List.pairwise_append, List.pairwise_cons] at ordered
    rcases List.mem_append.mp member with inFront | behind
    · exact (found?_eq_none_iff earlier).mp (met earlier inFront) other
    · rcases List.mem_cons.mp behind with rfl | behind
      · exact precedes.asymm precedes
      · exact precedes.asymm (ordered.2.1.1 earlier behind)
  · rintro ⟨requirement, ⟨violated, first⟩, said⟩
    obtain ⟨before, after, split⟩ := List.append_of_mem (mem_requirements violated)
    rw [split, List.pairwise_append] at ordered
    refine ⟨before, requirement, after, split,
      (found?_eq_some_iff requirement violation).mpr ⟨violated, said⟩, fun earlier member => ?_⟩
    exact (found?_eq_none_iff earlier).mpr
      (first earlier (ordered.2.2 earlier member requirement List.mem_cons_self))

theorem validate_eq_ok_iff (config : Config) : config.validate = .ok () ↔ config.Valid := by
  have empty : config.validate = .ok () ↔ config.violations = [] := by
    rw [validate]
    cases config.violations <;> simp
  rw [empty, violations_eq, List.filterMap_eq_nil_iff, valid_iff]
  constructor
  · intro met requirement violated
    exact (found?_eq_none_iff requirement).mp (met requirement (mem_requirements violated)) violated
  · exact fun met requirement _ => (found?_eq_none_iff requirement).mpr (met requirement)

theorem valid_of_ofText {environment : Env.Environment} {text : String} {base : Path}
    (read : ofText environment text base = .ok config) : config.Valid := by
  obtain ⟨_, _, _, _, _, valid⟩ := ofText_eq_ok read
  exact config.validate_eq_ok_iff.mp valid

theorem Valid.of_source {source : Option Path} (valid : config.Valid) :
    ({ config with source := source } : Config).Valid :=
  { seedHost := valid.seedHost
    seedPort := valid.seedPort
    nodes := valid.nodes
    devHost := valid.devHost
    devPort := valid.devPort
    rewrites := valid.rewrites
    quiet := valid.quiet }

theorem valid_defaults (base : Path) : (defaults base).Valid := by
  have same : (defaults base).violations = (defaults ⟨[]⟩).violations := rfl
  have unviolated : (defaults ⟨[]⟩).violations = [] := by decide +kernel
  rw [← validate_eq_ok_iff, validate, same, unviolated]

theorem valid_of_found {path : Option Path} (found : Config.found surroundings path = .ok config) :
    config.Valid := by
  rcases found_eq_ok found with ⟨file, -, read⟩ | ⟨-, -, rfl⟩
  · obtain ⟨text, made, -, parsed, rfl⟩ := ofFile_eq_ok read
    exact (valid_of_ofText parsed).of_source
  · exact valid_defaults surroundings.directory.path

theorem valid_of_load {path : Option Path} {overrides : Option Overrides}
    (loaded : load surroundings path overrides = .ok config) : config.Valid := by
  cases overrides with
  | none =>
      obtain ⟨found, read, same⟩ := bind_eq_ok_iff.mp loaded
      obtain rfl := Except.ok.inj same
      exact valid_of_found read
  | some overrides =>
      obtain ⟨_, _, _, valid⟩ := load_eq_ok loaded
      exact config.validate_eq_ok_iff.mp valid

end Config

/-- Every configuration that is read or loaded is valid, so that none of its rules is found to be
empty. A configuration is refused for the first requirement that it does not meet, if there is
one, and the error names the field of it. -/
theorem loaded_config_is_valid (config : Config) :
    ((∃ environment text base, Config.ofText environment text base = .ok config) ∨
        (∃ surroundings path overrides, Config.load surroundings path overrides = .ok config) →
      config.Valid ∧ ∀ rule ∈ config.dev.rewrites, ∀ error,
        Rule.parse rule.toList = .error error → error.fault ≠ .empty) ∧
    (config.validate = .ok () ↔ config.Valid) ∧
    ∀ violation, config.validate = .error violation ↔
      ∃ requirement, config.FirstViolated requirement ∧
        config.violation? requirement = some violation ∧
        ∃ fault, violation.message = requirement.field ++ fault := by
  refine ⟨fun obtained => ?_, config.validate_eq_ok_iff, fun violation => ?_⟩
  · have valid : config.Valid := by
      rcases obtained with ⟨_, _, _, read⟩ | ⟨_, _, _, loaded⟩
      · exact Config.valid_of_ofText read
      · exact Config.valid_of_load loaded
    refine ⟨valid, fun rule member error failed empty => ?_⟩
    obtain ⟨char, among, visible⟩ := valid.rewrites rule member
    simp [Rule.blank_of_empty failed empty char among] at visible
  · rw [Config.validate_eq_error_iff]
    refine exists_congr fun requirement => and_congr_right fun _ => ?_
    refine ⟨fun said => ⟨said, ?_⟩, And.left⟩
    rw [← Config.field_of_violation? said]
    exact violation.message_eq

theorem overridden_defaults_are_valid :
    let surroundings : Surroundings := ⟨{}, [], fun _ => none⟩
    let overrides : Overrides := { devPort := some 3000 }
    let config := (Config.defaults ⟨['/']⟩).override overrides
    Config.load surroundings none (some overrides) = .ok config ∧ config.Valid := by
  intro surroundings overrides config
  have loaded : Config.load surroundings none (some overrides) = .ok config := by decide +kernel
  exact ⟨loaded, ((loaded_config_is_valid config).1 (.inr ⟨_, _, _, loaded⟩)).1⟩

end Workbench
