import Workbench.Config.Load
import Workbench.Proofs.Success

set_option autoImplicit false

namespace Workbench.Config

variable {config : Config} {surroundings : Surroundings}

theorem check_eq_ok_iff (config checked : Config) :
    config.check = .ok checked ↔ config.validate = .ok () ∧ checked = config := by
  rw [check]
  cases config.validate <;> simp [eq_comm]

theorem ofText_eq_ok {environment : Env.Environment} {text : String} {base : Path}
    (read : ofText environment text base = .ok config) :
    ∃ file expanded, ConfigFile.parse? text = some file ∧
      file.expand environment = .ok expanded ∧ config = expanded.resolve base ∧
      config.validate = .ok () := by
  unfold ofText at read
  split at read
  next => contradiction
  next file parsed =>
    split at read
    next => contradiction
    next expanded done =>
      obtain ⟨valid, rfl⟩ := (check_eq_ok_iff _ _).mp read
      exact ⟨file, expanded, parsed, done, rfl, valid⟩

theorem ofFile_eq_ok {path : Path} (read : ofFile surroundings path = .ok config) :
    ∃ text made, surroundings.readText path = .ok text ∧
      ofText surroundings.environment text (path.parent?.getD ⟨['.']⟩) = .ok made ∧
      config = { made with source := some path } := by
  unfold ofFile at read
  split at read
  next => contradiction
  next text stored =>
    obtain ⟨made, parsed, same⟩ := bind_eq_ok_iff.mp read
    exact ⟨text, made, stored, parsed, (Except.ok.inj same).symm⟩

theorem found_eq_ok {path : Option Path} (found : Config.found surroundings path = .ok config) :
    (∃ file, (path = some file ∨
        path = none ∧ surroundings.discover? surroundings.directory = some file) ∧
      ofFile surroundings file = .ok config) ∨
    path = none ∧ surroundings.discover? surroundings.directory = none ∧
      config = defaults surroundings.directory.path := by
  unfold Config.found at found
  split at found
  next file =>
    split at found
    next => exact .inl ⟨file, .inl rfl, found⟩
    next => contradiction
  next =>
    split at found
    next file discovered => exact .inl ⟨file, .inr ⟨rfl, discovered⟩, found⟩
    next nowhere => exact .inr ⟨rfl, nowhere, (Except.ok.inj found).symm⟩

theorem load_eq_ok {path : Option Path} {overrides : Overrides}
    (loaded : load surroundings path (some overrides) = .ok config) :
    ∃ found, Config.found surroundings path = .ok found ∧ config = found.override overrides ∧
      config.validate = .ok () := by
  obtain ⟨found, read, checked⟩ := bind_eq_ok_iff.mp loaded
  obtain ⟨valid, rfl⟩ := (check_eq_ok_iff _ _).mp checked
  exact ⟨found, read, rfl, valid⟩

end Workbench.Config
