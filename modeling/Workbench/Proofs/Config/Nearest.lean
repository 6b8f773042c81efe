import Workbench.Proofs.Config.Overridden
import Workbench.Proofs.Files.Above

set_option autoImplicit false

namespace Workbench

def Place.configFile (place : Place) : Place :=
  place ++ [configName.text]

namespace Place

variable {place : Place}

theorem isName_configName : IsName configName.text := by decide +kernel

theorem path_configFile (named : place.Named) :
    place.configFile.path = place.path.join configName :=
  path_concat named isName_configName

theorem parent?_configFile (named : place.Named) :
    (place.path.join configName).parent? = some place.path := by
  rw [← path_configFile named]
  exact parent?_path_concat named isName_configName

end Place

namespace FileTree

variable {tree : FileTree} {start place home other front : Place} {last : List Char}

/-- The deepest directory, from a place up to the root, with something of the usual name in it. -/
structure Nearest (tree : FileTree) (place home : Place) : Prop where
  above : home <+: place
  has : tree.has home.configFile = true
  deepest : ∀ other : Place, other <+: place → tree.has other.configFile = true → other <+: home

instance : Decidable (tree.Nearest place home) :=
  decidable_of_iff (home <+: place ∧ tree.has home.configFile = true ∧
      ∀ other ∈ place.inits, tree.has (Place.configFile other) = true → other <+: home)
    ⟨fun ⟨above, has, deepest⟩ =>
        ⟨above, has, fun other begins => deepest other ((List.mem_inits other place).mpr begins)⟩,
      fun ⟨above, has, deepest⟩ =>
        ⟨above, has, fun other among => deepest other ((List.mem_inits other place).mp among)⟩⟩

theorem Nearest.not_absent (nearest : tree.Nearest place home) :
    ¬ tree.has home.configFile = false := by
  simp [nearest.has]

theorem Nearest.unique (nearest : tree.Nearest place home) (same : tree.Nearest place other) :
    home = other := by
  have into := same.deepest home nearest.above nearest.has
  have back := nearest.deepest other same.above same.has
  exact into.eq_of_length (into.length_le.antisymm back.length_le)

theorem nearest_iff_of_has (has : tree.has place.configFile = true) :
    tree.Nearest place home ↔ home = place := by
  have here : tree.Nearest place place := ⟨List.prefix_rfl, has, fun _ above _ => above⟩
  constructor
  next => exact fun nearest => nearest.unique here
  next =>
    rintro rfl
    exact here

section
variable (absent : tree.has (Place.configFile (front ++ [last])) = false)
include absent

theorem prefix_of_absent {above : Place} (begins : above <+: front ++ [last])
    (has : tree.has above.configFile = true) : above <+: front := by
  obtain same | before := List.prefix_concat_iff.mp begins
  next => simp [same, absent] at has
  next => exact before

theorem nearest_concat_iff : tree.Nearest (front ++ [last]) home ↔ tree.Nearest front home := by
  have below {above : Place} (begins : above <+: front) : above <+: front ++ [last] :=
    begins.trans (List.prefix_append front [last])
  constructor
  next =>
    intro nearest
    exact ⟨prefix_of_absent absent nearest.above nearest.has, nearest.has,
      fun other above => nearest.deepest other (below above)⟩
  next =>
    intro nearest
    exact ⟨below nearest.above, nearest.has,
      fun other above has => nearest.deepest other (prefix_of_absent absent above has) has⟩

end

theorem not_nearest_nil (absent : tree.has (Place.configFile []) = false) :
    ¬ tree.Nearest [] home := by
  intro nearest
  have root : home = [] := List.prefix_nil.mp nearest.above
  exact nearest.not_absent (root ▸ absent)

theorem exists_nearest {above : Place} (begins : above <+: place)
    (has : tree.has above.configFile = true) : ∃ home, tree.Nearest place home := by
  induction place using List.reverseRecOn with
  | nil =>
      obtain rfl := List.prefix_nil.mp begins
      exact ⟨[], (nearest_iff_of_has has).mpr rfl⟩
  | append_singleton front last ih =>
      cases here : tree.has (Place.configFile (front ++ [last])) with
      | true => exact ⟨front ++ [last], (nearest_iff_of_has here).mpr rfl⟩
      | false =>
          obtain ⟨home, nearest⟩ := ih (prefix_of_absent here begins has)
          exact ⟨home, (nearest_concat_iff here).mpr nearest⟩

theorem Stands.resolve_configFile (here : tree.Stands start) (stands : tree.Stands home) :
    tree.resolve start (home.path.join configName) =
      match tree.find? home.configFile with
      | none => .error .noEntry
      | some node => .ok (home.configFile, node) := by
  rw [← Place.path_configFile stands.named]
  exact here.resolve_child stands Place.isName_configName (by decide +kernel)

theorem Stands.leadsSomewhere_configFile (here : tree.Stands start) (stands : tree.Stands home) :
    tree.leadsSomewhere start (home.path.join configName) = tree.has home.configFile := by
  rw [leadsSomewhere, here.resolve_configFile stands, has]
  cases tree.find? home.configFile <;> rfl

end FileTree

namespace Surroundings

variable {surroundings other : Surroundings} {place home front : Place} {last : List Char}
  {directory path : Path} {turns : Nat} {outcome : Option Path}

section
variable (stands : surroundings.tree.Stands place)
include stands

theorem discover?_of_has (has : surroundings.tree.has place.configFile = true) :
    surroundings.discover? place = some (place.path.join configName) := by
  have leads := (FileTree.stands_root _).leadsSomewhere_configFile stands
  rw [discover?]
  simp only [leads, has, if_true]

theorem discover?_of_absent (absent : surroundings.tree.has place.configFile = false) :
    surroundings.discover? place =
      if place.isEmpty then none else surroundings.discover? place.dropLast := by
  have leads := (FileTree.stands_root _).leadsSomewhere_configFile stands
  rw [discover?]
  simp only [leads, absent, Bool.false_eq_true, if_false]

end

theorem discover?_concat (stands : surroundings.tree.Stands (front ++ [last]))
    (absent : surroundings.tree.has (Place.configFile (front ++ [last])) = false) :
    surroundings.discover? (front ++ [last]) = surroundings.discover? front := by
  simp [discover?_of_absent stands absent]

theorem discover?_eq_some_iff (stands : surroundings.tree.Stands place) :
    surroundings.discover? place = some path ↔
      ∃ home, surroundings.tree.Nearest place home ∧ path = home.path.join configName := by
  have here {place : Place} (stands : surroundings.tree.Stands place)
      (has : surroundings.tree.has place.configFile = true) :
      surroundings.discover? place = some path ↔
        ∃ home, surroundings.tree.Nearest place home ∧ path = home.path.join configName := by
    simp [discover?_of_has stands has, FileTree.nearest_iff_of_has has, eq_comm]
  -- From the place itself up to the root, as the directories are tried.
  induction place using List.reverseRecOn with
  | nil =>
      cases has : surroundings.tree.has (Place.configFile []) with
      | true => exact here stands has
      | false => simp [discover?_of_absent stands has, FileTree.not_nearest_nil has]
  | append_singleton front last ih =>
      cases has : surroundings.tree.has (Place.configFile (front ++ [last])) with
      | true => exact here stands has
      | false =>
          simp only [discover?_concat stands has, FileTree.nearest_concat_iff has]
          exact ih (stands.above (List.prefix_append front [last]))

/-- The way up, from the path of a directory to that of its parent. It is over at the first
directory with something of the usual name in it, or else at the root, after some turns. -/
inductive Climb (surroundings : Surroundings) : Path -> Nat -> Option Path -> Prop
  | found {directory : Path}
      (there : surroundings.tree.leadsSomewhere surroundings.directory
        (directory.join configName) = true) :
      Climb surroundings directory 1 (some (directory.join configName))
  | ended {directory : Path}
      (absent : surroundings.tree.leadsSomewhere surroundings.directory
        (directory.join configName) = false)
      (root : directory.parent? = none) :
      Climb surroundings directory 1 none
  | up {directory above : Path} {turns : Nat} {outcome : Option Path}
      (absent : surroundings.tree.leadsSomewhere surroundings.directory
        (directory.join configName) = false)
      (parent : directory.parent? = some above)
      (behind : Climb surroundings above turns outcome) :
      Climb surroundings directory (turns + 1) outcome

theorem Climb.unique {others : Nat} {other : Option Path}
    (climb : surroundings.Climb directory turns outcome)
    (again : surroundings.Climb directory others other) : others = turns ∧ other = outcome := by
  induction climb generalizing others other with
  | found there => cases again <;> simp_all
  | ended absent root => cases again <;> simp_all
  | up absent parent behind ih =>
      cases again with
      | found there => simp [absent] at there
      | ended _ root => simp [parent] at root
      | up _ same beyond =>
          obtain rfl := Option.some.inj (parent.symm.trans same)
          obtain ⟨rfl, rfl⟩ := ih beyond
          exact ⟨rfl, rfl⟩

theorem climb_discover? (here : surroundings.tree.Stands surroundings.directory)
    (stands : surroundings.tree.Stands place) :
    ∃ turns ≤ place.length + 1,
      surroundings.Climb place.path turns (surroundings.discover? place) := by
  have leads {place : Place} (stands : surroundings.tree.Stands place) :=
    here.leadsSomewhere_configFile stands
  have found {place : Place} (stands : surroundings.tree.Stands place)
      (has : surroundings.tree.has place.configFile = true) :
      surroundings.Climb place.path 1 (surroundings.discover? place) := by
    rw [discover?_of_has stands has]
    exact .found ((leads stands).trans has)
  induction place using List.reverseRecOn with
  | nil =>
      refine ⟨1, Nat.le_refl 1, ?_⟩
      cases has : surroundings.tree.has (Place.configFile []) with
      | true => exact found stands has
      | false =>
          rw [discover?_of_absent stands has]
          exact .ended ((leads stands).trans has) Place.parent?_path_nil
  | append_singleton front last ih =>
      cases has : surroundings.tree.has (Place.configFile (front ++ [last])) with
      | true => exact ⟨1, Nat.le_add_left 1 _, found stands has⟩
      | false =>
          have above := stands.above (List.prefix_append front [last])
          have valid := stands.named last List.mem_concat_self
          obtain ⟨turns, bound, climb⟩ := ih above
          have parent := Place.parent?_path_concat above.named valid
          rw [discover?_concat stands has, List.length_append]
          exact ⟨turns + 1, Nat.succ_le_succ bound, .up ((leads stands).trans has) parent climb⟩

end Surroundings

namespace Config

variable {surroundings other : Surroundings} {home : Place}

section
variable (stands : surroundings.tree.Stands surroundings.directory)
include stands

theorem found_of_nearest (nearest : surroundings.tree.Nearest surroundings.directory home) :
    found surroundings none = ofFile surroundings (home.path.join configName) ∧
      found surroundings (some (home.path.join configName)) =
        ofFile surroundings (home.path.join configName) := by
  have discovered := (Surroundings.discover?_eq_some_iff stands).mpr ⟨home, nearest, rfl⟩
  have leads := stands.leadsSomewhere_configFile (stands.above nearest.above)
  constructor
  next => simp only [found, discovered]
  next => simp only [found, leads, nearest.has, if_true]

theorem found_of_absent (absent : ∀ above : Place, above <+: surroundings.directory →
      surroundings.tree.has above.configFile = false) :
    found surroundings none = .ok (defaults surroundings.directory.path) := by
  have nowhere : surroundings.discover? surroundings.directory = none := by
    rw [Option.eq_none_iff_forall_ne_some]
    intro path discovered
    obtain ⟨home, nearest, -⟩ := (Surroundings.discover?_eq_some_iff stands).mp discovered
    exact nearest.not_absent (absent home nearest.above)
  simp only [found, nowhere]

theorem ofFile_nearest_congr (nearest : surroundings.tree.Nearest surroundings.directory home)
    (others : other.tree.Stands other.directory)
    (too : other.tree.Nearest other.directory home)
    (same : other.tree.find? home.configFile = surroundings.tree.find? home.configFile)
    (environment : other.environment = surroundings.environment) :
    ofFile other (home.path.join configName) =
      ofFile surroundings (home.path.join configName) := by
  have here := stands.resolve_configFile (stands.above nearest.above)
  have there := others.resolve_configFile (others.above too.above)
  simp only [ofFile, Surroundings.readText, here, there, same, environment]

end

theorem load_congr {path otherPath : Option Path}
    (same : found surroundings path = found other otherPath) (overrides : Option Overrides) :
    load surroundings path overrides = load other otherPath overrides := by
  rw [load, load, same]

theorem applied_defaults (base : Path) (overrides : Option Overrides) :
    (defaults base).applied overrides = ((defaults base).overridden overrides).check := by
  cases overrides with
  | none => exact ((check_eq_ok_iff_valid _ _).mpr ⟨rfl, valid_defaults base⟩).symm
  | some overrides => rfl

theorem load_of_absent (stands : surroundings.tree.Stands surroundings.directory)
    (absent : ∀ above : Place, above <+: surroundings.directory →
      surroundings.tree.has above.configFile = false) (overrides : Option Overrides) :
    load surroundings none overrides =
      ((defaults surroundings.directory.path).overridden overrides).check := by
  rw [load, found_of_absent stands absent]
  exact applied_defaults surroundings.directory.path overrides

end Config

/-- Without a named file, loading from a directory that exists is over after one look into each of
the directories up to the root at most. If something has the usual name in one of them, there is
a nearest one, and what is loaded is what its file would give if it were named, down to where
directories are and to the error; nothing else of the tree matters. Otherwise it is the default
configuration of the current directory, overridden and checked. -/
theorem unnamed_load_is_load_of_nearest (surroundings : Surroundings)
    (stands : surroundings.tree.Stands surroundings.directory) (overrides : Option Overrides) :
    let tree := surroundings.tree
    let directory := surroundings.directory
    let loaded := Config.load surroundings none overrides
    (∃ turns ≤ directory.length + 1, ∀ others outcome,
      surroundings.Climb directory.path others outcome ↔
        others = turns ∧ outcome = surroundings.discover? directory) ∧
    ((∃ above : Place, above <+: directory ∧ tree.has above.configFile = true) →
      ∃! home, tree.Nearest directory home) ∧
    (∀ home, tree.Nearest directory home →
      let file := home.path.join configName
      loaded = Config.load surroundings (some file) overrides ∧
      file.parent? = some home.path ∧
      (∀ error, Config.ofFile surroundings file = .error error → loaded = .error error) ∧
      ∀ other : Surroundings, other.tree.Stands other.directory →
        other.tree.Nearest other.directory home →
        other.tree.find? home.configFile = tree.find? home.configFile →
        other.environment = surroundings.environment →
        Config.load other none overrides = loaded) ∧
    ((∀ above : Place, above <+: directory → tree.has above.configFile = false) →
      loaded = ((Config.defaults directory.path).overridden overrides).check) := by
  intro tree directory loaded
  refine ⟨?_, ?_, ?_, ?_⟩
  next =>
    obtain ⟨turns, bound, climb⟩ := Surroundings.climb_discover? stands stands
    refine ⟨turns, bound, fun others outcome => ⟨climb.unique, ?_⟩⟩
    rintro ⟨rfl, rfl⟩
    exact climb
  next =>
    intro ⟨above, begins, has⟩
    obtain ⟨home, nearest⟩ := FileTree.exists_nearest begins has
    exact ⟨home, nearest, fun other too => too.unique nearest⟩
  next =>
    intro home nearest file
    obtain ⟨unnamed, named⟩ := Config.found_of_nearest stands nearest
    refine ⟨Config.load_congr (unnamed.trans named.symm) overrides,
      Place.parent?_configFile (stands.above nearest.above).named, ?_, ?_⟩
    next =>
      intro error failed
      exact bind_eq_error_iff.mpr (.inl (unnamed.trans failed))
    next =>
      intro other others too same environment
      have read := Config.ofFile_nearest_congr stands nearest others too same environment
      have there := (Config.found_of_nearest others too).1
      exact Config.load_congr (there.trans (read.trans unnamed.symm)) overrides
  next => exact fun absent => Config.load_of_absent stands absent overrides

def lone : Surroundings where
  tree := FileTree.addDirectories {} ["a".toList, "nd.toml".toList]
  directory := ["a".toList]
  environment := fun _ => none

def nested : Surroundings where
  tree := (lone.tree.addDirectories ["a".toList, "b".toList]).addFile ["nd.toml".toList]
    "[seed]\nport = 7\n".toUTF8
  directory := ["a".toList, "b".toList]
  environment := fun _ => none

theorem nearer_directory_hides_file :
    nested.tree.Stands nested.directory ∧ nested.tree.Nearest nested.directory ["a".toList] ∧
    Config.load nested none none = Config.load nested (some (.ofString "/a/nd.toml")) none ∧
    Config.load nested none none = .error (.unreadable .isDirectory) ∧
    Config.load lone none none = Config.load nested none none := by
  have stands : nested.tree.Stands nested.directory :=
    FileTree.stands_iff.mpr ⟨by decide +kernel, rfl⟩
  have alone : lone.tree.Stands lone.directory :=
    FileTree.stands_iff.mpr ⟨by decide +kernel, rfl⟩
  have nearest : nested.tree.Nearest nested.directory ["a".toList] := by decide +kernel
  have found : lone.tree.Nearest lone.directory ["a".toList] := by decide +kernel
  obtain ⟨loads, -, fails, hidden⟩ :=
    (unnamed_load_is_load_of_nearest nested stands none).2.2.1 _ nearest
  exact ⟨stands, nearest, loads, fails _ (by decide +kernel), hidden lone alone found rfl rfl⟩

end Workbench
