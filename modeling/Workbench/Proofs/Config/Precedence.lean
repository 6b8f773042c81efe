import Workbench.CommandLine.Run
import Workbench.Proofs.CommandLine.Recorded
import Workbench.Proofs.Config.Decoded
import Workbench.Proofs.Config.Expanded
import Workbench.Proofs.Config.Loading

set_option autoImplicit false

namespace Workbench

open Env (Environment)
open Toml (Entries)

-- A setting is what the command line asks for, or else what the file does, or else its default.
def Settled {α : Type} (line file : Option (α → Prop)) (default value : α) : Prop :=
  ((line.or file).getD (· = default)) value

def given? (option : CommandOption) (settings : List Setting) : Option (List Char) :=
  (valuesOf option settings).head?

namespace Toml.Value

def IsExpanded (environment : Environment) (value : Value) (text : String) : Prop :=
  ∃ written, value.IsText written ∧ ExpandsTo environment written text

def IsPathFrom (base : Path) (value : Value) (path : Path) : Prop :=
  ∃ written, value.IsText written ∧ path = base.join (.ofString written)

def IsPatterns (value : Value) (patterns : Option (List String)) : Prop :=
  ∃ listed, patterns = some listed ∧ value.IsListOf IsText listed

structure IsNode (environment : Environment) (value : Value) (seed : Seed) : Prop where
  token : Settled none ((value.field? 0 "token").map (IsExpanded environment))
    Seed.localNode.token seed.token
  hostname : Settled none ((value.field? 1 "hostname").map (IsExpanded environment))
    Seed.localNode.hostname seed.hostname
  dc : Settled none ((value.field? 2 "dc").map (IsExpanded environment))
    Seed.localNode.dc seed.dc
  ip : Settled none ((value.field? 3 "ip").map (IsExpanded environment))
    Seed.localNode.ip seed.ip
  zone : Settled none ((value.field? 4 "zone").map (IsExpanded environment))
    Seed.localNode.zone seed.zone
  location : Settled none ((value.field? 5 "location").map (IsExpanded environment))
    Seed.localNode.location seed.location

end Toml.Value

open Toml.Value

structure SeedSettings.SettledBy (environment : Environment) (settings : List Setting)
    (entries : Entries) (seed : SeedSettings) : Prop where
  host : Settled ((given? .host settings).map fun written host => host.toList = written)
    ((entries.setting? "seed" 0 "host").map (IsExpanded environment)) "0.0.0.0" seed.host
  port : Settled ((given? .port settings).map SpellsPort)
    ((entries.setting? "seed" 1 "port").map IsPort) 8081 seed.port
  nodes : Settled none
    ((entries.setting? "seed" 2 "nodes").map (IsListOf (IsNode environment)))
    [Seed.localNode] seed.nodes

structure DevServing.SettledBy (environment : Environment) (settings : List Setting)
    (base : Path) (entries : Entries) (serving : DevServing) : Prop where
  host : Settled ((given? .host settings).map fun written host => host.toList = written)
    ((entries.setting? "dev" 0 "host").map (IsExpanded environment)) "127.0.0.1" serving.host
  port : Settled ((given? .port settings).map SpellsPort)
    ((entries.setting? "dev" 1 "port").map IsPort) 8081 serving.port
  files : Settled ((given? .files settings).map fun written path => path.text = written)
    ((entries.setting? "dev" 2 "files").map (IsPathFrom base))
    (base.join (.ofString "app")) serving.files
  baseDir : Settled ((given? .baseDir settings).map fun written path => path.text = written)
    ((entries.setting? "dev" 3 "base_dir").map (IsPathFrom base))
    (base.join (.ofString "app")) serving.baseDir
  openBrowser : Settled (if (.noOpen, none) ∈ settings then some (· = false) else none)
    ((entries.setting? "dev" 5 "open_browser").map IsTruth) true serving.openBrowser
  rewrites : Settled
    (if valuesOf .rewrite settings = [] then none
      else some fun rules => rules.map String.toList = valuesOf .rewrite settings)
    ((entries.setting? "dev" 6 "rewrites").map (IsListOf (IsExpanded environment)))
    [defaultRewrite] serving.rewrites
  reloadEnabled : Settled
    (if (.noLiveReload, none) ∈ settings then some (· = false)
      else (given? .liveReload settings).map fun written truth => truthText truth = written)
    ((entries.setting? "live_reload" 0 "enabled").map IsTruth) true serving.reloadEnabled
  patterns : Settled none ((entries.setting? "live_reload" 1 "watch_patterns").map IsPatterns)
    none serving.patterns
  quiet : Settled none ((entries.setting? "live_reload" 2 "debounce_ms").map IsNumber)
    100 serving.quiet

/-- The document that a configuration comes from and the directory that its paths are relative
to. Without a file there is nothing in it. -/
inductive Surroundings.Document (surroundings : Surroundings) :
    Option Path -> Path -> Entries -> Prop
  | named {path : Path} {text : String} {entries : Entries}
      (read : surroundings.readText path = .ok text)
      (parsed : Toml.parse? text.toList = some entries) :
      Document surroundings (some path) (path.parent?.getD ⟨['.']⟩) entries
  | discovered {path : Path} {text : String} {entries : Entries}
      (found : surroundings.discover? surroundings.directory = some path)
      (read : surroundings.readText path = .ok text)
      (parsed : Toml.parse? text.toList = some entries) :
      Document surroundings none (path.parent?.getD ⟨['.']⟩) entries
  | absent (undiscovered : surroundings.discover? surroundings.directory = none) :
      Document surroundings none surroundings.directory.path []

section

variable {α β : Type} {file : Option (α → Prop)} {default value : α}

theorem settled_of_elim {decode : Toml.Decoder β} {reads : Toml.Value → α → Prop}
    {value? : Option Toml.Value} {fallback raw : β}
    (read : value?.elim (some fallback) decode = some raw)
    (absent : raw = fallback → value = default)
    (present : ∀ written, decode written = some raw → reads written value) :
    Settled none (value?.map reads) default value := by
  cases value? with
  | none => exact absent (Option.some.inj read).symm
  | some written => exact present written read

theorem Settled.override {line : Option (α → Prop)} {given : Option α}
    (settled : Settled none file default value)
    (asked : ∀ new, given = some new → ∃ asks, line = some asks ∧ asks new)
    (silent : given = none → line = none) : Settled line file default (given.getD value) := by
  cases given with
  | none =>
      rw [silent rfl]
      exact settled
  | some new =>
      obtain ⟨asks, rfl, holds⟩ := asked new rfl
      exact holds

theorem Settled.verbatim {given : Option α} {written : Option (List Char)}
    (text : α → List Char) (settled : Settled none file default value)
    (same : written = given.map text) :
    Settled (written.map fun written value => text value = written) file default
      (given.getD value) := by
  subst same
  refine settled.override ?_ ?_
  · rintro new rfl
    exact ⟨_, rfl, rfl⟩
  · rintro rfl
    rfl

end

variable {environment : Environment}

theorem settled_text {value? : Option Toml.Value} {default raw text : String}
    (read : value?.elim (some default) Toml.decodeText = some raw)
    (expands : ExpandsTo environment raw text) (plain : Env.hasBrace default.toList = false) :
    Settled none (value?.map (IsExpanded environment)) default text := by
  refine settled_of_elim read ?_ fun written decoded => ?_
  · rintro rfl
    exact expandsTo_of_no_brace plain expands
  · exact ⟨raw, Toml.isText_of_decode decoded, expands⟩

theorem isNode_of_readFrom {value : Toml.Value} {raw seed : Seed}
    (read : raw.ReadFrom value.field?) (expands : raw.ExpandsTo environment seed) :
    value.IsNode environment seed where
  token := settled_text read.token expands.token (by decide)
  hostname := settled_text read.hostname expands.hostname (by decide)
  dc := settled_text read.dc expands.dc (by decide)
  ip := settled_text read.ip expands.ip (by decide)
  zone := settled_text read.zone expands.zone (by decide)
  location := settled_text read.location expands.location (by decide)

theorem eq_localNode_of_expandsTo {seed : Seed}
    (expands : Seed.localNode.ExpandsTo environment seed) : seed = Seed.localNode := by
  have token := expandsTo_of_no_brace (by decide) expands.token
  have hostname := expandsTo_of_no_brace (by decide) expands.hostname
  have dc := expandsTo_of_no_brace (by decide) expands.dc
  have ip := expandsTo_of_no_brace (by decide) expands.ip
  have zone := expandsTo_of_no_brace (by decide) expands.zone
  have location := expandsTo_of_no_brace (by decide) expands.location
  cases seed
  simp_all

theorem settled_nodes {value? : Option Toml.Value} {raws nodes : List Seed}
    (read : value?.elim (some [Seed.localNode]) (Toml.decodeList Seed.decode) = some raws)
    (expands : List.Forall₂ (Seed.ExpandsTo environment) raws nodes) :
    Settled none (value?.map (IsListOf (IsNode environment))) [Seed.localNode] nodes := by
  refine settled_of_elim read ?_ fun written decoded => ?_
  · rintro rfl
    obtain _ | ⟨one, alone⟩ := expands
    cases alone
    rw [eq_localNode_of_expandsTo one]
  · obtain ⟨ofTables, items, same, all⟩ := Toml.isListOf_of_decode decoded
    refine ⟨ofTables, items, same, forall₂_through (fun item raw seed decoded expands => ?_) all
      expands⟩
    exact isNode_of_readFrom (Seed.readFrom_of_decode decoded) expands

theorem settled_rewrites {value? : Option Toml.Value} {raws rewrites : List String}
    (read : value?.elim (some [defaultRewrite]) (Toml.decodeList Toml.decodeText) = some raws)
    (expands : List.Forall₂ (ExpandsTo environment) raws rewrites) :
    Settled none (value?.map (IsListOf (IsExpanded environment))) [defaultRewrite] rewrites := by
  refine settled_of_elim read ?_ fun written decoded => ?_
  · rintro rfl
    obtain _ | ⟨one, alone⟩ := expands
    cases alone
    rw [expandsTo_of_no_brace (by decide) one]
  · obtain ⟨ofTables, items, same, all⟩ := Toml.isListOf_of_decode decoded
    refine ⟨ofTables, items, same, forall₂_through (fun item raw text decoded expands => ?_) all
      expands⟩
    exact ⟨raw, Toml.isText_of_decode decoded, expands⟩

theorem settled_path {value? : Option Toml.Value} {raw : Option String} (base : Path)
    (read : value?.elim (some none) (fun value => (Toml.decodeText value).map some) = some raw) :
    Settled none (value?.map (IsPathFrom base)) (base.join (.ofString "app"))
      (base.join (.ofString (raw.getD defaultDirectory))) := by
  refine settled_of_elim read ?_ fun written decoded => ?_
  · rintro rfl
    rfl
  · obtain ⟨text, found, rfl⟩ := Option.map_eq_some_iff.mp decoded
    exact ⟨text, Toml.isText_of_decode found, rfl⟩

section

variable {entries : Entries} {file expanded : ConfigFile}

theorem SeedSettings.settledBy_file (read : file.ReadFrom entries)
    (expands : file.ExpandsTo environment expanded) :
    expanded.seed.SettledBy environment [] entries where
  host := settled_text read.seed.host expands.seedHost (by decide)
  port := by
    rw [expands.others]
    exact settled_of_elim read.seed.port id fun _ => Toml.isPort_of_decode
  nodes := settled_nodes read.seed.nodes expands.nodes

theorem DevServing.settledBy_file (base : Path) (read : file.ReadFrom entries)
    (expands : file.ExpandsTo environment expanded) :
    (DevServing.ofConfig (expanded.resolve base)).SettledBy environment [] base entries where
  host := settled_text read.dev.host expands.devHost (by decide)
  port := by
    rw [expands.others]
    exact settled_of_elim read.dev.port id fun _ => Toml.isPort_of_decode
  files := by
    rw [expands.others]
    exact settled_path base read.dev.files
  baseDir := by
    rw [expands.others]
    exact settled_path base read.dev.baseDir
  openBrowser := by
    rw [expands.others]
    exact settled_of_elim read.dev.openBrowser id fun _ => Toml.isTruth_of_decode
  rewrites := settled_rewrites read.dev.rewrites expands.rewrites
  reloadEnabled := by
    rw [expands.others]
    exact settled_of_elim read.reload.enabled id fun _ => Toml.isTruth_of_decode
  patterns := by
    rw [expands.others]
    refine settled_of_elim read.reload.patterns id fun written decoded => ?_
    obtain ⟨listed, decoded, same⟩ := Option.map_eq_some_iff.mp decoded
    exact ⟨listed, same.symm,
      (Toml.isListOf_of_decode decoded).imp fun _ _ => Toml.isText_of_decode⟩
  quiet := by
    rw [expands.others]
    exact settled_of_elim read.reload.quiet id fun _ decoded =>
      (Toml.isNumber_of_decode decoded).1

end

theorem expandsTo_self {text : String} (plain : Env.hasBrace text.toList = false) :
    ExpandsTo environment text text := by
  rw [ExpandsTo, Env.expand, plain]
  rfl

theorem ConfigFile.expandsTo_default : ConfigFile.ExpandsTo environment {} {} where
  seedHost := expandsTo_self (by decide)
  nodes :=
    .cons
      { token := expandsTo_self (by decide)
        hostname := expandsTo_self (by decide)
        dc := expandsTo_self (by decide)
        ip := expandsTo_self (by decide)
        zone := expandsTo_self (by decide)
        location := expandsTo_self (by decide) }
      .nil
  devHost := expandsTo_self (by decide)
  rewrites := .cons (expandsTo_self (by decide)) .nil
  others := rfl

theorem settledBy_of_ofFile {surroundings : Surroundings} {path : Path} {config : Config}
    (read : Config.ofFile surroundings path = .ok config) :
    ∃ text entries, surroundings.readText path = .ok text ∧
      Toml.parse? text.toList = some entries ∧
      config.seed.SettledBy surroundings.environment [] entries ∧
      (DevServing.ofConfig config).SettledBy surroundings.environment []
        (path.parent?.getD ⟨['.']⟩) entries := by
  obtain ⟨text, made, stored, decoded, rfl⟩ := Config.ofFile_eq_ok read
  obtain ⟨file, expanded, parsed, done, rfl, -⟩ := Config.ofText_eq_ok decoded
  obtain ⟨entries, document, read⟩ := ConfigFile.readFrom_of_parse? parsed
  have expands := (ConfigFile.expand_eq_ok_iff _ _).mp done
  exact ⟨text, entries, stored, document, SeedSettings.settledBy_file read expands,
    DevServing.settledBy_file _ read expands⟩

theorem settledBy_of_found {surroundings : Surroundings} {path : Option Path} {config : Config}
    (found : Config.found surroundings path = .ok config) :
    ∃ base entries, surroundings.Document path base entries ∧
      config.seed.SettledBy surroundings.environment [] entries ∧
      (DevServing.ofConfig config).SettledBy surroundings.environment [] base entries := by
  rcases Config.found_eq_ok found with ⟨file, origin, read⟩ | ⟨rfl, nowhere, rfl⟩
  · obtain ⟨text, entries, stored, parsed, seed, dev⟩ := settledBy_of_ofFile read
    refine ⟨_, entries, ?_, seed, dev⟩
    rcases origin with rfl | ⟨rfl, discovered⟩
    · exact .named stored parsed
    · exact .discovered discovered stored parsed
  · have read := ConfigFile.readFrom_nil
    have expands : ConfigFile.ExpandsTo surroundings.environment {} {} :=
      ConfigFile.expandsTo_default
    exact ⟨_, [], .absent nowhere, SeedSettings.settledBy_file read expands,
      DevServing.settledBy_file surroundings.directory.path read expands⟩

theorem given?_of_values {α : Type} {option : CommandOption} {settings : List Setting}
    {held : Option α} {text : α → List Char}
    (same : valuesOf option settings = held.toList.map text) :
    given? option settings = held.map text := by
  rw [given?, same]
  cases held <;> rfl

section

variable {settings : List Setting} {arguments : Arguments}
  (records : Arguments.Records settings arguments)

include records

theorem Settled.port {file : Option (UInt16 → Prop)} {default value : UInt16}
    (settled : Settled none file default value) :
    Settled ((given? .port settings).map SpellsPort) file default
      (arguments.port.getD value) := by
  have ports := records.port
  unfold given?
  generalize valuesOf .port settings = written at ports
  refine settled.override ?_ ?_
  · intro new given
    rw [given] at ports
    obtain _ | ⟨spelled, _⟩ := ports
    exact ⟨_, rfl, spelled⟩
  · intro unset
    rw [unset] at ports
    cases ports
    rfl

theorem SeedSettings.SettledBy.override {entries : Entries} {config : Config}
    (settled : config.seed.SettledBy environment [] entries) :
    (config.override arguments.seedOverrides).seed.SettledBy environment settings entries where
  host := settled.host.verbatim String.toList (given?_of_values records.host)
  port := settled.port.port records
  nodes := settled.nodes

theorem DevServing.SettledBy.override {base : Path} {entries : Entries} {config : Config}
    (settled : (DevServing.ofConfig config).SettledBy environment [] base entries) :
    (DevServing.ofConfig (config.override arguments.devOverrides)).SettledBy environment settings
      base entries where
  host := settled.host.verbatim String.toList (given?_of_values records.host)
  port := settled.port.port records
  files := settled.files.verbatim Path.text (given?_of_values records.files)
  baseDir := settled.baseDir.verbatim Path.text (given?_of_values records.baseDir)
  openBrowser := by
    refine settled.openBrowser.override ?_ ?_
    all_goals
      simp only [← records.noOpen, Arguments.devOverrides]
      cases arguments.noOpen <;> simp
  rewrites := by
    refine settled.rewrites.override ?_ ?_
    all_goals
      rw [records.rewrites]
      simp only [Arguments.devOverrides]
      cases arguments.rewrites <;> simp
  reloadEnabled := by
    refine settled.reloadEnabled.override ?_ ?_
    all_goals
      simp only [← records.noLiveReload, Arguments.devOverrides, Arguments.reloadEnabled,
        given?_of_values records.liveReload]
      cases arguments.noLiveReload <;> cases arguments.liveReload <;> simp
  patterns := settled.patterns
  quiet := settled.quiet

end

structure Config.DiffersOnlyBy (first second : Overrides) (left right : Config) : Prop where
  seedHost : first.seedHost = second.seedHost → left.seed.host = right.seed.host
  seedPort : first.seedPort = second.seedPort → left.seed.port = right.seed.port
  nodes : left.seed.nodes = right.seed.nodes
  devHost : first.devHost = second.devHost → left.dev.host = right.dev.host
  devPort : first.devPort = second.devPort → left.dev.port = right.dev.port
  files : first.files = second.files → left.dev.files = right.dev.files
  baseDir : first.baseDir = second.baseDir → left.dev.baseDir = right.dev.baseDir
  logPrefix : left.dev.logPrefix = right.dev.logPrefix
  openBrowser : first.openBrowser = second.openBrowser →
    left.dev.openBrowser = right.dev.openBrowser
  rewrites : first.rewrites = second.rewrites → left.dev.rewrites = right.dev.rewrites
  enabled : first.reloadEnabled = second.reloadEnabled →
    left.reload.enabled = right.reload.enabled
  patterns : left.reload.patterns = right.reload.patterns
  quiet : left.reload.quiet = right.reload.quiet
  source : left.source = right.source

theorem differsOnlyBy_override (config : Config) (first second : Overrides) :
    Config.DiffersOnlyBy first second (config.override first) (config.override second) := by
  constructor <;> intros <;> simp [Config.override, *]

def settingsFor (own command : Command) (settings : List Setting) : List Setting :=
  if own = command then settings else []

/-- Every setting that is served is the one of the command line, or else that of the document, or
else its default; and where the overrides agree, nothing that is loaded differs. -/
theorem served_settings_take_precedence {surroundings : Surroundings} {words : List (List Char)}
    {invocation : Invocation} {config : Config}
    (accepted : Invocation.parse surroundings.environment words = .ok invocation)
    (loaded : Config.load surroundings invocation.arguments.config (some invocation.overrides) =
      .ok config) :
    (∃ rest, words = invocation.command.name.toList :: rest ∧
      (∃ settings, Spelled invocation.command.options rest settings) ∧
      ∀ settings, Spelled invocation.command.options rest settings →
        ∃ base entries,
          surroundings.Document (((given? .config settings).or
            (surroundings.environment "ND_CONFIG".toList)).map Path.mk) base entries ∧
          config.seed.SettledBy surroundings.environment
            (settingsFor .seed invocation.command settings) entries ∧
          (DevServing.ofConfig config).SettledBy surroundings.environment
            (settingsFor .dev invocation.command settings) base entries) ∧
    ∀ overrides other,
      Config.load surroundings invocation.arguments.config (some overrides) = .ok other →
      Config.DiffersOnlyBy invocation.overrides overrides config other := by
  obtain ⟨found, read, rfl, -⟩ := Config.load_eq_ok loaded
  constructor
  · obtain ⟨rest, split, spelled, recorded⟩ := Invocation.records_of_parse accepted
    refine ⟨rest, split, spelled, fun settings spelled => ?_⟩
    obtain ⟨arguments, records, -, same⟩ := recorded settings spelled
    obtain ⟨base, entries, document, seed, dev⟩ := settledBy_of_found read
    obtain ⟨command, completed⟩ := invocation
    obtain rfl : completed = _ := same
    refine ⟨base, entries, ?_, ?_⟩
    · have kept : Path.mk ∘ Path.text = id := rfl
      rw [Option.map_or, given?_of_values records.config, Option.map_map, kept, Option.map_id]
      exact document
    · cases command with
      | seed => exact ⟨seed.override records, dev⟩
      | dev => exact ⟨seed, dev.override records⟩
  · intro overrides other loaded
    obtain ⟨again, readAgain, rfl, -⟩ := Config.load_eq_ok loaded
    obtain rfl := Except.ok.inj (read.symm.trans readAgain)
    exact differsOnlyBy_override found invocation.overrides overrides

theorem line_goes_before_file :
    let file := "[dev]\nhost = \"$\x7bHOST\x7d\"\nport = 3000\nfiles = \"ui\"\n"
    let surroundings : Surroundings :=
      { tree := FileTree.addFile {} ["nd.toml".toList] file.toUTF8
        directory := []
        environment := fun name => if name = "HOST".toList then some "::1".toList else none }
    let words := ["dev", "-p4000", "--rewrite", "^/a - [G]", "--no-open"].map String.toList
    let serving : DevServing :=
      { host := "::1", port := 4000, files := .ofString "/ui", baseDir := .ofString "/app"
        rewrites := ["^/a - [G]"], reloadEnabled := true, patterns := none, quiet := 100
        openBrowser := false }
    let settings : List Setting :=
      [(.port, some "4000".toList), (.rewrite, some "^/a - [G]".toList), (.noOpen, none)]
    ∃ invocation config, Invocation.parse surroundings.environment words = .ok invocation ∧
      Config.load surroundings invocation.arguments.config (some invocation.overrides) =
        .ok config ∧
      DevServing.ofConfig config = serving ∧
      ∃ base entries, surroundings.Document none base entries ∧
        serving.SettledBy surroundings.environment settings base entries := by
  intro file surroundings words serving settings
  let invocation : Invocation :=
    ⟨.dev, { port := some 4000, rewrites := ["^/a - [G]"], noOpen := true }⟩
  let config : Config :=
    { seed := {}
      dev :=
        { host := "::1", port := 4000, files := .ofString "/ui", baseDir := .ofString "/app"
          logPrefix := "NDBench UI - DEV", openBrowser := false, rewrites := ["^/a - [G]"] }
      reload := {}
      source := some (.ofString "/nd.toml") }
  have accepted : Invocation.parse surroundings.environment words = .ok invocation := by
    decide +kernel
  have loaded : Config.load surroundings invocation.arguments.config (some invocation.overrides) =
      .ok config := by
    decide +kernel
  obtain ⟨⟨rest, split, -, settled⟩, -⟩ := served_settings_take_precedence accepted loaded
  obtain rfl := (List.cons.inj split).2
  have spelled : Spelled Command.dev.options _ settings :=
    .letters (by decide) (.attached (by decide) rfl rfl (by decide) (by decide))
      (.apart (by decide) rfl (.inl (by decide)) (.flag (by decide) rfl .done))
  obtain ⟨base, entries, document, -, dev⟩ := settled settings spelled
  exact ⟨invocation, config, accepted, loaded, rfl, base, entries, document, dev⟩

end Workbench
