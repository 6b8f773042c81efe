import Workbench.Config.Decode
import Workbench.Proofs.Success

set_option autoImplicit false

namespace Workbench

namespace Toml

namespace Value

def field? (fields : Value) (index : Nat) (name : String) : Option Value :=
  match fields with
  | .table _ entries => Entries.get? entries name.toList
  | .array _ items => items[index]?
  | _ => none

def IsText (value : Value) (text : String) : Prop :=
  value = .text text.toList

def IsTruth (value : Value) (truth : Bool) : Prop :=
  value = .boolean truth

def IsNumber (value : Value) (number : Nat) : Prop :=
  value = .integer number

def IsPort (value : Value) (port : UInt16) : Prop :=
  value = .integer port.toNat

def IsListOf {α : Type} (reads : Value → α → Prop) (value : Value) (results : List α) : Prop :=
  ∃ ofTables items, value = .array ofTables items ∧ List.Forall₂ reads items results

end Value

def Entries.setting? (entries : Entries) (title : String) (index : Nat) (name : String) :
    Option Value :=
  (entries.get? title.toList).bind (·.field? index name)

theorem isText_of_decode {value : Value} {text : String} (decoded : decodeText value = some text) :
    value.IsText text := by
  unfold decodeText at decoded
  split at decoded
  next => simp [Value.IsText, ← Option.some.inj decoded]
  next => contradiction

theorem isTruth_of_decode {value : Value} {truth : Bool} (decoded : decodeBool value = some truth) :
    value.IsTruth truth := by
  unfold decodeBool at decoded
  split at decoded
  next => rw [← Option.some.inj decoded]; rfl
  next => contradiction

theorem isNumber_of_decode {limit number : Nat} {value : Value}
    (decoded : decodeNat limit value = some number) : value.IsNumber number ∧ number < limit := by
  unfold decodeNat at decoded
  split at decoded
  next =>
    split at decoded
    next small =>
      obtain rfl := Option.some.inj decoded
      exact ⟨rfl, small⟩
    next => contradiction
  next => contradiction

theorem isPort_of_decode {value : Value} {port : UInt16} (decoded : decodePort value = some port) :
    value.IsPort port := by
  obtain ⟨number, found, rfl⟩ := Option.map_eq_some_iff.mp decoded
  obtain ⟨same, small⟩ := isNumber_of_decode found
  rw [Value.IsPort, Nat.toUInt16_eq, UInt16.toNat_ofNat_of_lt' small]
  exact same

theorem isListOf_of_decode {α : Type} {decode : Decoder α} {value : Value} {results : List α}
    (decoded : decodeList decode value = some results) :
    value.IsListOf (fun item result => decode item = some result) results := by
  unfold decodeList at decoded
  split at decoded
  next ofTables items => exact ⟨ofTables, items, rfl, mapM_eq_some_iff.mp decoded⟩
  next => contradiction

theorem Value.IsListOf.imp {α : Type} {reads other : Value → α → Prop} {value : Value}
    {results : List α} (weaker : ∀ item result, reads item result → other item result)
    (said : value.IsListOf reads results) : value.IsListOf other results := by
  obtain ⟨ofTables, items, same, all⟩ := said
  exact ⟨ofTables, items, same, all.imp weaker⟩

section

variable {α : Type} (index : Nat) (name : String) (decode : Decoder α) (default : α)

theorem field_of_decodeSection {value : Value} {fields : Section}
    (decoded : decodeSection value = some fields) :
    fields.field index name decode default =
      (value.field? index name).elim (some default) decode := by
  unfold decodeSection at decoded
  split at decoded
  next =>
    obtain rfl := Option.some.inj decoded
    simp only [Section.field, Value.field?]
    split <;> simp [*]
  next =>
    obtain rfl := Option.some.inj decoded
    simp only [Section.field, Value.field?]
    split <;> simp [*]
  next => contradiction

theorem field_named (entries : Entries) :
    (Section.named entries).field index name decode default =
      (entries.get? name.toList).elim (some default) decode := by
  simp only [Section.field]
  split <;> simp [*]

end

end Toml

open Toml

abbrev Lookup := Nat -> String -> Option Value

structure Seed.ReadFrom (lookup : Lookup) (seed : Seed) : Prop where
  token : (lookup 0 "token").elim (some localNode.token) decodeText = some seed.token
  hostname : (lookup 1 "hostname").elim (some localNode.hostname) decodeText = some seed.hostname
  dc : (lookup 2 "dc").elim (some localNode.dc) decodeText = some seed.dc
  ip : (lookup 3 "ip").elim (some localNode.ip) decodeText = some seed.ip
  zone : (lookup 4 "zone").elim (some localNode.zone) decodeText = some seed.zone
  location : (lookup 5 "location").elim (some localNode.location) decodeText = some seed.location

structure SeedSettings.ReadFrom (lookup : Lookup) (seed : SeedSettings) : Prop where
  host : (lookup 0 "host").elim (some "0.0.0.0") decodeText = some seed.host
  port : (lookup 1 "port").elim (some 8081) decodePort = some seed.port
  nodes : (lookup 2 "nodes").elim (some [Seed.localNode]) (decodeList Seed.decode) =
    some seed.nodes

structure DevSection.ReadFrom (lookup : Lookup) (dev : DevSection) : Prop where
  host : (lookup 0 "host").elim (some "127.0.0.1") decodeText = some dev.host
  port : (lookup 1 "port").elim (some 8081) decodePort = some dev.port
  files : (lookup 2 "files").elim (some none) (fun value => (decodeText value).map some) =
    some dev.files
  baseDir : (lookup 3 "base_dir").elim (some none) (fun value => (decodeText value).map some) =
    some dev.baseDir
  openBrowser : (lookup 5 "open_browser").elim (some true) decodeBool = some dev.openBrowser
  rewrites : (lookup 6 "rewrites").elim (some [defaultRewrite]) (decodeList decodeText) =
    some dev.rewrites

structure ReloadSettings.ReadFrom (lookup : Lookup) (reload : ReloadSettings) : Prop where
  enabled : (lookup 0 "enabled").elim (some true) decodeBool = some reload.enabled
  patterns : (lookup 1 "watch_patterns").elim (some none)
    (fun value => (decodeList decodeText value).map some) = some reload.patterns
  quiet : (lookup 2 "debounce_ms").elim (some 100) (decodeNat UInt64.size) = some reload.quiet

structure ConfigFile.ReadFrom (entries : Entries) (file : ConfigFile) : Prop where
  seed : file.seed.ReadFrom (entries.setting? "seed")
  dev : file.dev.ReadFrom (entries.setting? "dev")
  reload : file.reload.ReadFrom (entries.setting? "live_reload")

theorem Seed.readFrom_of_decode {value : Value} {seed : Seed}
    (decoded : Seed.decode value = some seed) : seed.ReadFrom value.field? := by
  obtain ⟨fields, isSection, decoded⟩ := Option.bind_eq_some_iff.mp decoded
  simp only [field_of_decodeSection _ _ _ _ isSection, Option.bind_eq_bind,
    Option.bind_eq_some_iff] at decoded
  obtain ⟨_, token, _, hostname, _, dc, _, ip, _, zone, _, location, same⟩ := decoded
  obtain rfl := Option.some.inj same
  exact ⟨token, hostname, dc, ip, zone, location⟩

theorem SeedSettings.readFrom_of_decode {value : Value} {seed : SeedSettings}
    (decoded : SeedSettings.decode value = some seed) : seed.ReadFrom value.field? := by
  obtain ⟨fields, isSection, decoded⟩ := Option.bind_eq_some_iff.mp decoded
  simp only [field_of_decodeSection _ _ _ _ isSection, Option.bind_eq_bind,
    Option.bind_eq_some_iff] at decoded
  obtain ⟨_, host, _, port, _, nodes, same⟩ := decoded
  obtain rfl := Option.some.inj same
  exact ⟨host, port, nodes⟩

theorem DevSection.readFrom_of_decode {value : Value} {dev : DevSection}
    (decoded : DevSection.decode value = some dev) : dev.ReadFrom value.field? := by
  obtain ⟨fields, isSection, decoded⟩ := Option.bind_eq_some_iff.mp decoded
  simp only [field_of_decodeSection _ _ _ _ isSection, Option.bind_eq_bind,
    Option.bind_eq_some_iff] at decoded
  obtain ⟨_, host, _, port, _, files, _, baseDir, _, _, _, openBrowser, _, rewrites, same⟩ :=
    decoded
  obtain rfl := Option.some.inj same
  exact ⟨host, port, files, baseDir, openBrowser, rewrites⟩

theorem ReloadSettings.readFrom_of_decode {value : Value} {reload : ReloadSettings}
    (decoded : ReloadSettings.decode value = some reload) : reload.ReadFrom value.field? := by
  obtain ⟨fields, isSection, decoded⟩ := Option.bind_eq_some_iff.mp decoded
  simp only [field_of_decodeSection _ _ _ _ isSection, Option.bind_eq_bind,
    Option.bind_eq_some_iff] at decoded
  obtain ⟨_, enabled, _, patterns, _, quiet, same⟩ := decoded
  obtain rfl := Option.some.inj same
  exact ⟨enabled, patterns, quiet⟩

theorem readFrom_setting? {α : Type} {readFrom : Lookup → α → Prop} {decode : Decoder α}
    {default result : α} {entries : Entries} {name : String}
    (absent : readFrom (fun _ _ => none) default)
    (present : ∀ {value result}, decode value = some result → readFrom value.field? result)
    (decoded : (entries.get? name.toList).elim (some default) decode = some result) :
    readFrom (entries.setting? name) result := by
  unfold Entries.setting?
  cases found : entries.get? name.toList with
  | none =>
      rw [found] at decoded
      obtain rfl := Option.some.inj decoded
      exact absent
  | some value =>
      rw [found] at decoded
      exact present decoded

theorem ConfigFile.readFrom_nil : ConfigFile.ReadFrom [] {} :=
  ⟨⟨rfl, rfl, rfl⟩, ⟨rfl, rfl, rfl, rfl, rfl, rfl⟩, ⟨rfl, rfl, rfl⟩⟩

theorem ConfigFile.readFrom_of_parse? {text : String} {file : ConfigFile}
    (parsed : ConfigFile.parse? text = some file) :
    ∃ entries, Toml.parse? text.toList = some entries ∧ file.ReadFrom entries := by
  obtain ⟨entries, found, decoded⟩ := Option.bind_eq_some_iff.mp parsed
  simp only [field_named, Option.bind_eq_bind, Option.bind_eq_some_iff] at decoded
  obtain ⟨_, seed, _, dev, _, reload, same⟩ := decoded
  obtain rfl := Option.some.inj same
  have nothing := readFrom_nil
  exact ⟨entries, found, readFrom_setting? nothing.seed SeedSettings.readFrom_of_decode seed,
    readFrom_setting? nothing.dev DevSection.readFrom_of_decode dev,
    readFrom_setting? nothing.reload ReloadSettings.readFrom_of_decode reload⟩

end Workbench
