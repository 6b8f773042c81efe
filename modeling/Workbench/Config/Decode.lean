import Workbench.Config.Basic
import Workbench.Toml.Document

set_option autoImplicit false

namespace Workbench

namespace Toml

abbrev Decoder (α : Type) := Value -> Option α

def decodeText : Decoder String
  | .text value => some (String.ofList value)
  | _ => none

def decodeBool : Decoder Bool
  | .boolean value => some value
  | _ => none

def decodeNat (limit : Nat) : Decoder Nat
  | .integer (.ofNat value) => if value < limit then some value else none
  | _ => none

def decodePort : Decoder UInt16 := fun value =>
  (decodeNat UInt16.size value).map Nat.toUInt16

def decodeList {α : Type} (decode : Decoder α) : Decoder (List α)
  | .array _ items => items.mapM decode
  | _ => none

inductive Section
  | named (entries : Entries)
  | ordered (items : List Value)

def decodeSection : Decoder Section
  | .table _ entries => some (.named entries)
  | .array _ items => some (.ordered items)
  | _ => none

def Section.field {α : Type} (fields : Section) (index : Nat) (name : String)
    (decode : Decoder α) (default : α) : Option α :=
  let value :=
    match fields with
    | .named entries => entries.get? name.toList
    | .ordered items => items[index]?
  match value with
  | none => some default
  | some value => decode value

end Toml

open Toml

def Seed.decode : Decoder Seed := fun value => do
  let fields ← decodeSection value
  let default := Seed.localNode
  pure {
    token := ← fields.field 0 "token" decodeText default.token
    hostname := ← fields.field 1 "hostname" decodeText default.hostname
    dc := ← fields.field 2 "dc" decodeText default.dc
    ip := ← fields.field 3 "ip" decodeText default.ip
    zone := ← fields.field 4 "zone" decodeText default.zone
    location := ← fields.field 5 "location" decodeText default.location }

def SeedSettings.decode : Decoder SeedSettings := fun value => do
  let fields ← decodeSection value
  let default : SeedSettings := {}
  pure {
    host := ← fields.field 0 "host" decodeText default.host
    port := ← fields.field 1 "port" decodePort default.port
    nodes := ← fields.field 2 "nodes" (decodeList Seed.decode) default.nodes }

def DevSection.decode : Decoder DevSection := fun value => do
  let fields ← decodeSection value
  let default : DevSection := {}
  let decodeSome : Decoder (Option String) := fun value => (decodeText value).map some
  pure {
    host := ← fields.field 0 "host" decodeText default.host
    port := ← fields.field 1 "port" decodePort default.port
    files := ← fields.field 2 "files" decodeSome default.files
    baseDir := ← fields.field 3 "base_dir" decodeSome default.baseDir
    logPrefix := ← fields.field 4 "log_prefix" decodeText default.logPrefix
    openBrowser := ← fields.field 5 "open_browser" decodeBool default.openBrowser
    rewrites := ← fields.field 6 "rewrites" (decodeList decodeText) default.rewrites }

def ReloadSettings.decode : Decoder ReloadSettings := fun value => do
  let fields ← decodeSection value
  let default : ReloadSettings := {}
  let decodePatterns : Decoder (Option (List String)) := fun value =>
    (decodeList decodeText value).map some
  pure {
    enabled := ← fields.field 0 "enabled" decodeBool default.enabled
    patterns := ← fields.field 1 "watch_patterns" decodePatterns default.patterns
    quiet := ← fields.field 2 "debounce_ms" (decodeNat UInt64.size) default.quiet }

def ConfigFile.parse? (text : String) : Option ConfigFile := do
  let entries ← Toml.parse? text.toList
  let fields := Section.named entries
  let default : ConfigFile := {}
  pure {
    seed := ← fields.field 0 "seed" SeedSettings.decode default.seed
    dev := ← fields.field 1 "dev" DevSection.decode default.dev
    reload := ← fields.field 2 "live_reload" ReloadSettings.decode default.reload }

end Workbench
