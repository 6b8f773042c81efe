import Workbench.Config.Decode
import Workbench.Config.Validity
import Workbench.Files.Tree

set_option autoImplicit false

namespace Workbench

inductive ReadFault
  | nowhere (missing : FileTree.Missing)
  | isDirectory
  | notText
  deriving DecidableEq, Repr

def ReadFault.message : ReadFault -> String
  | .nowhere missing => missing.message
  | .isDirectory => "Is a directory (os error 21)"
  | .notText => "stream did not contain valid UTF-8"

inductive ConfigError
  | notFound (path : Path)
  | unreadable (fault : ReadFault)
  | notConfiguration
  | invalid (violation : Violation)
  | unset (unset : Env.Unset)
  deriving DecidableEq, Repr

def ConfigError.message : ConfigError -> String
  | .notFound path => "Configuration file not found: " ++ path.toString
  | .unreadable fault => "I/O error: " ++ fault.message
  | .notConfiguration => "TOML parse error"
  | .invalid violation => "Configuration error: " ++ violation.message
  | .unset fault => "Environment variable error in " ++ fault.field ++ ": " ++ fault.detail

open Env in
def Seed.expand (environment : Environment) (field : String) (seed : Seed) :
    Except Unset Seed := do
  pure {
    token := ← expandField environment (field ++ ".token") seed.token
    hostname := ← expandField environment (field ++ ".hostname") seed.hostname
    dc := ← expandField environment (field ++ ".dc") seed.dc
    ip := ← expandField environment (field ++ ".ip") seed.ip
    zone := ← expandField environment (field ++ ".zone") seed.zone
    location := ← expandField environment (field ++ ".location") seed.location }

open Env in
def ConfigFile.expand (environment : Environment) (file : ConfigFile) :
    Except Unset ConfigFile := do
  let seedHost ← expandField environment "seed.host" file.seed.host
  let nodes ← file.seed.nodes.zipIdx.mapM fun (node, index) =>
    node.expand environment (indexed "seed.nodes" index)
  let devHost ← expandField environment "dev.host" file.dev.host
  let rewrites ←
    match expandAll environment "dev.rewrites" file.dev.rewrites with
    | (rewrites, none) => .ok rewrites
    | (_, some unset) => .error unset
  pure { file with
    seed := { file.seed with host := seedHost, nodes := nodes }
    dev := { file.dev with host := devHost, rewrites := rewrites } }

def Config.check (config : Config) : Except ConfigError Config :=
  match config.validate with
  | .ok () => .ok config
  | .error violation => .error (.invalid violation)

def Config.ofText (environment : Env.Environment) (text : String) (base : Path) :
    Except ConfigError Config :=
  match ConfigFile.parse? text with
  | none => .error .notConfiguration
  | some file =>
      match file.expand environment with
      | .error unset => .error (.unset unset)
      | .ok file => (file.resolve base).check

def Config.applied (config : Config) : Option Overrides -> Except ConfigError Config
  | none => .ok config
  | some overrides => (config.override overrides).check

structure Surroundings where
  tree : FileTree
  directory : Place
  environment : Env.Environment

def Surroundings.readText (surroundings : Surroundings) (path : Path) :
    Except ReadFault String :=
  match surroundings.tree.resolve surroundings.directory path with
  | .error missing => .error (.nowhere missing)
  | .ok (_, .directory) => .error .isDirectory
  | .ok (_, .file content) =>
      match String.fromUTF8? content with
      | some text => .ok text
      | none => .error .notText

def Config.ofFile (surroundings : Surroundings) (path : Path) : Except ConfigError Config :=
  match surroundings.readText path with
  | .error fault => .error (.unreadable fault)
  | .ok text => do
      let base := path.parent?.getD ⟨['.']⟩
      let config ← Config.ofText surroundings.environment text base
      pure { config with source := some path }

def configName : Path := .ofString "nd.toml"

def Surroundings.discover? (surroundings : Surroundings) (place : Place) : Option Path :=
  let candidate := place.path.join configName
  if surroundings.tree.leadsSomewhere [] candidate then some candidate
  else if place.isEmpty then none
  else surroundings.discover? place.dropLast
termination_by place.length
decreasing_by
  have : place ≠ [] := by simpa using ‹¬List.isEmpty place = true›
  have := List.length_pos_iff.2 this
  simp only [List.length_dropLast]
  omega

def Config.found (surroundings : Surroundings) : Option Path -> Except ConfigError Config
  | some path =>
      if surroundings.tree.leadsSomewhere surroundings.directory path then
        Config.ofFile surroundings path
      else .error (.notFound path)
  | none =>
      match surroundings.discover? surroundings.directory with
      | some path => Config.ofFile surroundings path
      | none => .ok (Config.defaults surroundings.directory.path)

def Config.load (surroundings : Surroundings) (path : Option Path)
    (overrides : Option Overrides) : Except ConfigError Config := do
  let config ← Config.found surroundings path
  config.applied overrides

end Workbench
