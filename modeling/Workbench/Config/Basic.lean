import Workbench.Files.Path
import Workbench.Seed.Record

set_option autoImplicit false

namespace Workbench

def defaultPort : UInt16 := 8081

def defaultRewrite : String :=
  "^/REST/(.*)$ http://localhost:8080/REST/$1 [P]"

structure SeedSettings where
  host : String := "0.0.0.0"
  port : UInt16 := defaultPort
  nodes : List Seed := [Seed.localNode]
  deriving DecidableEq, Repr

structure DevSection where
  host : String := "127.0.0.1"
  port : UInt16 := defaultPort
  files : Option String := none
  baseDir : Option String := none
  logPrefix : String := "NDBench UI - DEV"
  openBrowser : Bool := true
  rewrites : List String := [defaultRewrite]
  deriving DecidableEq, Repr

structure DevSettings where
  host : String
  port : UInt16
  files : Path
  baseDir : Path
  logPrefix : String
  openBrowser : Bool
  rewrites : List String
  deriving DecidableEq, Repr

structure ReloadSettings where
  enabled : Bool := true
  patterns : Option (List String) := none
  -- How long a file has to be left alone before its change is announced, in milliseconds.
  quiet : Nat := 100
  deriving DecidableEq, Repr

structure ConfigFile where
  seed : SeedSettings := {}
  dev : DevSection := {}
  reload : ReloadSettings := {}
  deriving DecidableEq, Repr

structure Config where
  seed : SeedSettings
  dev : DevSettings
  reload : ReloadSettings
  source : Option Path := none
  deriving DecidableEq, Repr

def defaultDirectory : String := "app"

def DevSection.resolve (dev : DevSection) (base : Path) : DevSettings where
  host := dev.host
  port := dev.port
  files := base.join (.ofString (dev.files.getD defaultDirectory))
  baseDir := base.join (.ofString (dev.baseDir.getD defaultDirectory))
  logPrefix := dev.logPrefix
  openBrowser := dev.openBrowser
  rewrites := dev.rewrites

def ConfigFile.resolve (file : ConfigFile) (base : Path) : Config where
  seed := file.seed
  dev := file.dev.resolve base
  reload := file.reload

def Config.defaults (base : Path) : Config :=
  ConfigFile.resolve {} base

structure Overrides where
  seedHost : Option String := none
  seedPort : Option UInt16 := none
  devHost : Option String := none
  devPort : Option UInt16 := none
  files : Option Path := none
  baseDir : Option Path := none
  rewrites : Option (List String) := none
  openBrowser : Option Bool := none
  reloadEnabled : Option Bool := none
  deriving DecidableEq, Repr

def Config.override (config : Config) (overrides : Overrides) : Config :=
  { config with
    seed := { config.seed with
      host := overrides.seedHost.getD config.seed.host
      port := overrides.seedPort.getD config.seed.port }
    dev := { config.dev with
      host := overrides.devHost.getD config.dev.host
      port := overrides.devPort.getD config.dev.port
      files := overrides.files.getD config.dev.files
      baseDir := overrides.baseDir.getD config.dev.baseDir
      openBrowser := overrides.openBrowser.getD config.dev.openBrowser
      rewrites := overrides.rewrites.getD config.dev.rewrites }
    reload := { config.reload with
      enabled := overrides.reloadEnabled.getD config.reload.enabled } }

end Workbench
