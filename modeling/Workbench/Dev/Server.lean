import Workbench.Config.Load
import Workbench.Dev.Site
import Workbench.Host.Endpoint
import Workbench.Reload.Window

set_option autoImplicit false

namespace Workbench

inductive DevError
  | rule (error : RuleError)
  | watch (error : WatchError)
  | bind (error : BindError)

def DevError.message : DevError -> String
  | .rule error => error.message
  | .watch error => error.message
  | .bind error => error.message

structure DevServing where
  host : String
  port : UInt16
  files : Path
  baseDir : Path
  rewrites : List String
  reloadEnabled : Bool
  patterns : Option (List String)
  quiet : Nat
  openBrowser : Bool
  deriving DecidableEq, Repr

def DevServing.ofConfig (config : Config) : DevServing where
  host := config.dev.host
  port := config.dev.port
  files := config.dev.files
  baseDir := config.dev.baseDir
  rewrites := config.dev.rewrites
  reloadEnabled := config.reload.enabled
  patterns := config.reload.patterns
  quiet := config.reload.quiet
  openBrowser := config.dev.openBrowser

structure DevServer where
  rules : List (Rule Pattern)
  watch : Option Watch
  endpoint : Endpoint

namespace DevServer

def site (server : DevServer) : Site :=
  ⟨server.rules, server.watch.isSome⟩

def url (server : DevServer) : String :=
  server.endpoint.localUrl

def startWatch (surroundings : Surroundings) (serving : DevServing) :
    Except WatchError (Option Watch) :=
  if serving.reloadEnabled then
    (Watch.start surroundings.tree surroundings.directory serving.files serving.patterns).map some
  else .ok none

def bind (surroundings : Surroundings) (network : Network) (serving : DevServing) :
    Except DevError DevServer := do
  let rules ← (Rule.parseAll (serving.rewrites.map String.toList)).mapError .rule
  let watch ← (startWatch surroundings serving).mapError .watch
  let endpoint ← (network.listen serving.host serving.port).mapError .bind
  pure { rules, watch, endpoint }

def start (surroundings : Surroundings) (network : Network) (config : Config) :
    Except DevError DevServer :=
  bind surroundings network (.ofConfig config)

end DevServer

end Workbench
