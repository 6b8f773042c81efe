import Workbench.Config.Basic
import Workbench.Text.Number

set_option autoImplicit false

namespace Workbench

inductive CommandOption
  | help
  | version
  | config
  | host
  | port
  | files
  | baseDir
  | rewrite
  | noOpen
  | liveReload
  | noLiveReload
  | verbose
  deriving DecidableEq, Repr

namespace CommandOption

def name : CommandOption -> String
  | .help => "help"
  | .version => "version"
  | .config => "config"
  | .host => "host"
  | .port => "port"
  | .files => "files"
  | .baseDir => "base-dir"
  | .rewrite => "rewrite"
  | .noOpen => "no-open"
  | .liveReload => "live-reload"
  | .noLiveReload => "no-live-reload"
  | .verbose => "verbose"

def letter? : CommandOption -> Option Char
  | .help => some 'h'
  | .version => some 'V'
  | .config => some 'c'
  | .port => some 'p'
  | .verbose => some 'v'
  | _ => none

def takesValue : CommandOption -> Bool
  | .config | .host | .port | .files | .baseDir | .rewrite | .liveReload => true
  | _ => false

end CommandOption

inductive UsageError
  | help
  | version
  | noCommand
  | unknownCommand
  | unexpected
  | noValue (option : CommandOption)
  | emptyPath (option : CommandOption)
  | notTruth (option : CommandOption)
  | notPort (option : CommandOption)
  | needlessValue (option : CommandOption)
  | repeated (option : CommandOption)
  | contradiction
  deriving DecidableEq, Repr

def UsageError.exitCode : UsageError -> UInt8
  | .help | .version => 0
  | _ => 2

structure Arguments where
  config : Option Path := none
  host : Option String := none
  port : Option UInt16 := none
  files : Option Path := none
  baseDir : Option Path := none
  rewrites : List String := []
  noOpen : Bool := false
  liveReload : Option Bool := none
  noLiveReload : Bool := false
  verbose : Bool := false
  deriving DecidableEq, Repr

namespace Arguments

def readPath (option : CommandOption) (value : List Char) : Except UsageError Path :=
  if value.isEmpty then .error (.emptyPath option) else .ok ⟨value⟩

def maxPort : Nat := 65535

def port? (value : List Char) : Option UInt16 :=
  let (negative, digits) := match value with
    | '+' :: rest => (false, rest)
    | '-' :: rest => (true, rest)
    | _ => (false, value)
  match Text.number? 10 digits with
  | some number =>
      if maxPort < number || (negative && number ≠ 0) then none else some number.toUInt16
  | none => none

def readPort (option : CommandOption) (value : List Char) : Except UsageError UInt16 :=
  match port? value with
  | some port => .ok port
  | none => .error (.notPort option)

def readTruth (option : CommandOption) (value : List Char) : Except UsageError Bool :=
  match String.ofList value with
  | "true" => .ok true
  | "false" => .ok false
  | _ => .error (.notTruth option)

def once {α : Type} (option : CommandOption) (before : Option α) (read : Except UsageError α) :
    Except UsageError (Option α) :=
  if before.isSome then .error (.repeated option) else read.map some

def raised (option : CommandOption) (before : Bool) : Except UsageError Bool :=
  if before then .error (.repeated option) else .ok true

def setValue (arguments : Arguments) (option : CommandOption) (value : List Char) :
    Except UsageError Arguments := do
  match option with
  | .config => pure { arguments with
      config := ← once option arguments.config (readPath option value) }
  | .host => pure { arguments with
      host := ← once option arguments.host (.ok (String.ofList value)) }
  | .port => pure { arguments with
      port := ← once option arguments.port (readPort option value) }
  | .files => pure { arguments with
      files := ← once option arguments.files (readPath option value) }
  | .baseDir => pure { arguments with
      baseDir := ← once option arguments.baseDir (readPath option value) }
  | .rewrite => pure { arguments with
      rewrites := arguments.rewrites ++ [String.ofList value] }
  | .liveReload => pure { arguments with
      liveReload := ← once option arguments.liveReload (readTruth option value) }
  | _ => throw (.needlessValue option)

def setFlag (arguments : Arguments) (option : CommandOption) : Except UsageError Arguments := do
  match option with
  | .help => throw .help
  | .version => throw .version
  | .noOpen => pure { arguments with noOpen := ← raised option arguments.noOpen }
  | .noLiveReload =>
      pure { arguments with noLiveReload := ← raised option arguments.noLiveReload }
  | .verbose => pure { arguments with verbose := ← raised option arguments.verbose }
  | _ => throw (.noValue option)

def set (arguments : Arguments) (option : CommandOption) (value : Option (List Char)) :
    Except UsageError Arguments :=
  match value with
  | some value => arguments.setValue option value
  | none => arguments.setFlag option

def seedOverrides (arguments : Arguments) : Overrides where
  seedHost := arguments.host
  seedPort := arguments.port

def reloadEnabled (arguments : Arguments) : Option Bool :=
  if arguments.noLiveReload then some false else arguments.liveReload

def devOverrides (arguments : Arguments) : Overrides where
  devHost := arguments.host
  devPort := arguments.port
  files := arguments.files
  baseDir := arguments.baseDir
  rewrites := if arguments.rewrites.isEmpty then none else some arguments.rewrites
  openBrowser := if arguments.noOpen then some false else none
  reloadEnabled := arguments.reloadEnabled

end Arguments

end Workbench
