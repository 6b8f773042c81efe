import Workbench.CommandLine.Console
import Workbench.CommandLine.Invocation
import Workbench.Dev.Server
import Workbench.Seed.Server

set_option autoImplicit false

namespace Workbench

inductive RunError
  | config (error : ConfigError)
  | seed (error : BindError)
  | dev (error : DevError)

namespace RunError

def message : RunError -> String
  | .config error => error.message
  | .seed error => error.message
  | .dev error => error.message

def printed (error : RunError) : Printed where
  err := ["Error: " ++ error.message]

def exitCode : UInt8 := 1

end RunError

inductive Running
  | seed (server : SeedServer)
  | dev (settings : DevSettings) (server : DevServer)

namespace Running

def devLines (settings : DevSettings) (server : DevServer) : List String :=
  ["Serving files from: " ++ settings.baseDir.toString, "Local: " ++ server.url] ++
    settings.rewrites.map ("Rewrite: " ++ ·) ++
    (if server.watch.isSome then ["Watching files: " ++ settings.files.toString]
    else ["Live reload: disabled"])

def printed : Running -> Printed
  | .seed server =>
      { out := [Descriptor.banner server.body]
        err := ["Seed provider listening on " ++ server.endpoint.text] }
  | .dev settings server =>
      { err := (devLines settings server).map (labelled settings.logPrefix) }

end Running

namespace Invocation

def start (surroundings : Surroundings) (network : Network) (invocation : Invocation) :
    Except RunError Running := do
  let config ← (Config.load surroundings invocation.arguments.config
    (some invocation.overrides)).mapError .config
  match invocation.command with
  | .seed => do
      let server ← (SeedServer.start network config.seed).mapError .seed
      pure (.seed server)
  | .dev => do
      let server ← (DevServer.start surroundings network config).mapError .dev
      pure (.dev config.dev server)

end Invocation

def versionText : String := "nd 0.1.0"

def CommandOption.usage (option : CommandOption) : String :=
  let letter := match option.letter? with
    | some letter => ", -" ++ letter.toString
    | none => ""
  "      --" ++ option.name ++ letter ++ (if option.takesValue then " <VALUE>" else "")

def usageLines : List String :=
  "Usage: nd <COMMAND> [OPTIONS]" :: Command.all.flatMap fun command =>
    ("  " ++ command.name) :: command.options.map CommandOption.usage

namespace UsageError

def message : UsageError -> String
  | .help => "help"
  | .version => "version"
  | .noCommand => "no command given"
  | .unknownCommand => "no such command"
  | .unexpected => "unexpected argument"
  | .noValue option => "a value is required for --" ++ option.name
  | .emptyPath option | .notTruth option | .notPort option =>
      "invalid value for --" ++ option.name
  | .needlessValue option => "no value is taken by --" ++ option.name
  | .repeated option => "--" ++ option.name ++ " cannot be used multiple times"
  | .contradiction => "--live-reload and --no-live-reload exclude each other"

def printed (error : UsageError) : Printed :=
  match error with
  | .help => { out := usageLines }
  | .version => { out := [versionText] }
  | .noCommand => { err := usageLines }
  | _ => { err := ["error: " ++ error.message] }

end UsageError

end Workbench
