import Workbench.CommandLine.Arguments
import Workbench.CommandLine.Token
import Workbench.Env.Reference

set_option autoImplicit false

namespace Workbench

inductive Command
  | seed
  | dev
  deriving DecidableEq, Repr

namespace Command

def name : Command -> String
  | .seed => "seed"
  | .dev => "dev"

def all : List Command := [.seed, .dev]

def options : Command -> List CommandOption
  | .seed => [.config, .host, .port, .verbose, .help]
  | .dev => [.config, .host, .port, .files, .baseDir, .rewrite, .noOpen, .liveReload,
      .noLiveReload, .verbose, .help]

def ofName? (text : List Char) : Option Command :=
  all.find? fun command => command.name.toList = text

end Command

structure Reading where
  arguments : Arguments := {}
  pending : Option (CommandOption × Option (List Char)) := none

namespace Reading

def settle (reading : Reading) : Except UsageError Reading :=
  match reading.pending with
  | none => .ok reading
  | some (option, value) => do
      pure { arguments := ← reading.arguments.set option value }

def take (reading : Reading) (option : CommandOption) (value : Option (List Char)) :
    Except UsageError Reading := do
  let reading ← reading.settle
  pure { reading with arguments := ← reading.arguments.set option value }

def await (reading : Reading) (option : CommandOption) : Except UsageError Reading := do
  let reading ← reading.settle
  pure { reading with pending := some (option, none) }

def readName (options : List CommandOption) (reading : Reading) (name : List Char)
    (value : Option (List Char)) : Except UsageError Reading :=
  match options.find? fun option => option.name.toList = name with
  | none => .error .unexpected
  | some option =>
      match option.takesValue, value with
      | true, none => reading.await option
      | false, some _ => .error (.needlessValue option)
      | _, _ => reading.take option value

def readLetters (options : List CommandOption) (reading : Reading) :
    List Char -> Except UsageError Reading
  | [] => .ok reading
  | letter :: rest =>
      match options.find? fun option => option.letter? = some letter with
      | none => .error .unexpected
      | some option =>
          if option.takesValue then
            match rest with
            | [] => reading.await option
            | '=' :: value => reading.take option (some value)
            | _ => reading.take option (some rest)
          else do
            let reading ← reading.take option none
            reading.readLetters options rest

def readWord (reading : Reading) (text : List Char) : Except UsageError Reading :=
  match reading.pending with
  | some (option, none) => .ok { reading with pending := some (option, some text) }
  | _ => .error .unexpected

def read (options : List CommandOption) (reading : Reading) :
    List Token -> Except UsageError Arguments
  | [] | [.separator] => do pure (← reading.settle).arguments
  | .separator :: _ => .error .unexpected
  | .long name value :: rest => do
      let reading ← reading.readName options name value
      reading.read options rest
  | .short letters :: rest => do
      let reading ← reading.readLetters options letters
      reading.read options rest
  | .word text :: rest => do
      let reading ← reading.readWord text
      reading.read options rest

end Reading

namespace Arguments

def configVariable : List Char := "ND_CONFIG".toList

def withEnvironment (arguments : Arguments) (environment : Env.Environment) :
    Except UsageError Arguments :=
  match arguments.config, environment configVariable with
  | none, some value => arguments.set .config (some value)
  | _, _ => .ok arguments

def checked (arguments : Arguments) : Except UsageError Arguments :=
  if arguments.noLiveReload && arguments.liveReload.isSome then .error .contradiction
  else .ok arguments

end Arguments

structure Invocation where
  command : Command
  arguments : Arguments
  deriving DecidableEq, Repr

namespace Invocation

def ofCommand (environment : Env.Environment) (command : Command) (words : List (List Char)) :
    Except UsageError Invocation := do
  let arguments ← Reading.read command.options {} (words.map Token.ofText)
  let arguments ← arguments.withEnvironment environment
  pure ⟨command, ← arguments.checked⟩

def helpCommand : List Char := "help".toList

def isCommandName (text : List Char) : Bool :=
  text = helpCommand || (Command.ofName? text).isSome

def helpFault (words : List (List Char)) : UsageError :=
  match words with
  | [] => .help
  | [word] => if isCommandName word then .help else .unknownCommand
  | _ => .unknownCommand

def openingFault (first : List Char) (rest : List (List Char)) : UsageError :=
  let options := [CommandOption.help, .version]
  match Token.ofText first with
  | .separator =>
      match rest with
      | [] => .noCommand
      | word :: _ => if isCommandName word then .unexpected else .unknownCommand
  | .word _ => .unknownCommand
  | .long name value =>
      match Reading.readName options {} name value with
      | .error fault => fault
      | .ok _ => .unexpected
  | .short letters =>
      match Reading.readLetters options {} letters with
      | .error fault => fault
      | .ok _ => .unexpected

def parse (environment : Env.Environment) (words : List (List Char)) :
    Except UsageError Invocation :=
  match words with
  | [] => .error .noCommand
  | first :: rest =>
      match Command.ofName? first with
      | some command => ofCommand environment command rest
      | none =>
          if first = helpCommand then .error (helpFault rest)
          else .error (openingFault first rest)

def overrides (invocation : Invocation) : Overrides :=
  match invocation.command with
  | .seed => invocation.arguments.seedOverrides
  | .dev => invocation.arguments.devOverrides

end Invocation

end Workbench
