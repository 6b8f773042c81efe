import Workbench.Json.Value
import Workbench.Reload.Debounce
import Workbench.Reload.Glob

set_option autoImplicit false

namespace Workbench

inductive ReloadKind
  | page
  | styles
  deriving DecidableEq, Repr

structure ReloadEvent where
  kind : ReloadKind
  path : String
  deriving DecidableEq, Repr

def ReloadKind.name : ReloadKind -> String
  | .page => "reload"
  | .styles => "css"

def ReloadEvent.toJson (event : ReloadEvent) : Json.Value :=
  .object [("type", .string event.kind.name), ("path", .string event.path)]

def ReloadEvent.frame (event : ReloadEvent) : String :=
  String.ofList event.toJson.render

structure Watch where
  directory : Path
  patterns : List String
  deriving DecidableEq, Repr

namespace Watch

def defaultPatterns : List String := ["**/*"]

def ofPatterns (directory : Path) (patterns : Option (List String)) : Watch :=
  ⟨directory, patterns.getD defaultPatterns⟩

def globs (watch : Watch) : List Glob :=
  watch.patterns.filterMap fun text => Glob.parse? text.toList

def covers (watch : Watch) (path : Path) : Bool :=
  match path.relativeTo? watch.directory with
  | none => false
  | some relative => watch.globs.any (·.accepts relative.text)

end Watch

def urlPath? (directory path : Path) : Option String :=
  (path.relativeTo? directory).map fun relative =>
    String.ofList ('/' :: Text.joinWith '/' relative.names)

def Change.reloadKind (change : Change) : ReloadKind :=
  if change.kind ≠ .removed && change.path.extension? = some "css".toList then .styles else .page

def Change.event? (change : Change) (directory : Path) : Option ReloadEvent :=
  (urlPath? directory change.path).map fun path => ⟨change.reloadKind, path⟩

inductive FileEventKind
  | created
  | modified
  | removed
  | other
  deriving DecidableEq, Repr

structure FileEvent where
  kind : FileEventKind
  paths : List Path
  deriving DecidableEq, Repr

def FileEventKind.change? : FileEventKind -> Option ChangeKind
  | .created => some .created
  | .modified => some .modified
  | .removed => some .removed
  | .other => none

def Watch.changes (watch : Watch) (event : FileEvent) : List Change :=
  match event.kind.change? with
  | none => []
  | some kind => (event.paths.filter watch.covers).map fun path => ⟨path, kind⟩

def Debouncer.recordEvent (debouncer : Debouncer) (watch : Watch) (now : Nat)
    (event : FileEvent) : Debouncer :=
  (watch.changes event).foldl (fun debouncer change => debouncer.record now change) debouncer

def Watch.announce (watch : Watch) (changes : List Change) : List ReloadEvent :=
  changes.filterMap (·.event? watch.directory)

end Workbench
