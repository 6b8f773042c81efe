import Workbench.Files.Operation
import Workbench.Reload.Event
import Workbench.Text.Quoted

set_option autoImplicit false

namespace Workbench

structure WatchError where
  path : Path
  missing : FileTree.Missing
  deriving DecidableEq, Repr

def WatchError.message (error : WatchError) : String :=
  "Failed to watch files: " ++ error.missing.message ++ " about [" ++
    Text.quote error.path.toString ++ "]"

def Watch.start (tree : FileTree) (directory : Place) (path : Path)
    (patterns : Option (List String)) : Except WatchError Watch :=
  match tree.resolve directory path with
  | .error missing => .error ⟨path, missing⟩
  | .ok (place, _) => .ok (.ofPatterns place.path patterns)

def FileEvent.one (kind : FileEventKind) (place : Place) : FileEvent :=
  ⟨kind, [place.path]⟩

def FileOperation.events (tree : FileTree) : FileOperation -> List FileEvent
  | .write place _ =>
      (tree.missingDirectories place).map (FileEvent.one .created) ++ [.one .modified place]
  | .remove place => (tree.under place).map (FileEvent.one .removed)
  | .rename source target =>
      if tree.has source then
        [.one .modified source, .one .modified target, ⟨.modified, [source.path, target.path]⟩]
      else []
  | .makeDirectory place => (tree.missingDirectories place).map (FileEvent.one .created)

def FileTree.events (tree : FileTree) : List FileOperation -> List FileEvent
  | [] => []
  | operation :: rest => operation.events tree ++ (tree.perform operation).events rest

def Watch.settled (watch : Watch) (quiet : Nat) (events : List FileEvent) : List Change :=
  let debouncer := events.foldl (fun debouncer event => debouncer.recordEvent watch 0 event)
    { quiet := quiet : Debouncer }
  debouncer.ready quiet

def Watch.report (watch : Watch) (quiet : Nat) (tree : FileTree)
    (operations : List FileOperation) : List ReloadEvent :=
  watch.announce (watch.settled quiet (tree.events operations))

end Workbench
