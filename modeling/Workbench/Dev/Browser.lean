import Workbench.Config.Load

set_option autoImplicit false

namespace Workbench.Browser

def opener : Path := .ofString "xdg-open"

inductive Fault
  | notFound
  | denied
  deriving DecidableEq, Repr

def Fault.message : Fault -> String
  | .notFound => "No such file or directory (os error 2)"
  | .denied => "Permission denied (os error 13)"

def usualDirectories : List Char := "/bin:/usr/bin".toList

def candidates (surroundings : Surroundings) : List Place :=
  let listed := (surroundings.environment "PATH".toList).getD usualDirectories
  (Text.splitOn ':' listed).filterMap fun directory =>
    match surroundings.tree.resolve surroundings.directory ((⟨directory⟩ : Path).join opener) with
    | .ok (place, _) => some place
    | .error _ => none

def find (surroundings : Surroundings) (runs : Place -> Bool) : Except Fault Place :=
  let places := candidates surroundings
  match places.find? runs, places.isEmpty with
  | some place, _ => .ok place
  | none, true => .error .notFound
  | none, false => .error .denied

end Workbench.Browser
