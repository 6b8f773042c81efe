import Workbench.Files.Path

set_option autoImplicit false

namespace Workbench

inductive FileNode
  | directory
  | file (content : ByteArray)

abbrev Place := List (List Char)

def Place.path (place : Place) : Path :=
  if place.isEmpty then ⟨['/']⟩ else ⟨'/' :: Text.joinWith '/' place⟩

structure FileTree where
  nodes : List (Place × FileNode) := []

namespace FileTree

def find? (tree : FileTree) (place : Place) : Option FileNode :=
  if place.isEmpty then some .directory else tree.nodes.lookup place

def addDirectories (tree : FileTree) (place : Place) : FileTree :=
  (List.range place.length).foldl
    (fun tree index =>
      let directory := place.take (index + 1)
      if (tree.find? directory).isSome then tree
      else ⟨(directory, .directory) :: tree.nodes⟩)
    tree

def addFile (tree : FileTree) (place : Place) (content : ByteArray) : FileTree :=
  let tree := tree.addDirectories place.dropLast
  ⟨(place, .file content) :: tree.nodes⟩

inductive Missing
  | noEntry
  | notDirectory
  | longName
  deriving DecidableEq, Repr

def Missing.message : Missing -> String
  | .noEntry => "No such file or directory (os error 2)"
  | .notDirectory => "Not a directory (os error 20)"
  | .longName => "File name too long (os error 36)"

def maxName : Nat := 255

def walk (tree : FileTree) (place : Place) : List Path.Component -> Except Missing Place
  | [] => .ok place
  | component :: rest =>
      match tree.find? place with
      | none => .error .noEntry
      | some (.file _) => .error .notDirectory
      | some .directory =>
          match component with
          | .root => tree.walk [] rest
          | .current => tree.walk place rest
          | .parent => tree.walk place.dropLast rest
          | .name text =>
              if maxName < Text.byteLength text then .error .longName
              else tree.walk (place ++ [text]) rest

def resolve (tree : FileTree) (directory : Place) (path : Path) :
    Except Missing (Place × FileNode) :=
  if path.text.isEmpty then .error .noEntry
  else
    match tree.walk directory path.components with
    | .error missing => .error missing
    | .ok place =>
        match tree.find? place with
        | none => .error .noEntry
        | some (.file content) =>
            if path.namesDirectory then .error .notDirectory else .ok (place, .file content)
        | some .directory => .ok (place, .directory)

def leadsSomewhere (tree : FileTree) (directory : Place) (path : Path) : Bool :=
  match tree.resolve directory path with
  | .ok _ => true
  | .error _ => false

end FileTree

end Workbench
