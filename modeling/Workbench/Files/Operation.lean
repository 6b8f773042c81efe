import Workbench.Files.Tree

set_option autoImplicit false

namespace Workbench

inductive FileOperation
  | write (place : Place) (content : ByteArray)
  | remove (place : Place)
  | rename (source target : Place)
  | makeDirectory (place : Place)

namespace FileTree

def has (tree : FileTree) (place : Place) : Bool :=
  (tree.find? place).isSome

def under (tree : FileTree) (place : Place) : List Place :=
  ((tree.nodes.map (·.1)).filter place.isPrefixOf).eraseDups

def removeUnder (tree : FileTree) (place : Place) : FileTree :=
  ⟨tree.nodes.filter fun node => !place.isPrefixOf node.1⟩

def move (tree : FileTree) (source target : Place) : FileTree :=
  let moved := (tree.nodes.filter fun node => source.isPrefixOf node.1).map
    fun node => (target ++ node.1.drop source.length, node.2)
  ⟨moved ++ ((tree.removeUnder source).removeUnder target).nodes⟩

def perform (tree : FileTree) : FileOperation -> FileTree
  | .write place content => tree.addFile place content
  | .remove place => tree.removeUnder place
  | .rename source target => if tree.has source then tree.move source target else tree
  | .makeDirectory place => tree.addDirectories place

def missingDirectories (tree : FileTree) (place : Place) : List Place :=
  ((List.range place.length).map fun index => place.take (index + 1)).filter (!tree.has ·)

end FileTree

end Workbench
