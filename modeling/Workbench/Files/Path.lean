import Workbench.Text.Blank

set_option autoImplicit false

namespace Workbench

structure Path where
  text : List Char
  deriving DecidableEq, Repr

namespace Path

inductive Component
  | root
  | current
  | parent
  | name (text : List Char)
  deriving DecidableEq, Repr

def ofString (text : String) : Path := ⟨text.toList⟩

def toString (path : Path) : String := String.ofList path.text

def isAbsolute (path : Path) : Bool :=
  path.text.head? = some '/'

def pieces (path : Path) : List (List Char) :=
  Text.splitOn '/' path.text

def counts (piece : List Char) : Bool :=
  !piece.isEmpty && piece ≠ ['.']

def componentOf (piece : List Char) : Component :=
  if piece = ['.', '.'] then .parent else .name piece

def components (path : Path) : List Component :=
  match path.pieces with
  | [] => []
  | first :: rest =>
      let behind := (rest.filter counts).map componentOf
      if path.isAbsolute then .root :: behind
      else if first.isEmpty then behind
      else if first = ['.'] then .current :: behind
      else componentOf first :: behind

def names (path : Path) : List (List Char) :=
  path.components.filterMap fun
    | .name text => some text
    | _ => none

def sameAs (left right : Path) : Bool :=
  left.components = right.components

def join (base path : Path) : Path :=
  if path.isAbsolute || base.text.isEmpty then path
  else if base.text.getLast? = some '/' then ⟨base.text ++ path.text⟩
  else ⟨base.text ++ '/' :: path.text⟩

def dropIgnoredEnd (pieces : List (List Char)) : List (List Char) :=
  (pieces.reverse.dropWhile (!counts ·)).reverse

def parent? (path : Path) : Option Path :=
  match path.pieces with
  | [] => none
  | first :: rest =>
      match (dropIgnoredEnd rest).reverse with
      | [] => if first.isEmpty then none else some ⟨[]⟩
      | _ :: before =>
          let rest := dropIgnoredEnd before.reverse
          if rest.isEmpty && path.isAbsolute then some ⟨['/']⟩
          else some ⟨Text.joinWith '/' (first :: rest)⟩

def fileName? (path : Path) : Option (List Char) :=
  match path.components.getLast? with
  | some (.name text) => some text
  | _ => none

def extension? (path : Path) : Option (List Char) := do
  let name ← path.fileName?
  let (extension, before) ← Text.cutAt? '.' name.reverse
  if before.isEmpty then none else pure extension.reverse

def dropComponents : Nat -> List (List Char) -> List (List Char)
  | 0, pieces => pieces
  | _ + 1, [] => []
  | count + 1, piece :: rest =>
      if counts piece then dropComponents count rest else dropComponents (count + 1) rest

def relativeTo? (path base : Path) : Option Path :=
  if base.components.isPrefixOf path.components then
    match base.components.length, path.pieces with
    | 0, first :: rest =>
        let rest := dropIgnoredEnd rest
        if rest.isEmpty && path.isAbsolute then some ⟨['/']⟩
        else some ⟨Text.joinWith '/' (first :: rest)⟩
    | count + 1, _ :: rest =>
        let behind := dropComponents count rest
        some ⟨Text.joinWith '/' (dropIgnoredEnd (behind.dropWhile (!counts ·)))⟩
    | _, [] => some ⟨[]⟩
  else none

def namesDirectory (path : Path) : Bool :=
  match path.pieces.reverse with
  | last :: _ :: _ => !counts last
  | _ => false

end Path

end Workbench
