import Workbench.Text.Blank

set_option autoImplicit false

namespace Workbench.Http

structure Uri where
  scheme : Option (List Char) := none
  authority : List Char := []
  path : List Char := []
  query : Option (List Char) := none
  deriving DecidableEq, Repr

namespace Uri

def maxLength : Nat := 65534

def maxSchemeLength : Nat := 64

def isPathChar (char : Char) : Bool :=
  let code := char.toNat
  code = 0x21 || (0x24 ≤ code && code ≤ 0x3B) || code = 0x3D || (0x40 ≤ code && code ≤ 0x5F) ||
    (0x61 ≤ code && code ≤ 0x7A) || code = 0x7C || code = 0x7E || 0x80 ≤ code ||
    char = '"' || char = '\x7b' || char = '\x7d'

def isQueryChar (char : Char) : Bool :=
  let code := char.toNat
  code = 0x21 || (0x24 ≤ code && code ≤ 0x3B) || code = 0x3D ||
    (0x3F ≤ code && code ≤ 0x7E) || 0x80 ≤ code

def isAuthorityChar (char : Char) : Bool :=
  char.isAlphanum || "!$&'()*+,-.:;=@[]_~".toList.contains char

def isSchemeChar (char : Char) : Bool :=
  char.isAlphanum || "+-.~".toList.contains char

structure AuthorityState where
  colons : Nat := 0
  opened : Bool := false
  closed : Bool := false
  percent : Bool := false

def maxColons : Nat := 8

def AuthorityState.next? (state : AuthorityState) (char : Char) : Option AuthorityState :=
  if char = ':' then
    if maxColons ≤ state.colons then none else some { state with colons := state.colons + 1 }
  else if char = '[' then
    if state.percent || state.opened then none else some { state with opened := true }
  else if char = ']' then
    if !state.opened || state.closed then none
    else some { state with closed := true, colons := 0, percent := false }
  else if char = '@' then some { state with colons := 0, percent := false }
  else if char = '%' then some { state with percent := true }
  else if isAuthorityChar char then some state
  else none

def AuthorityState.accepts (state : AuthorityState) : Bool :=
  state.opened == state.closed && state.colons ≤ 1 && !state.percent

def endsAuthority (char : Char) : Bool :=
  char = '/' || char = '?' || char = '#'

def authority? (text : List Char) : Option (List Char × List Char) := do
  let authority := text.takeWhile (!endsAuthority ·)
  let state ← authority.foldlM AuthorityState.next? {}
  if state.accepts && authority.getLast? ≠ some '@' then
    pure (authority, text.dropWhile (!endsAuthority ·))
  else none

def pathAndQuery? (text : List Char) : Option (List Char × Option (List Char)) :=
  let text := text.takeWhile (· ≠ '#')
  let path := text.takeWhile (· ≠ '?')
  if !path.all isPathChar then none
  else
    match text.dropWhile (· ≠ '?') with
    | [] => some (path, none)
    | _ :: query => if query.all isQueryChar then some (path, some query) else none

def scheme? (text : List Char) : Option (List Char × List Char) :=
  (Text.after? "://".toList (text.dropWhile isSchemeChar)).map
    fun rest => (text.takeWhile isSchemeChar, rest)

def wellKnownSchemes : List (List Char) := ["http".toList, "https".toList]

def absolute? (text : List Char) : Option Uri :=
  match scheme? text with
  | some (scheme, rest) => do
      if maxSchemeLength < scheme.length then none
      else
        let (authority, rest) ← authority? rest
        let (path, query) ← pathAndQuery? rest
        if authority.isEmpty then none
        else
          let lower := scheme.map Char.toLower
          let scheme := if wellKnownSchemes.contains lower then lower else scheme
          pure { scheme := some scheme, authority, path, query }
  | none => do
      let (authority, rest) ← authority? text
      if authority.isEmpty || !rest.isEmpty then none else pure { authority }

def parse? (text : List Char) : Option Uri :=
  if maxLength < Text.byteLength text then none
  else
    match text with
    | [] => none
    | ['*'] => some { path := ['*'] }
    | '/' :: _ => (pathAndQuery? text).map fun (path, query) => { path, query }
    | _ => absolute? text

def queryText (uri : Uri) : List Char :=
  match uri.query with
  | some query => '?' :: query
  | none => []

def isAuthorityForm (uri : Uri) : Bool :=
  uri.scheme.isNone && !uri.authority.isEmpty

def pathText (uri : Uri) : List Char :=
  if uri.isAuthorityForm then []
  else if uri.path.isEmpty then ['/'] else uri.path

def target (uri : Uri) : List Char :=
  uri.pathText ++ uri.queryText

def schemeText (uri : Uri) : List Char :=
  match uri.scheme with
  | some scheme => scheme ++ "://".toList
  | none => []

def text (uri : Uri) : List Char :=
  uri.schemeText ++ uri.authority ++ uri.target

def withSlash? (uri : Uri) : Option Uri :=
  if uri.isAuthorityForm then none
  else some { uri with path := uri.pathText ++ ['/'] }

end Uri

end Workbench.Http
