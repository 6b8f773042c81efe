import Workbench.Url.Basic
import Workbench.Text.Quoted

set_option autoImplicit false

namespace Workbench

inductive UrlFault
  | noScheme
  | emptyHost
  | host (fault : HostFault)
  | port
  | otherScheme (scheme : List Char)
  deriving DecidableEq, Repr

def HostFault.message : HostFault -> String
  | .empty => "empty host"
  | .ipv4 => "invalid IPv4 address"
  | .ipv6 => "invalid IPv6 address"
  | .domain => "invalid international domain name"
  | .character => "invalid domain character"

def UrlFault.message : UrlFault -> String
  | .noScheme => "relative URL without a base"
  | .emptyHost => HostFault.empty.message
  | .host fault => fault.message
  | .port => "invalid port number"
  | .otherScheme scheme => "unsupported scheme " ++ Text.quote (String.ofList scheme)

namespace Url

def isPadding (char : Char) : Bool :=
  char.toNat ≤ 0x20

def isBreak (char : Char) : Bool :=
  char = '\t' || char = '\n' || char = '\r'

def cleaned (text : List Char) : List Char :=
  let trimmed := ((text.dropWhile isPadding).reverse.dropWhile isPadding).reverse
  trimmed.filter (!isBreak ·)

def isSchemeChar (char : Char) : Bool :=
  char.isAlphanum || char = '+' || char = '-' || char = '.'

def scheme? (text : List Char) : Option (List Char × List Char) :=
  match text.head?.any Char.isAlpha, text.dropWhile isSchemeChar with
  | true, ':' :: rest => some ((text.takeWhile isSchemeChar).map Char.toLower, rest)
  | _, _ => none

inductive SchemeKind
  | hosted (port : Nat)
  | file
  | other
  deriving DecidableEq, Repr

def kindOf (scheme : List Char) : SchemeKind :=
  match String.ofList scheme with
  | "http" | "ws" => .hosted 80
  | "https" | "wss" => .hosted 443
  | "ftp" => .hosted 21
  | "file" => .file
  | _ => .other

def SchemeKind.isOther : SchemeKind -> Bool
  | .other => true
  | _ => false

def isSlash (char : Char) : Bool :=
  char = '/' || char = '\\'

def SchemeKind.endsHost (kind : SchemeKind) (char : Char) : Bool :=
  char = '/' || char = '?' || char = '#' || (char = '\\' && !kind.isOther)

def cutCredentials? (authority : List Char) : Option (List Char × List Char) :=
  (Text.cutAt? '@' authority.reverse).map fun (after, before) => (before.reverse, after.reverse)

def readCredentials (text : List Char) : List Char × List Char :=
  let encode := Text.Percent.encode keptInCredentials
  match Text.cutAt? ':' text with
  | some (username, password) => (encode username, encode password)
  | none => (encode text, [])

def cutPort (inBrackets : Bool) : List Char -> List Char × List Char
  | [] => ([], [])
  | char :: rest =>
      if char = ':' && !inBrackets then ([], char :: rest)
      else
        let inBrackets := char = '[' || (inBrackets && char ≠ ']')
        let (host, port) := cutPort inBrackets rest
        (char :: host, port)

def maxPort : Nat := 65535

def readPort (text : List Char) : Except UrlFault (Option Nat) :=
  match text with
  | [] | [_] => .ok none
  | _ :: digits =>
      match (Text.number? 10 digits).filter (· ≤ maxPort) with
      | some port => .ok (some port)
      | none => .error .port

structure Authority where
  username : List Char
  password : List Char
  host : Host
  port : Option Nat
  deriving DecidableEq

def readHost (kind : SchemeKind) (named : Bool) (text : List Char) :
    Except UrlFault (Host × Option Nat) := do
  let (host, port) := cutPort false text
  if host.isEmpty && (!kind.isOther || named || !port.isEmpty) then throw .emptyHost
  let parsed := if kind.isOther then Host.parseOpaque host else Host.parse host
  let found ← parsed.mapError .host
  let port := if kind.isOther then port.takeWhile (· ≠ '\\') else port
  pure (found, ← readPort port)

def readAuthority (kind : SchemeKind) (more : Bool) (text : List Char) :
    Except UrlFault Authority :=
  match cutCredentials? text with
  | none => do
      let (host, port) ← readHost kind false text
      pure ⟨[], [], host, port⟩
  | some (credentials, text) => do
      if credentials.isEmpty && text.isEmpty && more then throw .emptyHost
      let (username, password) := readCredentials credentials
      let (host, port) ← readHost kind (!username.isEmpty || !password.isEmpty) text
      pure ⟨username, password, host, port⟩

def isDot (name : List Char) : Bool :=
  [".", "%2e"].contains (String.ofList (name.map Char.toLower))

def isDoubleDot (name : List Char) : Bool :=
  ["..", "%2e.", ".%2e", "%2e%2e"].contains (String.ofList (name.map Char.toLower))

def isDisk (name : List Char) : Bool :=
  match name with
  | [letter, mark] => letter.isAlpha && (mark = ':' || mark = '|')
  | _ => false

def goUp : List (List Char) -> List (List Char)
  | [] => []
  | name :: above => if isDisk name then name :: above else above

/-- Resolves dots; `above` holds the names so far, last first. A path that ends in dots ends in a
slash. -/
def resolveDots (above : List (List Char)) : List (List Char) -> List (List Char)
  | [] => above.reverse
  | name :: rest =>
      let step :=
        if isDoubleDot name then goUp above
        else if isDot name then above
        else name :: above
      if rest.isEmpty && (isDoubleDot name || isDot name) then ([] :: step).reverse
      else resolveDots step rest

def asSlash (char : Char) : Char :=
  if char = '\\' then '/' else char

def readPath (text : List Char) : List (List Char) :=
  let names := match text.map asSlash with
    | '/' :: rest => Text.splitOn '/' rest
    | text => Text.splitOn '/' text
  resolveDots [] (names.map (Text.Percent.encode keptInPath))

def endsPath (char : Char) : Bool :=
  char = '?' || char = '#'

def readPart? (mark : Char) (ends : Char -> Bool) (keep : Char -> Bool) (text : List Char) :
    Option (List Char) :=
  match text with
  | first :: rest =>
      if first = mark then some (Text.Percent.encode keep (rest.takeWhile (!ends ·))) else none
  | [] => none

def readHosted (scheme : List Char) (usualPort : Nat) (text : List Char) : Except UrlFault Url := do
  let kind := SchemeKind.hosted usualPort
  let text := text.dropWhile isSlash
  let rest := text.dropWhile (!kind.endsHost ·)
  let authority ← readAuthority kind (!rest.isEmpty) (text.takeWhile (!kind.endsHost ·))
  let behindPath := rest.dropWhile (!endsPath ·)
  pure {
    scheme
    username := authority.username
    password := authority.password
    host := authority.host
    port := authority.port.filter (· ≠ usualPort)
    path := readPath (rest.takeWhile (!endsPath ·))
    query := readPart? '?' (· = '#') keptInQuery behindPath
    fragment := readPart? '#' (fun _ => false) keptInFragment (behindPath.dropWhile (· ≠ '#')) }

def fileFault? (text : List Char) : Option UrlFault :=
  match text with
  | first :: second :: rest =>
      let host := rest.takeWhile (!SchemeKind.file.endsHost ·)
      if !isSlash first || !isSlash second || host.isEmpty || isDisk host then none
      else
        match Host.parse host with
        | .ok _ => none
        | .error fault => some (.host fault)
  | _ => none

def otherFault? (text : List Char) : Option UrlFault :=
  match Text.after? "//".toList text with
  | none => none
  | some text =>
      let ends := SchemeKind.other.endsHost
      let more := !(text.dropWhile (!ends ·)).isEmpty
      match readAuthority .other more (text.takeWhile (!ends ·)) with
      | .ok _ => none
      | .error fault => some fault

def webSchemes : List (List Char) := ["http".toList, "https".toList]

def parse (text : List Char) : Except UrlFault Url :=
  match scheme? (cleaned text) with
  | none => .error .noScheme
  | some (scheme, rest) =>
      match kindOf scheme with
      | .hosted usualPort => do
          let url ← readHosted scheme usualPort rest
          if webSchemes.contains scheme then pure url else throw (.otherScheme scheme)
      | .file => .error ((fileFault? rest).getD (.otherScheme scheme))
      | .other => .error ((otherFault? rest).getD (.otherScheme scheme))

end Url

end Workbench
