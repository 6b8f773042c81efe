import Workbench.Host.Basic

set_option autoImplicit false

namespace Workbench

structure Url where
  scheme : List Char
  username : List Char := []
  password : List Char := []
  host : Host
  port : Option Nat := none
  path : List (List Char)
  query : Option (List Char) := none
  fragment : Option (List Char) := none
  deriving DecidableEq, Repr

namespace Url

def isPlain (char : Char) : Bool :=
  0x21 ≤ char.toNat && char.toNat ≤ 0x7E

def keptInFragment (char : Char) : Bool :=
  isPlain char && !"\"<>`".toList.contains char

def keptInPath (char : Char) : Bool :=
  keptInFragment char && !"#?\x7b\x7d".toList.contains char

def keptInCredentials (char : Char) : Bool :=
  keptInPath char && !"/:;=@[\\]^|".toList.contains char

def keptInQuery (char : Char) : Bool :=
  isPlain char && !"\"#<>'".toList.contains char

def credentials (url : Url) : List Char :=
  if url.username.isEmpty && url.password.isEmpty then []
  else if url.password.isEmpty then url.username ++ ['@']
  else url.username ++ ':' :: url.password ++ ['@']

def portText (url : Url) : List Char :=
  match url.port with
  | some port => ':' :: Nat.toDigits 10 port
  | none => []

def pathText (url : Url) : List Char :=
  '/' :: Text.joinWith '/' url.path

def queryText (url : Url) : List Char :=
  match url.query with
  | some query => '?' :: query
  | none => []

def fragmentText (url : Url) : List Char :=
  match url.fragment with
  | some fragment => '#' :: fragment
  | none => []

def text (url : Url) : List Char :=
  url.scheme ++ "://".toList ++ url.credentials ++ url.host.text ++ url.portText ++
    url.pathText ++ url.queryText ++ url.fragmentText

def target (url : Url) : List Char :=
  url.pathText ++ url.queryText

def hasPassword (url : Url) : Bool :=
  !url.password.isEmpty && (Text.Percent.decodeText? url.password).isSome

def withoutCredentials (url : Url) : Url :=
  match Text.Percent.decodeText? url.username with
  | none => url
  | some name =>
      if name.isEmpty && !url.hasPassword then url
      else { url with username := [], password := [] }

end Url

end Workbench
