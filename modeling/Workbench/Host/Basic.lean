import Workbench.Host.Domain
import Workbench.Host.Ipv6
import Workbench.Text.Percent

set_option autoImplicit false

namespace Workbench

inductive Host
  | domain (name : List Char)
  | ipv4 (address : Ipv4)
  | ipv6 (address : Ipv6)
  deriving DecidableEq, Repr

inductive HostFault
  | empty
  | ipv4
  | ipv6
  | domain
  | character
  deriving DecidableEq, Repr

namespace Host

def unbracket? (text : List Char) : Option (List Char) :=
  if text.getLast? = some ']' then some (text.drop 1).dropLast else none

def parseBracketed (text : List Char) : Except HostFault Host :=
  match (unbracket? text).bind Ipv6.parse? with
  | some address => .ok (.ipv6 address)
  | none => .error .ipv6

def parse (text : List Char) : Except HostFault Host :=
  if text.head? = some '[' then parseBracketed text
  else
    match (Text.Percent.decodeText? text).bind Domain.ascii? with
    | none => .error .domain
    | some name =>
        if name.isEmpty then .error .empty
        else if Ipv4.isMeant name then
          match Ipv4.parseLoose? name with
          | some address => .ok (.ipv4 address)
          | none => .error .ipv4
        else .ok (.domain name)

def isReserved (char : Char) : Bool :=
  char.toNat = 0 || " #/:<>?@[\\]^|".toList.contains char

def parseOpaque (text : List Char) : Except HostFault Host :=
  if text.head? = some '[' then parseBracketed text
  else if text.any isReserved then .error .character
  else .ok (.domain text)

def text : Host -> List Char
  | .domain name => name
  | .ipv4 address => address.text
  | .ipv6 address => '[' :: address.text ++ [']']

end Host

end Workbench
