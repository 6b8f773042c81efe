import Workbench.Host.Basic

set_option autoImplicit false

namespace Workbench

structure Endpoint where
  address : Ipv4 ⊕ Ipv6
  port : UInt16
  deriving DecidableEq, Repr

namespace Endpoint

def host (endpoint : Endpoint) : Host :=
  match endpoint.address with
  | .inl address => .ipv4 address
  | .inr address => .ipv6 address

def text (endpoint : Endpoint) : String :=
  String.ofList endpoint.host.text ++ ":" ++ toString endpoint.port.toNat

def isUnspecified (endpoint : Endpoint) : Bool :=
  match endpoint.address with
  | .inl address => address.octets.all (· = 0)
  | .inr address => address.pieces.toList.all (· = 0)

def localUrl (endpoint : Endpoint) : String :=
  if endpoint.isUnspecified then "http://localhost:" ++ toString endpoint.port.toNat ++ "/"
  else "http://" ++ endpoint.text ++ "/"

end Endpoint

inductive BindFault
  | inUse
  | notHere
  | denied
  | unknownHost
  deriving DecidableEq, Repr

def BindFault.message : BindFault -> String
  | .inUse => "Address already in use (os error 98)"
  | .notHere => "Cannot assign requested address (os error 99)"
  | .denied => "Permission denied (os error 13)"
  | .unknownHost => "failed to lookup address information: Name or service not known"

structure BindError where
  host : String
  port : UInt16
  fault : BindFault
  deriving DecidableEq, Repr

def BindError.message (error : BindError) : String :=
  "Failed to bind " ++ error.host ++ ":" ++ toString error.port.toNat ++ ": " ++
    error.fault.message

abbrev Network := String -> UInt16 -> Except BindFault Endpoint

def Network.listen (network : Network) (host : String) (port : UInt16) :
    Except BindError Endpoint :=
  (network host port).mapError fun fault => ⟨host, port, fault⟩

end Workbench
