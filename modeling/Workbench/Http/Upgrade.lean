import Workbench.Http.Message

set_option autoImplicit false

namespace Workbench.Http

inductive UpgradeFault
  | method
  | connection
  | protocol
  | noKey
  | version
  | notConnected
  deriving DecidableEq, Repr

namespace UpgradeFault

def status : UpgradeFault -> Nat
  | .method => 405
  | .notConnected => 426
  | _ => 400

def message : UpgradeFault -> String
  | .method => "Request method must be `GET`"
  | .connection => "Connection header did not include 'upgrade'"
  | .protocol => "`Upgrade` header did not include 'websocket'"
  | .noKey => "`Sec-WebSocket-Key` header missing"
  | .version => "`Sec-WebSocket-Version` header did not include '13'"
  | .notConnected => "WebSocket request couldn't be upgraded since no upgrade state was present"

def response (fault : UpgradeFault) : Response :=
  .plain fault.status fault.message

end UpgradeFault

def isInfix (part : List UInt8) : List UInt8 -> Bool
  | [] => part.isEmpty
  | byte :: rest => part.isPrefixOf (byte :: rest) || isInfix part rest

def Headers.mentions (headers : Headers) (name text : String) : Bool :=
  (headers.first? name).any fun value =>
    (String.fromUTF8? ⟨value.toArray⟩).isSome &&
      isInfix text.toUTF8.toList (value.map lowerByte)

def upgradeFault? (request : Request) : Option UpgradeFault :=
  if request.method ≠ "GET" then some .method
  else if !request.headers.mentions "connection" "upgrade" then some .connection
  else if !request.headers.states "upgrade" "websocket" then some .protocol
  else if !request.headers.has "sec-websocket-key" then some .noKey
  else if !request.headers.states "sec-websocket-version" "13" then some .version
  else none

end Workbench.Http
