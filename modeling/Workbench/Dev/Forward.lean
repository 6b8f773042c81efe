import Workbench.Http.Forwardable
import Workbench.Http.Message
import Workbench.Json.Value
import Workbench.Url.Parser

set_option autoImplicit false

namespace Workbench

open Http (Header Headers Request Response)

structure Outbound where
  method : String
  url : Url
  headers : Headers
  body : ByteArray

abbrev Transport := Outbound -> Option Response

inductive SendFault
  | unusable
  | unreachable
  deriving DecidableEq, Repr

inductive ForwardError
  | invalidTarget (target : List Char) (fault : UrlFault)
  | unanswered (target : List Char) (fault : SendFault) (url : Url)

def SendFault.message : SendFault -> String
  | .unusable => "builder error"
  | .unreachable => "error sending request"

def ForwardError.target : ForwardError -> List Char
  | .invalidTarget target _ => target
  | .unanswered target _ _ => target

def ForwardError.message : ForwardError -> String
  | .invalidTarget target fault =>
      "Invalid proxy target " ++ Text.quote (String.ofList target) ++ ": " ++ fault.message
  | .unanswered target fault url =>
      "Upstream request to " ++ String.ofList target ++ " failed: " ++ fault.message ++
        " for url (" ++ String.ofList url.text ++ ")"

def ForwardError.toJson (error : ForwardError) : Json.Value :=
  .object [("error", .string error.message), ("target", .string (String.ofList error.target))]

def ForwardError.response (error : ForwardError) : Response where
  status := 502
  headers := [.ofText Http.contentType "application/json"]
  body := (String.ofList error.toJson.render).toUTF8

def outboundHeaders (headers : Headers) : Headers :=
  headers.forwardable.without "host"

def relayed (response : Response) : Response :=
  { response with headers := response.headers.forwardable, streamed := true }

def outbound (target : List Char) (request : Request) : Except ForwardError Outbound :=
  match Url.parse target with
  | .error fault => .error (.invalidTarget target fault)
  | .ok url =>
      let url := url.withoutCredentials
      if (Http.Uri.parse? url.text).isNone then .error (.unanswered target .unusable url)
      else .ok ⟨request.method, url, outboundHeaders request.headers, request.body⟩

def forward (transport : Transport) (target : List Char) (request : Request) :
    Except ForwardError Response := do
  let outbound ← outbound target request
  match transport outbound with
  | some response => pure (relayed response)
  | none => throw (.unanswered target .unreachable outbound.url)

end Workbench
