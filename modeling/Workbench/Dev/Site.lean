import Workbench.Dev.Forward
import Workbench.Dev.Injection
import Workbench.Dev.Script
import Workbench.Http.Upgrade
import Workbench.Rule.Evaluate
import Workbench.Rule.Parser
import Workbench.Static.Serve

set_option autoImplicit false

namespace Workbench

open Http (Request Response)

structure Site where
  rules : List (Rule Pattern)
  reload : Bool

namespace Site

def redirect (location : List Char) (status : Nat) : Response :=
  let value := Text.Percent.bytesOf location
  if value.all Http.isValueByte then { status, headers := [⟨"location", value⟩] }
  else .plain status "failed to parse header value"

def serve (site : Site) (assets : Assets) (request : Request) : Response :=
  let response := assets.serve request
  if site.reload && request.method ≠ "HEAD" && Injection.wanted response then
    Injection.apply response
  else response

def dispatch (site : Site) (assets : Assets) (transport : Transport) (request : Request) :
    Response :=
  match evaluate site.rules request.uri.target with
  | .proxy target =>
      match forward transport target request with
      | .ok response => response
      | .error error => error.response
  | .redirect location status => redirect location status
  | .status code => { status := code }
  | .rewritten url =>
      match Http.Uri.parse? url with
      | some uri => site.serve assets { request with uri }
      | none => { status := 400 }
  | .unchanged => site.serve assets request

def script (request : Request) : Response :=
  if request.method = "GET" || request.method = "HEAD" then Script.response
  else .methodNotAllowed

def channel (request : Request) : Response :=
  if request.method = "GET" || request.method = "HEAD" then
    ((Http.upgradeFault? request).getD .notConnected).response
  else .methodNotAllowed

inductive Route
  | channel
  | script
  | rules
  deriving DecidableEq, Repr

def route (site : Site) (request : Request) : Route :=
  let path := String.ofList request.uri.pathText
  if site.reload && path = Script.channelPath then .channel
  else if site.reload && path = Injection.scriptPath then .script
  else .rules

def answer (site : Site) (assets : Assets) (transport : Transport) (request : Request) :
    Response :=
  match site.route request with
  | .channel => channel request
  | .script => script request
  | .rules => site.dispatch assets transport request

def outbound? (site : Site) (request : Request) : Option Outbound :=
  match site.route request, evaluate site.rules request.uri.target with
  | .rules, .proxy target => (outbound target request).toOption
  | _, _ => none

def files (site : Site) (assets : Assets) (request : Request) : List Path :=
  let uri := match evaluate site.rules request.uri.target with
    | .rewritten url => Http.Uri.parse? url
    | .unchanged => some request.uri
    | _ => none
  match uri.bind fun uri => assets.filePath? uri.pathText with
  | some path => [path, path.join ⟨Assets.indexPage⟩]
  | none => []

def uncached (response : Response) : Response :=
  { response with headers := response.headers.addMissing (.ofText "cache-control" "no-cache") }

def respond (site : Site) (assets : Assets) (transport : Transport) (request : Request) :
    Response :=
  (uncached (site.answer assets transport request)).sealed request.method

end Site

end Workbench
