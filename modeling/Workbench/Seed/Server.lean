import Workbench.Config.Basic
import Workbench.Host.Endpoint
import Workbench.Http.Message
import Workbench.Seed.Descriptor

set_option autoImplicit false

namespace Workbench

open Http (Request Response)

structure SeedServer where
  body : String
  endpoint : Endpoint

namespace SeedServer

def start (network : Network) (settings : SeedSettings) : Except BindError SeedServer := do
  let endpoint ← network.listen settings.host settings.port
  pure { body := Descriptor.render settings.nodes, endpoint }

def describe (body : String) (request : Request) : Response :=
  if request.method = "GET" || request.method = "HEAD" then .plain 200 body
  else .methodNotAllowed

def respond (body : String) (request : Request) : Response :=
  let path := request.uri.pathText
  if path = Descriptor.path.toList then (describe body request).sealed request.method
  else if path.head? = some '/' then { status := 404 }
  else Response.sealed { status := 404 } request.method

end SeedServer

end Workbench
