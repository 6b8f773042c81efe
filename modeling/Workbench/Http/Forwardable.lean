import Workbench.Http.Headers
import Workbench.Text.Blank

set_option autoImplicit false

namespace Workbench.Http

def hopByHop : List String :=
  ["connection", "keep-alive", "proxy-authenticate", "proxy-authorization", "te", "trailer",
    "transfer-encoding", "upgrade"]

def namesIn (value : List UInt8) : List String :=
  match visibleText? value with
  | none => []
  | some text => (Text.splitOn ',' text).filterMap fun item => headerName? (Text.trim item)

def Headers.connectionNames (headers : Headers) : List String :=
  (headers.values "connection").flatMap namesIn

def Headers.forwardable (headers : Headers) : Headers :=
  let listed := headers.connectionNames
  headers.filter fun header => !hopByHop.contains header.name && !listed.contains header.name

end Workbench.Http
