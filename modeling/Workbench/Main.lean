import Std.Async.DNS
import Std.Async.System
import Std.Async.TCP
import Std.Http.Server
import Workbench.CommandLine.Run
import Workbench.Dev.Wire

set_option autoImplicit false

namespace Workbench.Program

open Std.Async (Async)

def placeOf (directory : Place) (path : Path) : Place :=
  path.components.foldl
    (fun place component =>
      match component with
      | .root => []
      | .current => place
      | .parent => place.dropLast
      | .name text => place ++ [text])
    directory

def look (tree : FileTree) (place : Place) : IO FileTree :=
  (List.range place.length).foldlM
    (fun tree index => do
      let here := place.take (index + 1)
      match ← (IO.FS.readBinFile (Place.path here).toString).toBaseIO with
      | .ok content => pure (tree.addFile here content)
      | .error (.noFileOrDirectory ..) => pure tree
      | .error _ => pure (tree.addDirectories here))
    tree

def lookAt (surroundings : Surroundings) (paths : List Path) : IO FileTree :=
  paths.foldlM (fun tree path => look tree (placeOf surroundings.directory path))
    surroundings.tree

def configPaths (directory : Place) (named : Option Path) : List Path :=
  match named with
  | some path => [path]
  | none => (List.range (directory.length + 1)).map fun length =>
      (Place.path (directory.take length)).join configName

def surroundingsOf (invocation : Invocation) (environment : Env.Environment) :
    IO Surroundings := do
  let directory := placeOf [] (.ofString (toString (← IO.currentDir)))
  let surroundings : Surroundings := ⟨{}, directory, environment⟩
  let tree ← look {} directory
  let tree ← lookAt { surroundings with tree }
    (configPaths directory invocation.arguments.config)
  pure { surroundings with tree }

def environment : IO Env.Environment := do
  let values ← Std.Async.System.getEnv
  pure fun name => (values.get? (String.ofList name)).map (·.toList)

def resolve (host : String) : IO (Array Std.Net.IPAddr) := do
  match ← (Std.Async.DNS.getAddrInfo host "").block.toBaseIO with
  | .ok addresses => pure addresses
  | .error _ => pure #[]

def socketAddress (address : Std.Net.IPAddr) (port : UInt16) : Std.Net.SocketAddress :=
  match address with
  | .v4 addr => .v4 { addr, port }
  | .v6 addr => .v6 { addr, port }

def endpointOf (address : Std.Net.IPAddr) (port : UInt16) : Option Endpoint :=
  let text := (toString address).toList
  match Ipv4.parse? text, Ipv6.parse? text with
  | some address, _ => some ⟨.inl address, port⟩
  | _, some address => some ⟨.inr address, port⟩
  | _, _ => none

def bindFault : IO.Error -> BindFault
  | .resourceBusy .. => .inUse
  | .permissionDenied .. => .denied
  | _ => .notHere

def requestOf (request : Std.Http.Request Std.Http.Body.Stream) :
    Std.Async.ContextAsync (Option Http.Request) := do
  let body : ByteArray ← request.body.readAll
  let headers := request.line.headers.toList.map fun (name, value) =>
    Http.Header.ofText name.value value.value
  pure ((Http.Uri.parse? (toString request.line.uri).toList).map fun uri =>
    { method := toString request.line.method, uri, headers, body })

def headerOf (header : Http.Header) : Option (Std.Http.Header.Name × Std.Http.Header.Value) := do
  let value ← String.fromUTF8? ⟨header.value.toArray⟩
  pure (← Std.Http.Header.Name.ofString? header.name, ← Std.Http.Header.Value.ofString? value)

def responseOf (response : Http.Response) :
    Std.Async.ContextAsync (Std.Http.Response Std.Http.Body.Any) := do
  let status := (Std.Http.Status.ofCode none response.status.toUInt16).getD .ok
  let headers := (response.headers.without Http.contentLength).filterMap headerOf
  let body ← Std.Http.Body.Full.ofByteArray response.body
  pure { line := { status, headers := .ofList headers }, body := .ofBody body }

abbrev Respond := Http.Request -> IO Http.Response

instance : Std.Http.Server.Handler Respond where
  onRequest respond request := do
    match ← requestOf request with
    | some request => responseOf (← respond request)
    | none => responseOf { status := 400 }

def listen (host : String) (port : UInt16) (respond : Respond) :
    IO (Except BindFault Endpoint) := do
  match (← resolve host)[0]? with
  | none => pure (.error .unknownHost)
  | some address =>
      match ← (Std.Http.Server.serve (socketAddress address port) respond).block.toBaseIO with
      | .ok _ =>
          match endpointOf address port with
          | some endpoint => pure (.ok endpoint)
          | none => pure (.error .notHere)
      | .error error => pure (.error (bindFault error))

partial def receiveHead (socket : Std.Async.TCP.Socket.Client) (before : ByteArray) :
    Async (Option (Wire.Head × ByteArray)) := do
  match Wire.head? before with
  | some (head, rest) =>
      if head.isInterim then receiveHead socket rest else pure (some (head, rest))
  | none =>
      match ← socket.recv? 65536 with
      | some bytes => receiveHead socket (before ++ bytes)
      | none => pure none

partial def receiveBody (socket : Std.Async.TCP.Socket.Client) (framing : Wire.Framing)
    (before : ByteArray) : Async (Option ByteArray) := do
  match framing.body? false before with
  | some body => pure (some body)
  | none =>
      match ← socket.recv? 65536 with
      | some bytes => receiveBody socket framing (before ++ bytes)
      | none => pure (framing.body? true before)

def receive (socket : Std.Async.TCP.Socket.Client) (method : String) :
    Async (Option Http.Response) := do
  match ← receiveHead socket .empty with
  | none => pure none
  | some (head, rest) => do
      let body ← receiveBody socket (head.framing method) rest
      pure (body.map fun body => { status := head.status, headers := head.headers, body })

def plainPort : Nat := 80

def hostName : Host -> List Char
  | .domain name => name
  | .ipv4 address => address.text
  | .ipv6 address => address.text

def send (outbound : Outbound) : IO (Option Http.Response) := do
  if outbound.url.scheme ≠ "http".toList then return none
  let host := hostName outbound.url.host
  let port := (outbound.url.port.getD plainPort).toUInt16
  match (← resolve (String.ofList host))[0]? with
  | none => pure none
  | some address =>
      let exchange : Async (Option Http.Response) := do
        let socket ← Std.Async.TCP.Socket.Client.mk
        socket.connect (socketAddress address port)
        socket.send (Wire.requestBytes outbound)
        receive socket outbound.method
      match ← exchange.block.toBaseIO with
      | .ok response => pure response
      | .error _ => pure none

def respondDev (surroundings : Surroundings) (config : DevSettings) (site : Site) : Respond :=
  fun request => do
    let now := (← Std.Time.Timestamp.now).toSecondsSinceUnixEpoch.val.toNat
    let assets : Assets := ⟨{}, surroundings.directory, config.baseDir, now⟩
    let tree ← lookAt { surroundings with tree := {} } (site.files assets request)
    let received ← match site.outbound? request with
      | some outbound => send outbound
      | none => pure none
    pure (site.respond { assets with tree } (fun _ => received) request)

def print (printed : Printed) : IO Unit := do
  IO.eprint (linesText printed.err)
  IO.print (linesText printed.out)
  (← IO.getStdout).flush

def fail (error : RunError) : IO UInt32 := do
  print error.printed
  pure RunError.exitCode.toUInt32

partial def wait : IO UInt32 := do
  IO.sleep 1000
  wait

def service (surroundings : Surroundings) (config : Config) : Running -> String × UInt16 × Respond
  | .seed server =>
      (config.seed.host, config.seed.port,
        fun request => pure (SeedServer.respond server.body request))
  | .dev settings server =>
      (settings.host, settings.port, respondDev surroundings settings server.site)

def run (invocation : Invocation) (environment : Env.Environment) : IO UInt32 := do
  let surroundings ← surroundingsOf invocation environment
  match Config.load surroundings invocation.arguments.config (some invocation.overrides) with
  | .error error => fail (.config error)
  | .ok config =>
      let surroundings := { surroundings with
        tree := ← lookAt surroundings [config.dev.files] }
      match invocation.start surroundings fun _ port => .ok ⟨.inl ⟨0, 0, 0, 0⟩, port⟩ with
      | .error error => fail error
      | .ok running =>
          let (host, port, respond) := service surroundings config running
          let found ← listen host port respond
          match invocation.start surroundings fun _ _ => found with
          | .error error => fail error
          | .ok running => do
              print running.printed
              wait

def refuse (error : UsageError) : IO UInt32 := do
  print error.printed
  pure error.exitCode.toUInt32

end Workbench.Program

def main (words : List String) : IO UInt32 := do
  let environment ← Workbench.Program.environment
  match Workbench.Invocation.parse environment (words.map String.toList) with
  | .error error => Workbench.Program.refuse error
  | .ok invocation => Workbench.Program.run invocation environment
