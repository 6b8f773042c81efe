import Workbench.Files.Tree
import Workbench.Http.Message
import Workbench.Static.Date
import Workbench.Static.MediaType
import Workbench.Static.Range

set_option autoImplicit false

namespace Workbench

open Http (Header Request Response contentLength contentType visibleText?)

structure Assets where
  tree : FileTree
  directory : Place
  base : Path
  modified : Nat

namespace Assets

def indexPage : List Char := "index.html".toList

def names? (path : Path) : Option (List (List Char)) :=
  path.components.foldr
    (fun component names => do
      match component with
      | .name text => pure (text :: (← names))
      | .current => names
      | .root | .parent => none)
    (some [])

def filePath? (assets : Assets) (path : List Char) : Option Path := do
  let decoded ← Text.Percent.decodeText? (path.dropWhile (· = '/'))
  let names ← names? ⟨decoded⟩
  pure (names.foldl (fun path name => path.join ⟨name⟩) assets.base)

inductive Found
  | file (path : Path) (content : ByteArray)
  | directory
  | nothing
  | tooLong

def find (assets : Assets) (path : Path) : Found :=
  if path.text.contains (Char.ofNat 0) then .nothing
  else
    match assets.tree.resolve assets.directory path with
    | .ok (_, .file content) => .file path content
    | .ok (_, .directory) => .directory
    | .error .longName => .tooLong
    | .error _ => .nothing

def findIndex (assets : Assets) (path : Path) : Found :=
  match assets.find (path.join ⟨indexPage⟩) with
  | .directory => .nothing
  | found => found

def redirect (request : Request) : Response :=
  match request.uri.withSlash? with
  | none => { status := 500 }
  | some uri => {
      status := 307
      headers := [⟨"location", Text.Percent.bytesOf uri.text⟩] }

def time? (request : Request) (name : String) : Option Nat :=
  ((request.headers.first? name).bind visibleText?).bind Date.parse?

def refusal? (assets : Assets) (request : Request) : Option Response :=
  let expired : Bool :=
    match time? request "if-unmodified-since" with
    | some time => time < assets.modified
    | none => false
  let fresh : Bool :=
    match time? request "if-modified-since" with
    | some time => assets.modified ≤ time
    | none => false
  if expired then some { status := 412 }
  else if fresh then some { status := 304 }
  else none

def fileHeaders (path : Path) : Http.Headers :=
  [.ofText contentType (MediaType.ofPath path), .ofText "accept-ranges" "bytes"]

def wholeFile (path : Path) (content : ByteArray) : Response where
  status := 200
  headers := fileHeaders path ++ [.ofText contentLength (toString content.size)]
  body := content

def unsatisfied (path : Path) (size : Nat) (body : ByteArray) : Response where
  status := 416
  headers := fileHeaders path ++ [.ofText "content-range" ("bytes */" ++ toString size)]
  body := body

def rangeText (range : ByteRange) (size : Nat) : String :=
  "bytes " ++ toString range.first ++ "-" ++ toString range.last ++ "/" ++ toString size

def partOfFile (path : Path) (content : ByteArray) (range : ByteRange) : Response where
  status := 206
  headers :=
    let body := content.extract range.first (range.last + 1)
    fileHeaders path ++
      [.ofText "content-range" (rangeText range content.size),
        .ofText contentLength (toString body.size)]
  body := content.extract range.first (range.last + 1)

def severalRanges : String := "Cannot serve multipart range requests"

def serveFile (request : Request) (path : Path) (content : ByteArray) : Response :=
  match (request.headers.first? "range").bind visibleText? with
  | none => wholeFile path content
  | some value =>
      match ByteRange.requested? value content.size with
      | none => unsatisfied path content.size .empty
      | some [range] => partOfFile path content range
      | some _ => unsatisfied path content.size severalRanges.toUTF8

def serveFound (assets : Assets) (request : Request) : Found -> Response
  | .file path content => (assets.refusal? request).getD (serveFile request path content)
  | .directory | .nothing => { status := 404 }
  | .tooLong => { status := 500 }

def lookup (assets : Assets) (request : Request) : Response :=
  match assets.filePath? request.uri.pathText with
  | none => { status := 404 }
  | some path =>
      match assets.find path with
      | .directory =>
          -- Without the slash, links on the index page would start from the parent directory.
          if request.uri.pathText.getLast? = some '/' then
            assets.serveFound request (assets.findIndex path)
          else redirect request
      | found => assets.serveFound request found

def serve (assets : Assets) (request : Request) : Response :=
  if request.method = "GET" || request.method = "HEAD" then assets.lookup request
  else .methodNotAllowed

end Assets

end Workbench
