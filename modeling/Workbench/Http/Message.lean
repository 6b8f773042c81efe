import Workbench.Http.Headers
import Workbench.Http.Uri

set_option autoImplicit false

namespace Workbench.Http

structure Request where
  method : String := "GET"
  uri : Uri
  headers : Headers := []
  body : ByteArray := .empty

structure Response where
  status : Nat
  headers : Headers := []
  body : ByteArray := .empty
  -- Is the body passed on as it comes, so that nobody knows its length beforehand?
  streamed : Bool := false

def contentLength : String := "content-length"
def contentType : String := "content-type"

namespace Response

def plain (status : Nat) (text : String) : Response where
  status := status
  headers := [.ofText contentType "text/plain; charset=utf-8"]
  body := text.toUTF8

def methodNotAllowed : Response where
  status := 405
  headers := [.ofText "allow" "GET,HEAD"]

def isSuccess (response : Response) : Bool :=
  200 ≤ response.status && response.status < 300

def measured (response : Response) : Response :=
  if response.streamed then response
  else
    { response with
      headers := response.headers.addMissing
        (.ofText contentLength (toString response.body.size)) }

def sealed (response : Response) (method : String) : Response :=
  if method = "CONNECT" && response.isSuccess then { response with body := .empty }
  else
    let measured := response.measured
    if method = "HEAD" then { measured with body := .empty } else measured

end Response

end Workbench.Http
