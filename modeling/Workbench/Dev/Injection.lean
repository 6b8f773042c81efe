import Workbench.Http.Message

set_option autoImplicit false

namespace Workbench.Injection

open Http (Header Response contentLength contentType lowerByte visibleText?)

def scriptPath : String := "/__nd/live-reload.js"

def scriptTag : String :=
  "<script src=\"" ++ scriptPath ++ "\"></script>"

def closingTag : List UInt8 := "</body>".toUTF8.toList

def maxPage : Nat := 8 * 1024 * 1024

def tagAt (page : ByteArray) (position : Nat) : List UInt8 -> Bool
  | [] => true
  | byte :: rest =>
      page[position]?.map lowerByte = some byte && tagAt page (position + 1) rest

def lastTagBefore? (page : ByteArray) : Nat -> Option Nat
  | 0 => none
  | position + 1 =>
      if tagAt page position closingTag then some position else lastTagBefore? page position

def position (page : ByteArray) : Nat :=
  (lastTagBefore? page page.size).getD page.size

def inject (page : ByteArray) : ByteArray :=
  let position := position page
  page.extract 0 position ++ scriptTag.toUTF8 ++ page.extract position page.size

def maxLength : Nat := UInt64.size - 1

def length? (text : List Char) : Option Nat :=
  let digits := match text with
    | '+' :: rest => rest
    | _ => text
  (Text.number? 10 digits).filter (· ≤ maxLength)

def isPage (response : Response) : Bool :=
  match (response.headers.first? contentType).bind visibleText? with
  | some kind => "text/html".toList.isPrefixOf kind
  | none => false

-- A length that is not stated, or not in a way that can be read, counts as small.
def isSmall (response : Response) : Bool :=
  match ((response.headers.first? contentLength).bind visibleText?).bind length? with
  | some length => length ≤ maxPage
  | none => true

def wanted (response : Response) : Bool :=
  response.status = 200 && isPage response && isSmall response

def apply (response : Response) : Response :=
  if maxPage < response.body.size then { status := 500 }
  -- The body has been read, so it has a length of its own from here on.
  else if !response.body.validateUTF8 then { response with streamed := false }
  else
    { response with
      headers := response.headers.without contentLength
      body := inject response.body
      streamed := false }

end Workbench.Injection
