import Workbench.Dev.Forward

set_option autoImplicit false

namespace Workbench.Wire

open Http (Header Headers)
open Text (resume length_resume_le)

def hostHeader (url : Url) : Header :=
  ⟨"host", Text.Percent.bytesOf (url.host.text ++ url.portText)⟩

def chunkedHeader : Header :=
  .ofText "transfer-encoding" "chunked"

def headers (outbound : Outbound) : Headers :=
  let addressed := (outbound.headers.addMissing (.ofText "accept" "*/*")).addMissing
    (hostHeader outbound.url)
  if outbound.body.isEmpty || outbound.headers.has Http.contentLength then addressed
  else addressed.addMissing chunkedHeader

def headerLine (header : Header) : List UInt8 :=
  header.name.toUTF8.toList ++ ": ".toUTF8.toList ++ header.value ++ [13, 10]

def requestLine (outbound : Outbound) : List UInt8 :=
  Text.Percent.bytesOf
    (outbound.method.toList ++ ' ' :: outbound.url.target ++ " HTTP/1.1\r\n".toList)

def chunkLine (length : Nat) : ByteArray :=
  (String.ofList (Nat.toDigits 16 length) ++ "\r\n").toUTF8

def chunkedBytes (body : ByteArray) : ByteArray :=
  chunkLine body.size ++ body ++ "\r\n".toUTF8 ++ chunkLine 0 ++ "\r\n".toUTF8

def isChunked (headers : Headers) : Bool :=
  headers.states "transfer-encoding" "chunked"

def requestBytes (outbound : Outbound) : ByteArray :=
  let headers := headers outbound
  let head := requestLine outbound ++ headers.flatMap headerLine ++ [13, 10]
  ⟨head.toArray⟩ ++ if isChunked headers then chunkedBytes outbound.body else outbound.body

def cutLine? : List UInt8 -> Option (List UInt8 × List UInt8)
  | 13 :: 10 :: rest => some ([], rest)
  | byte :: rest => (cutLine? rest).map fun (line, rest) => (byte :: line, rest)
  | [] => none

def cutHead? : List UInt8 -> Option (List (List UInt8) × List UInt8)
  | [] => none
  | byte :: rest =>
      match cutLine? (byte :: rest) with
      | none => none
      | some (line, after) =>
          if line.isEmpty then some ([], after)
          else (cutHead? (resume rest after)).map fun (lines, body) => (line :: lines, body)
termination_by bytes => bytes.length
decreasing_by exact Nat.lt_succ_of_le (length_resume_le _ _)

def isSpace (byte : UInt8) : Bool :=
  byte = 0x20 || byte = 0x09

def trimBytes (bytes : List UInt8) : List UInt8 :=
  ((bytes.dropWhile isSpace).reverse.dropWhile isSpace).reverse

def header? (line : List UInt8) : Option Header := do
  let name ← Text.Percent.text? (line.takeWhile (· ≠ 0x3A))
  let name ← Http.headerName? name
  pure ⟨name, trimBytes ((line.dropWhile (· ≠ 0x3A)).drop 1)⟩

def status? (line : List UInt8) : Option Nat := do
  match Text.splitOn ' ' (← Text.Percent.text? line) with
  | _ :: code :: _ => Text.number? 10 code
  | _ => none

def joinChunks? : List UInt8 -> Option (List UInt8)
  | [] => none
  | byte :: rest => do
      let (line, after) ← cutLine? (byte :: rest)
      let digits ← Text.Percent.text? (line.takeWhile (· ≠ 0x3B))
      let length ← Text.number? 16 (Text.trim digits)
      if length = 0 then pure []
      else
        let others ← joinChunks? (resume rest (after.drop (length + 2)))
        pure (after.take length ++ others)
termination_by bytes => bytes.length
decreasing_by exact Nat.lt_succ_of_le (length_resume_le _ _)

structure Head where
  status : Nat
  headers : Headers

def head? (received : ByteArray) : Option (Head × ByteArray) := do
  match ← cutHead? received.toList with
  | ([], _) => none
  | (first :: lines, rest) =>
      pure (⟨← status? first, lines.filterMap header?⟩, ⟨rest.toArray⟩)

def Head.isInterim (head : Head) : Bool :=
  100 ≤ head.status && head.status ≤ 199 && head.status ≠ 101

inductive Framing
  | bodiless
  | chunked
  | sized (length : Nat)
  | untilClosed

def Head.length? (head : Head) : Option Nat := do
  Text.number? 10 (← Text.Percent.text? (← head.headers.first? Http.contentLength))

def Head.framing (head : Head) (method : String) : Framing :=
  if method = "HEAD" || head.status = 204 || head.status = 304 then .bodiless
  else if isChunked head.headers then .chunked
  else
    match head.length? with
    | some length => .sized length
    | none => .untilClosed

def Framing.body? (framing : Framing) (closed : Bool) (received : ByteArray) : Option ByteArray :=
  match framing with
  | .bodiless => some .empty
  | .chunked => (joinChunks? received.toList).map fun bytes => ⟨bytes.toArray⟩
  | .sized length => if length ≤ received.size then some (received.extract 0 length) else none
  | .untilClosed => if closed then some received else none

end Workbench.Wire
