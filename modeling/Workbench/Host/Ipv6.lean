import Workbench.Host.Ipv4

set_option autoImplicit false

namespace Workbench

structure Ipv6 where
  pieces : Vector UInt16 8
  deriving DecidableEq, Repr

namespace Ipv6

def ofPieces? (pieces : List UInt16) : Option Ipv6 :=
  if size : pieces.toArray.size = 8 then some ⟨⟨pieces.toArray, size⟩⟩ else none

def piece? (text : List Char) : Option UInt16 :=
  if 4 < text.length then none else (Text.number? 16 text).map (·.toUInt16)

def pair (high low : UInt8) : UInt16 :=
  high.toUInt16 * 256 + low.toUInt16

def pieces? : List (List Char) -> Option (List UInt16)
  | [] => some []
  | [last] =>
      match Ipv4.parse? last with
      | some octets => some [pair octets.first octets.second, pair octets.third octets.fourth]
      | none => (piece? last).map ([·])
  | group :: rest => do
      let piece ← piece? group
      pure (piece :: (← pieces? rest))

def cutAtGap? : List Char -> Option (List Char × List Char)
  | ':' :: ':' :: rest => some ([], rest)
  | char :: rest => (cutAtGap? rest).map fun (before, after) => (char :: before, after)
  | [] => none

def groups (text : List Char) : List (List Char) :=
  if text.isEmpty then [] else Text.splitOn ':' text

def parse? (text : List Char) : Option Ipv6 :=
  match cutAtGap? text with
  | none => do ofPieces? (← pieces? (groups text))
  | some (before, after) => do
      let front ← (groups before).mapM piece?
      let back ← pieces? (groups after)
      let written := front.length + back.length
      if 8 ≤ written then none
      else ofPieces? (front ++ List.replicate (8 - written) 0 ++ back)

def leadingZeros (pieces : List UInt16) : Nat :=
  (pieces.takeWhile (· = 0)).length

def longestRun : List UInt16 -> Nat × Nat
  | [] => (0, 0)
  | piece :: rest =>
      let here := leadingZeros (piece :: rest)
      let (start, length) := longestRun rest
      if length ≤ here then (0, here) else (start + 1, length)

def pieceText (piece : UInt16) : List Char :=
  Nat.toDigits 16 piece.toNat

def joined (pieces : List UInt16) : List Char :=
  Text.joinWith ':' (pieces.map pieceText)

def text (address : Ipv6) : List Char :=
  let pieces := address.pieces.toList
  let (start, length) := longestRun pieces
  if length < 2 then joined pieces
  else joined (pieces.take start) ++ [':', ':'] ++ joined (pieces.drop (start + length))

end Ipv6

end Workbench
