import Workbench.Text.Blank

set_option autoImplicit false

namespace Workbench

structure CharRange where
  first : Char
  last : Char
  deriving DecidableEq, Repr

def CharRange.contains (range : CharRange) (char : Char) : Bool :=
  range.first ≤ char && char ≤ range.last

namespace Glob

inductive Token
  | literal (char : Char)
  | anyChar
  | within (ranges : List CharRange)
  | except (ranges : List CharRange)
  | sequence
  | components
  deriving DecidableEq, Repr

end Glob

structure Glob where
  source : List Char
  tokens : List Glob.Token
  deriving DecidableEq, Repr

namespace Glob

def rangesOf : List Char -> List CharRange
  | first :: '-' :: last :: rest => ⟨first, last⟩ :: rangesOf rest
  | char :: rest => ⟨char, char⟩ :: rangesOf rest
  | [] => []

def class? : List Char -> Option (Token × List Char)
  | '!' :: first :: rest =>
      (Text.cutAt? ']' rest).map fun (body, after) => (.except (rangesOf (first :: body)), after)
  | '!' :: [] => none
  | first :: rest =>
      (Text.cutAt? ']' rest).map fun (body, after) => (.within (rangesOf (first :: body)), after)
  | [] => none

def tokens? (fresh : Bool) : List Char -> Option (List Token)
  | [] => some []
  | '*' :: '*' :: '*' :: _ => none
  | '*' :: '*' :: '/' :: rest =>
      if fresh then (tokens? true rest).map (Token.components :: ·) else none
  | '*' :: '*' :: [] => if fresh then some [.components] else none
  | '*' :: '*' :: _ => none
  | '*' :: rest => (tokens? false rest).map (Token.sequence :: ·)
  | '?' :: rest => (tokens? false rest).map (Token.anyChar :: ·)
  | '[' :: rest =>
      match class? rest with
      | some (token, after) => (tokens? false (Text.resume rest after)).map (token :: ·)
      | none => none
  | char :: rest => (tokens? (char = '/') rest).map (Token.literal char :: ·)
termination_by text => text.length
decreasing_by
  · simp only [List.length_cons]; omega
  · simp
  · simp
  · exact Nat.lt_succ_of_le (Text.length_resume_le _ _)
  · simp

def parse? (source : List Char) : Option Glob :=
  (tokens? true source).map fun tokens => ⟨source, tokens⟩

inductive Verdict
  | matched
  | mismatch
  | tooShort
  deriving DecidableEq, Repr

def firstDecided (judge : List Char -> Verdict) : List (List Char) -> Verdict
  | [] => .mismatch
  | text :: rest =>
      match judge text with
      | .mismatch => firstDecided judge rest
      | verdict => verdict

def suffixes : List Char -> List (List Char)
  | [] => [[]]
  | char :: rest => (char :: rest) :: suffixes rest

def behindSlashes : List Char -> List (List Char)
  | [] => []
  | char :: rest => if char = '/' then rest :: behindSlashes rest else behindSlashes rest

def Token.admits : Token -> Char -> Bool
  | .literal expected, char => expected = char
  | .anyChar, _ => true
  | .within ranges, char => ranges.any (·.contains char)
  | .except ranges, char => !ranges.any (·.contains char)
  | .sequence, _ | .components, _ => false

def judge : List Token -> List Char -> Verdict
  | [], text => if text.isEmpty then .matched else .mismatch
  | .sequence :: tokens, text => firstDecided (judge tokens) (suffixes text)
  | .components :: tokens, text =>
      firstDecided (judge tokens) (text :: behindSlashes text ++ [[]])
  | _ :: _, [] => .tooShort
  | token :: tokens, char :: rest => if token.admits char then judge tokens rest else .mismatch

def accepts (glob : Glob) (text : List Char) : Bool :=
  judge glob.tokens text = .matched

end Glob

end Workbench
