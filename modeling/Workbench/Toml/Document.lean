import Workbench.Toml.Scalar
import Workbench.Toml.Text

set_option autoImplicit false

namespace Workbench.Toml

open Text (resume length_resume_le)

def skipGaps? (text : List Char) : Option (List Char) :=
  match text with
  | [] => some []
  | char :: rest =>
      if isSpace char then skipGaps? rest
      else if char = '#' then
        match skipComment? (char :: rest) with
        | some after => skipGaps? (resume rest after)
        | none => none
      else
        match afterBreak? (char :: rest) with
        | some after => skipGaps? (resume rest after)
        | none => some (char :: rest)
termination_by text.length
decreasing_by
  · simp
  · exact Nat.lt_succ_of_le (length_resume_le _ _)
  · exact Nat.lt_succ_of_le (length_resume_le _ _)

abbrev ValueReader := List Char -> Option (Value × List Char)

def readItems? (readValue : ValueReader) : List Char -> Option (List Value × List Char)
  | [] => none
  | first :: tail =>
      match skipGaps? (first :: tail) with
      | some (']' :: rest) => some ([], rest)
      | some (char :: rest) =>
          match readValue (char :: rest) with
          | none => none
          | some (value, after) =>
              match skipGaps? after with
              | some (',' :: after) =>
                  (readItems? readValue (resume tail after)).map fun (values, rest) =>
                    (value :: values, rest)
              | some (']' :: after) => some ([value], after)
              | _ => none
      | _ => none
termination_by text => text.length
decreasing_by exact Nat.lt_succ_of_le (length_resume_le _ _)

def readPair? (readValue : ValueReader) (text : List Char) :
    Option (List Key × Value × List Char) := do
  let (keys, rest) ← readKey? text
  match rest with
  | '=' :: rest =>
      let (value, rest) ← readValue (dropSpaces rest)
      pure (keys, value, rest)
  | _ => none

def addPair? (keys : List Key) (value : Value) (origin : Origin) (entries : Entries) :
    Option Value := do
  addValue? keys.dropLast (← keys.getLast?) value origin entries

def readBraces? (readValue : ValueReader) (entries : Entries) :
    List Char -> Option (Entries × List Char)
  | [] => none
  | first :: tail =>
      match skipGaps? (first :: tail) with
      | some ('\x7d' :: rest) => some (entries, rest)
      | some (char :: rest) =>
          match readPair? readValue (char :: rest) with
          | none => none
          | some (keys, value, after) =>
              match addPair? keys value .header entries, skipGaps? after with
              | some (.table _ entries), some (',' :: after) =>
                  readBraces? readValue entries (resume tail after)
              | some (.table _ entries), some ('\x7d' :: after) => some (entries, after)
              | _, _ => none
      | _ => none
termination_by text => text.length
decreasing_by exact Nat.lt_succ_of_le (length_resume_le _ _)

def readValue? : Nat -> ValueReader
  | 0, _ => none
  | depth + 1, text =>
      match text with
      | '[' :: rest =>
          (readItems? (readValue? depth) rest).map fun (items, rest) => (.array false items, rest)
      | '\x7b' :: rest =>
          (readBraces? (readValue? depth) [] rest).map fun (entries, rest) =>
            (.table .braces entries, rest)
      | '"' :: _ => (readString? text).map fun (value, rest) => (.text value, rest)
      | '\'' :: _ => (readString? text).map fun (value, rest) => (.text value, rest)
      | _ =>
          let (word, rest) := takeWord text
          (scalar? word).map fun value => (value, rest)

def maxDepth : Nat := 80

structure ReadState where
  origin : Origin := .header
  entries : Entries := []
  header : List Key := []

def ReadState.ofValue? (header : List Key) : Value -> Option ReadState
  | .table origin entries => some { origin := origin, entries := entries, header := header }
  | _ => none

def ReadState.readHeader? (state : ReadState) (text : List Char) :
    Option (ReadState × List Char) := do
  match text with
  | '[' :: rest =>
      let (keys, rest) ← readKey? rest
      match rest with
      | ']' :: ']' :: rest =>
          let value ← addElement? keys.dropLast (← keys.getLast?) state.origin state.entries
          pure (← ReadState.ofValue? keys value, rest)
      | _ => none
  | _ =>
      let (keys, rest) ← readKey? text
      match rest with
      | ']' :: rest =>
          let value ← addTable? keys.dropLast (← keys.getLast?) state.origin state.entries
          pure (← ReadState.ofValue? keys value, rest)
      | _ => none

def ReadState.readPair? (state : ReadState) (text : List Char) :
    Option (ReadState × List Char) := do
  let (keys, value, rest) ← Toml.readPair? (readValue? (maxDepth + 1)) text
  let value ← editAt? false (addPair? keys value) state.header state.origin state.entries
  pure (← ReadState.ofValue? state.header value, rest)

def ReadState.readLines? (state : ReadState) : List Char -> Option Entries
  | [] => some state.entries
  | first :: tail =>
      match skipGaps? (first :: tail) with
      | none => none
      | some [] => some state.entries
      | some (char :: rest) =>
          let read := if char = '[' then state.readHeader? rest else state.readPair? (char :: rest)
          match read with
          | none => none
          | some (state, after) =>
              match endLine? after with
              | some after => state.readLines? (resume tail after)
              | none => none
termination_by text => text.length
decreasing_by exact Nat.lt_succ_of_le (length_resume_le _ _)

def parse? (text : List Char) : Option Entries :=
  ReadState.readLines? {} (if text.head? = some '\ufeff' then text.drop 1 else text)

end Workbench.Toml
