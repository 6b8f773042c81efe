import Workbench.Text.Property

set_option autoImplicit false

namespace Workbench.Env

open Text (resume length_resume_le)

abbrev Environment := List Char -> Option (List Char)

inductive Segment
  | text (text : List Char)
  | variable (name : List Char) (fallback : Option (List Char))
  deriving DecidableEq, Repr

def isGroupName (name : List Char) : Bool :=
  name.all Char.isDigit

def Segment.reference (name : List Char) (fallback : Option (List Char)) (written : List Char) :
    Segment :=
  if isGroupName name then .text (fallback.getD written) else .variable name fallback

def isNameChar (char : Char) : Bool :=
  if char.toNat < 0x80 then char.isAlphanum || char = '_'
  else Property.alphabetic.contains char || Category.number.contains char

def cutFallback? : List Char -> Option (List Char × List Char)
  | [] => none
  | ':' :: '-' :: rest => some ([], rest)
  | char :: rest => (cutFallback? rest).map fun (name, fallback) => (char :: name, fallback)

def Segment.ofBraces (body : List Char) : Segment :=
  let written := '$' :: '\x7b' :: body ++ ['\x7d']
  match cutFallback? body with
  | some (first :: name, fallback) => .reference (first :: name) (some fallback) written
  | _ => .reference body none written

def segments : List Char -> List Segment
  | [] => []
  | char :: rest =>
      if char = '$' then
        match rest with
        | '\x7b' :: inner =>
            match Text.cutAt? '\x7d' inner with
            | some (body, after) => .ofBraces body :: segments (resume inner after)
            | none => .text ['$', '\x7b'] :: segments inner
        | '$' :: after => .text ['$'] :: segments after
        | after =>
            let name := after.takeWhile isNameChar
            if name.isEmpty then .text ['$'] :: segments after
            else .reference name none ('$' :: name) :: segments (after.drop name.length)
      else .text [char] :: segments rest
termination_by text => text.length
decreasing_by
  · have := length_resume_le inner after
    simp only [List.length_cons]
    omega
  · simp only [List.length_cons]; omega
  · simp only [List.length_cons]; omega
  · simp
  · simp only [List.length_drop, List.length_cons]; omega
  · simp

def Segment.expand (environment : Environment) : Segment -> Except (List Char) (List Char)
  | .text written => .ok written
  | .variable name fallback =>
      match environment name, fallback with
      | some value, _ => .ok value
      | none, some fallback => .ok fallback
      | none, none => .error name

def expandSegments (environment : Environment) :
    List Segment -> Except (List Char) (List Char)
  | [] => .ok []
  | segment :: rest => do
      let text ← segment.expand environment
      let others ← expandSegments environment rest
      pure (text ++ others)

def hasBrace : List Char -> Bool
  | [] => false
  | '$' :: '\x7b' :: _ => true
  | _ :: rest => hasBrace rest

def expand (environment : Environment) (value : List Char) : Except (List Char) (List Char) :=
  if hasBrace value then expandSegments environment (segments value) else .ok value

structure Unset where
  field : String
  name : List Char
  deriving DecidableEq, Repr

def Unset.detail (unset : Unset) : String :=
  "$\x7b" ++ String.ofList unset.name ++ "\x7d not set"

def expandField (environment : Environment) (field value : String) : Except Unset String :=
  match expand environment value.toList with
  | .ok text => .ok (String.ofList text)
  | .error name => .error ⟨field, name⟩

def indexed (field : String) (index : Nat) : String :=
  field ++ "[" ++ toString index ++ "]"

def expandEntries (environment : Environment) (field : String) (index : Nat) :
    List String -> List String × Option Unset
  | [] => ([], none)
  | value :: rest =>
      match expandField environment (indexed field index) value with
      | .error unset => (value :: rest, some unset)
      | .ok expanded =>
          let (others, failure) := expandEntries environment field (index + 1) rest
          (expanded :: others, failure)

def expandAll (environment : Environment) (field : String) (values : List String) :
    List String × Option Unset :=
  expandEntries environment field 0 values

end Workbench.Env
