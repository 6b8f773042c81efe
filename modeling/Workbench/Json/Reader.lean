import Workbench.Json.Token

set_option autoImplicit false

namespace Workbench.Json

open Text (resume length_resume_le)

theorem length_lt_of_resume {tokens after rest : List Token} {token : Token}
    (behind : resume tokens after = token :: rest) : rest.length < tokens.length := by
  have := length_resume_le tokens after
  rw [behind, List.length_cons] at this
  omega

mutual

def value? : List Token -> Option (Value × List Token)
  | .scalar value :: rest => some (value, rest)
  | .openArray :: .closeArray :: rest => some (.array [], rest)
  | .openArray :: rest =>
      (items? rest).map fun (items, after) => (.array items, after)
  | .openObject :: .closeObject :: rest => some (.object [], rest)
  | .openObject :: rest =>
      (members? rest).map fun (members, after) => (.object members, after)
  | _ => none
termination_by tokens => (tokens.length, 0)
decreasing_by
  all_goals apply Prod.Lex.left; simp

def items? (tokens : List Token) : Option (List Value × List Token) :=
  match value? tokens with
  | none => none
  | some (value, after) =>
      match _behind : resume tokens after with
      | .closeArray :: rest => some ([value], rest)
      | .comma :: rest => (items? rest).map fun (values, after) => (value :: values, after)
      | _ => none
termination_by (tokens.length, 1)
decreasing_by
  · apply Prod.Lex.right; simp
  · exact Prod.Lex.left _ _ (length_lt_of_resume _behind)

def members? : List Token -> Option (List (String × Value) × List Token)
  | .scalar (.string key) :: .colon :: tokens =>
      match value? tokens with
      | none => none
      | some (value, after) =>
          match _behind : resume tokens after with
          | .closeObject :: rest => some ([(key, value)], rest)
          | .comma :: rest =>
              (members? rest).map fun (members, after) => ((key, value) :: members, after)
          | _ => none
  | _ => none
termination_by tokens => (tokens.length, 1)
decreasing_by
  · apply Prod.Lex.left; simp only [List.length_cons]; omega
  · apply Prod.Lex.left
    have := length_lt_of_resume _behind
    simp only [List.length_cons]
    omega

end

def parse? (text : List Char) : Option Value :=
  match (tokens? text).bind value? with
  | some (value, []) => some value
  | _ => none

end Workbench.Json
