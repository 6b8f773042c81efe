import Workbench.Rule.Parser

set_option autoImplicit false

namespace Workbench

inductive Outcome
  | proxy (target : List Char)
  | redirect (location : List Char) (status : Nat)
  | status (code : Nat)
  | rewritten (url : List Char)
  | unchanged
  deriving DecidableEq, Repr

abbrev Search (α : Type) := α -> List Char -> Option Groups

def Rule.apply? {α : Type} (search : Search α) (rule : Rule α) (url : List Char) :
    Option (List Char) :=
  let replace := fun groups =>
    match rule.replacement with
    | some template => Template.expand template groups
    | none => url
  match search rule.pattern url with
  | some groups => if rule.negated then none else some (replace (some groups))
  | none => if rule.negated then some (replace none) else none

def Outcome.ofUrl (changed : Bool) (url : List Char) : Outcome :=
  if changed then .rewritten url else .unchanged

def evaluateFrom {α : Type} (search : Search α) (changed : Bool) (url : List Char) :
    List (Rule α) -> Outcome
  | [] => .ofUrl changed url
  | rule :: rest =>
      match rule.apply? search url with
      | none => evaluateFrom search changed url rest
      | some target =>
          match rule.action with
          | .proxy => .proxy target
          | .redirect status => .redirect target status
          | .respond code => .status code
          | .rewrite =>
              -- A rule that fires and leaves the URL as it is counts as no change.
              let changed := changed || target ≠ url
              if rule.last then .ofUrl changed target
              else evaluateFrom search changed target rest

def evaluateWith {α : Type} (search : Search α) (rules : List (Rule α)) (url : List Char) :
    Outcome :=
  evaluateFrom search false url rules

def evaluate (rules : List (Rule Pattern)) (url : List Char) : Outcome :=
  evaluateWith Pattern.search rules url

end Workbench
