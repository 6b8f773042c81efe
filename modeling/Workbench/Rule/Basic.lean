import Workbench.Text.Quoted

set_option autoImplicit false

namespace Workbench

inductive Action
  | rewrite
  | proxy
  | redirect (status : Nat)
  | respond (status : Nat)
  deriving DecidableEq, Repr

def Action.isTerminal : Action -> Bool
  | .rewrite => false
  | .proxy | .redirect _ | .respond _ => true

structure Rule (α : Type) where
  pattern : α
  negated : Bool
  replacement : Option (List Char)
  action : Action
  last : Bool

inductive RuleFault
  | empty
  | noReplacement
  | surplus
  | noBrackets (block : List Char)
  | severalActions
  | relativeTarget
  | pattern
  | unknownFlag (flag : List Char)
  | redirectStatus (code : List Char)
  deriving DecidableEq, Repr

structure RuleError where
  rule : List Char
  fault : RuleFault
  deriving DecidableEq, Repr

def RuleFault.message? : RuleFault -> Option String
  | .empty => some "empty rule"
  | .noReplacement => some "missing replacement"
  | .surplus => some "expected `<pattern> <replacement> [FLAGS]`"
  | .noBrackets block =>
      some ("flags must be enclosed in brackets, got " ++ Text.quote (String.ofList block))
  | .severalActions => some "only one of P, R, F or G may be given"
  | .relativeTarget => some "[P] needs an absolute http:// or https:// replacement"
  | .pattern | .unknownFlag _ | .redirectStatus _ => none

def RuleError.message (error : RuleError) : String :=
  let rule := Text.quote (String.ofList error.rule)
  match error.fault with
  | .pattern => "Invalid pattern in rewrite rule " ++ rule
  | .unknownFlag flag =>
      "Unknown flag " ++ Text.quote (String.ofList flag) ++ " in rewrite rule " ++ rule
  | .redirectStatus code =>
      "Invalid redirect status " ++ Text.quote (String.ofList code) ++ " in rewrite rule " ++ rule
  | fault => "Invalid rewrite rule " ++ rule ++ ": " ++ fault.message?.getD ""

end Workbench
