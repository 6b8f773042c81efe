import Workbench.Pattern.Machine
import Workbench.Rule.Basic
import Workbench.Rule.Template
import Workbench.Text.Blank

set_option autoImplicit false

namespace Workbench

structure RuleFlags where
  action : Action := .rewrite
  last : Bool := false
  ignoreCase : Bool := false
  deriving DecidableEq, Repr

inductive RuleFlag
  | action (action : Action)
  | last
  | ignoreCase
  deriving DecidableEq, Repr

def redirectStatus? (code : List Char) : Option Nat :=
  let digits := match code with
    | '+' :: rest => rest
    | _ => code
  (Text.number? 10 digits).filter fun status => 300 ≤ status && status ≤ 399

def RuleFlag.parse (flag : List Char) : Except RuleFault RuleFlag :=
  match Text.cutAt? '=' flag with
  | none =>
      match flag.map Char.toUpper with
      | ['L'] => .ok .last
      | ['N', 'C'] => .ok .ignoreCase
      | ['P'] => .ok (.action .proxy)
      | ['F'] => .ok (.action (.respond 403))
      | ['G'] => .ok (.action (.respond 410))
      | ['R'] => .ok (.action (.redirect 302))
      | _ => .error (.unknownFlag flag)
  | some (name, code) =>
      if name.map Char.toUpper = ['R'] then
        match redirectStatus? code with
        | some status => .ok (.action (.redirect status))
        | none => .error (.redirectStatus code)
      else .error (.unknownFlag flag)

def RuleFlags.add (flags : RuleFlags) : RuleFlag -> Except RuleFault RuleFlags
  | .last => .ok { flags with last := true }
  | .ignoreCase => .ok { flags with ignoreCase := true }
  | .action action =>
      if flags.action = .rewrite then .ok { flags with action := action }
      else .error .severalActions

def RuleFlags.addAll (flags : RuleFlags) : List (List Char) -> Except RuleFault RuleFlags
  | [] => .ok flags
  | flag :: rest => do
      let flags ← flags.add (← RuleFlag.parse flag)
      flags.addAll rest

def unbracket? (block : List Char) : Option (List Char) :=
  match block with
  | '[' :: rest => if rest.getLast? = some ']' then some rest.dropLast else none
  | _ => none

def RuleFlags.parse (block : List Char) : Except RuleFault RuleFlags :=
  match unbracket? block with
  | none => .error (.noBrackets block)
  | some inner => RuleFlags.addAll {} ((Text.splitOn ',' inner).filter (!·.isEmpty))

def isAbsoluteTarget (target : List Char) : Bool :=
  "http://".toList.isPrefixOf target || "https://".toList.isPrefixOf target

def Rule.ofWords {α : Type} (compile : List Char -> Bool -> Option α)
    (pattern replacement : List Char) (block : Option (List Char)) :
    Except RuleFault (Rule α) := do
  -- The flags come first: a fault in them is told even if the pattern has one as well.
  let flags ← match block with
    | some block => RuleFlags.parse block
    | none => .ok {}
  let (negated, pattern) := match pattern with
    | '!' :: rest => (true, rest)
    | _ => (false, pattern)
  let some compiled := compile pattern flags.ignoreCase | throw .pattern
  let replacement := if replacement = ['-'] then none else some replacement
  if flags.action = .proxy && !replacement.any isAbsoluteTarget then throw .relativeTarget
  pure {
    pattern := compiled
    negated := negated
    replacement := replacement
    action := flags.action
    last := flags.last }

def Rule.parseWith {α : Type} (compile : List Char -> Bool -> Option α) (rule : List Char) :
    Except RuleError (Rule α) :=
  let parsed : Except RuleFault (Rule α) :=
    match Text.words rule with
    | [] => .error .empty
    | [_] => .error .noReplacement
    | [pattern, replacement] => Rule.ofWords compile pattern replacement none
    | [pattern, replacement, block] => Rule.ofWords compile pattern replacement (some block)
    | _ => .error .surplus
  parsed.mapError fun fault => ⟨rule, fault⟩

def Rule.parse (rule : List Char) : Except RuleError (Rule Pattern) :=
  Rule.parseWith Pattern.parse? rule

def Rule.parseAll (rules : List (List Char)) : Except RuleError (List (Rule Pattern)) :=
  rules.mapM Rule.parse

end Workbench
