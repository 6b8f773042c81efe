import Workbench.Proofs.Dev.Asked
import Workbench.Proofs.Rule.Backend
import Workbench.Proofs.Rule.Walk
import Workbench.Proofs.Url.Origin

set_option autoImplicit false

namespace Workbench

open Http (Request)

theorem parsed_of_mem_parseAll {texts : List (List Char)} {rules : List (Rule Pattern)}
    (accepted : Rule.parseAll texts = .ok rules) {rule : Rule Pattern} (among : rule ∈ rules) :
    ∃ text ∈ texts, Rule.parse text = .ok rule := by
  induction texts generalizing rules with
  | nil =>
      cases accepted
      contradiction
  | cons text rest ih =>
      rw [Rule.parseAll, List.mapM_cons] at accepted
      cases first : Rule.parse text with
      | error error =>
          rw [first] at accepted
          cases accepted
      | ok head =>
          cases behind : rest.mapM Rule.parse with
          | error error =>
              rw [first, behind] at accepted
              cases accepted
          | ok tail =>
              rw [first, behind] at accepted
              cases accepted
              obtain rfl | later := List.mem_cons.mp among
              next => exact ⟨text, List.mem_cons_self, first⟩
              next =>
                obtain ⟨other, member, parsed⟩ := ih behind later
                exact ⟨other, List.mem_cons_of_mem _ member, parsed⟩

theorem replacement_of_proxy {text : List Char} {rule : Rule Pattern}
    (parsed : Rule.parse text = .ok rule) (proxy : rule.action = .proxy) :
    ∃ replacement, rule.replacement = some replacement ∧ AbsoluteTarget replacement ∧
      ∀ char ∈ replacement, Text.isBlank char = false := by
  rw [Rule.parse, parseWith_eq_ok_iff] at parsed
  cases parsed with
  | @intro word source replacement pieces flags negated pattern words said sourced compiles
      proxied =>
      have absolute := proxied proxy
      have named : replacement ≠ ['-'] := by
        rintro rfl
        obtain found | found := absolute <;> exact absurd found (by decide)
      refine ⟨replacement, if_neg named, absolute, ?_⟩
      obtain ⟨block, split, _⟩ := words
      rw [← words_eq_tokens] at split
      have word : replacement ∈ Text.words text := by simp [split]
      exact Text.no_blank_of_mem_words word

theorem rule_of_proxied {rules : List (Rule Pattern)} {url target : List Char}
    (proxied : evaluate rules url = .proxy target) :
    ∃ before rule after, rules = before ++ rule :: after ∧ rule.action = .proxy ∧
      target = rule.target Pattern.search (urlBehind Pattern.search url before) := by
  obtain ⟨before, rule, after, split, answer⟩ :=
    rule_of_answer Pattern.search proxied (by simp) (by simp)
  obtain ⟨action, target⟩ := (Action.outcome?_eq_some_proxy_iff _ _ _).mp answer
  exact ⟨before, rule, after, split, action, target.symm⟩

section
variable {replacement : List Char} {rule : Rule Pattern}
  (written : rule.replacement = some replacement)
include written

theorem target_of_plain_front {front rest : List Char} (cut : replacement = front ++ rest)
    (free : '$' ∉ front) (url : List Char) :
    ∃ behind, rule.target Pattern.search url = front ++ behind := by
  rw [Rule.target, written, cut]
  exact ⟨_, Template.expand_append free rest _⟩

theorem absoluteTarget_target (absolute : AbsoluteTarget replacement) (url : List Char) :
    AbsoluteTarget (rule.target Pattern.search url) := by
  obtain ⟨rest, cut⟩ | ⟨rest, cut⟩ := absolute
  next =>
    obtain ⟨behind, same⟩ := target_of_plain_front written cut.symm (by decide) url
    exact .inl ⟨behind, same.symm⟩
  next =>
    obtain ⟨behind, same⟩ := target_of_plain_front written cut.symm (by decide) url
    exact .inr ⟨behind, same.symm⟩

end

theorem parse_ne_otherScheme_of_absolute {target : List Char} (absolute : AbsoluteTarget target)
    (scheme : List Char) : Url.parse target ≠ .error (.otherScheme scheme) := by
  obtain ⟨rest, rfl⟩ | ⟨rest, rfl⟩ := absolute
  next =>
    have web : "http".toList ∈ Url.webSchemes := by decide
    exact Url.parse_ne_otherScheme web rest scheme
  next =>
    have web : "https".toList ∈ Url.webSchemes := by decide
    exact Url.parse_ne_otherScheme web rest scheme

theorem fault_of_forward {transport : Transport} {target : List Char} {request : Request}
    {fault : UrlFault}
    (failed : forward transport target request = .error (.invalidTarget target fault)) :
    Url.parse target = .error fault := by
  cases made : outbound target request with
  | error error =>
      rw [Site.forward_of_error made] at failed
      cases failed
      rw [outbound] at made
      split at made
      next other faulty =>
        cases made
        exact faulty
      next =>
        dsimp only at made
        split at made <;> cases made
  | ok sent =>
      rw [Site.forward_of_outbound made] at failed
      split at failed <;> cases failed

-- Does a replacement name its host for good? It does if the host has ended before the first dollar
-- sign, or without any.
def FixesHost (replacement : List Char) : Prop :=
  '$' ∉ replacement ∨
    ∃ front rest, replacement = front ++ rest ∧ Url.EndsHost front ∧ '$' ∉ front

theorem isBreak_of_not_blank {char : Char} (noBlank : Text.isBlank char = false) :
    Url.isBreak char = false := by
  rw [← Bool.not_eq_true, Url.isBreak]
  simp only [Bool.or_eq_true, decide_eq_true_eq]
  rintro ((rfl | rfl) | rfl) <;> exact absurd noBlank (by decide)

theorem map_origin_target_congr {replacement : List Char} {rule : Rule Pattern}
    (written : rule.replacement = some replacement)
    (noBlank : ∀ char ∈ replacement, Text.isBlank char = false) (fixed : FixesHost replacement)
    (url other : List Char) :
    (Url.parse (rule.target Pattern.search url)).map Url.origin =
      (Url.parse (rule.target Pattern.search other)).map Url.origin := by
  obtain free | ⟨front, rest, rfl, ended, free⟩ := fixed
  next => simp only [Rule.target, written, Template.expand_of_plain free]
  next =>
    obtain ⟨behind, left⟩ := target_of_plain_front written rfl free url
    obtain ⟨behind', right⟩ := target_of_plain_front written rfl free other
    rw [left, right]
    apply Url.map_origin_parse_congr ended
    intro char mem
    exact isBreak_of_not_blank (noBlank char (List.mem_append_left rest mem))

theorem evaluate_of_stopsAt {before after : List (Rule Pattern)} {rule : Rule Pattern}
    {url : List Char} (proxy : rule.action = .proxy)
    (stop : StopsAt Pattern.search url before rule) :
    evaluate (before ++ rule :: after) url =
      .proxy (rule.target Pattern.search (urlBehind Pattern.search url before)) := by
  have terminal : rule.action.isTerminal = true := by rw [proxy]; rfl
  have answer := answer_of_terminal Pattern.search before after rule url stop terminal
  rw [proxy] at answer
  exact (Option.some.inj answer).symm

/-- The target of a proxied request is a web address by its scheme, so that the scheme is never
what forwarding fails at. A rule that fixes its host sends all that it decides to one origin,
whatever is asked for. -/
theorem proxied_targets_stay_on_origin {texts : List (List Char)} {rules : List (Rule Pattern)}
    (accepted : Rule.parseAll texts = .ok rules) :
    (∀ url target, evaluate rules url = .proxy target → AbsoluteTarget target) ∧
    (∀ (request : Request) target, evaluate rules request.uri.target = .proxy target →
      ∀ transport scheme,
        forward transport target request ≠ .error (.invalidTarget target (.otherScheme scheme))) ∧
    ∀ before rule after replacement, rules = before ++ rule :: after → rule.action = .proxy →
      rule.replacement = some replacement → FixesHost replacement →
      ∀ url other, StopsAt Pattern.search url before rule →
        StopsAt Pattern.search other before rule →
        ∃ target target', evaluate rules url = .proxy target ∧
          evaluate rules other = .proxy target' ∧
          (Url.parse target).map Url.origin = (Url.parse target').map Url.origin := by
  have absolute : ∀ url target, evaluate rules url = .proxy target → AbsoluteTarget target := by
    intro url target proxied
    obtain ⟨before, rule, after, split, proxy, rfl⟩ := rule_of_proxied proxied
    have among : rule ∈ rules := by simp [split]
    obtain ⟨text, _, parsed⟩ := parsed_of_mem_parseAll accepted among
    obtain ⟨replacement, written, absolute, _⟩ := replacement_of_proxy parsed proxy
    exact absoluteTarget_target written absolute _
  refine ⟨absolute, ?_, ?_⟩
  · intro request target proxied transport scheme failed
    exact parse_ne_otherScheme_of_absolute (absolute _ _ proxied) scheme (fault_of_forward failed)
  · intro before rule after replacement split proxy written fixed url other stop stop'
    have among : rule ∈ rules := by simp [split]
    obtain ⟨text, _, parsed⟩ := parsed_of_mem_parseAll accepted among
    obtain ⟨_, same, _, noBlank⟩ := replacement_of_proxy parsed proxy
    cases written.symm.trans same
    subst split
    exact ⟨_, _, evaluate_of_stopsAt proxy stop, evaluate_of_stopsAt proxy stop',
      map_origin_target_congr written noBlank fixed _ _⟩

theorem fixesHost_default : FixesHost (Backend.origin ++ Backend.mark ++ "$1".toList) := by
  have cut : Backend.origin ++ Backend.mark ++ "$1".toList = "http".toList ++ "://".toList ++
      [] ++ 'l' :: "ocalhost:8080".toList ++ ['/'] ++ "REST/$1".toList := by
    decide
  have ended : Url.EndsHost ("http".toList ++ "://".toList ++ [] ++
      'l' :: "ocalhost:8080".toList ++ ['/']) :=
    .intro (by decide) (by simp) (by simp) (by simp)
  exact .inr ⟨_, _, cut, ended, by decide⟩

theorem renamed_targets_stay_on_origin :
    ∃ rules target target',
      Rule.parseAll ["^/api/(.*)$ /REST/$1".toList, defaultRewrite.toList] = .ok rules ∧
      evaluate rules "/api/v1?x=1".toList = .proxy target ∧
      evaluate rules "/REST/\\@elsewhere:9090".toList = .proxy target' ∧
      (Url.parse target).map Url.origin = (Url.parse target').map Url.origin := by
  have read : (Rule.parse "^/api/(.*)$ /REST/$1".toList).map
      (fun rule => (rule.stops, urlBehind Pattern.search "/api/v1?x=1".toList [rule],
        urlBehind Pattern.search "/REST/\\@elsewhere:9090".toList [rule])) =
      .ok (false, "/REST/v1?x=1".toList, "/REST/\\@elsewhere:9090".toList) := by
    decide +kernel
  cases parsed : Rule.parse "^/api/(.*)$ /REST/$1".toList with
  | error error =>
      rw [parsed] at read
      cases read
  | ok prior =>
      rw [parsed] at read
      simp only [Except.map, Except.ok.injEq, Prod.mk.injEq] at read
      obtain ⟨free, first, second⟩ := read
      have accepted : Rule.parseAll ["^/api/(.*)$ /REST/$1".toList, defaultRewrite.toList] =
          .ok [prior, Backend.rule] := by
        have single := Backend.rules_default
        rw [Rule.parseAll] at single ⊢
        rw [List.mapM_cons, parsed, single]
        rfl
      have stops (url : List Char) (taken : (Pattern.search Backend.pattern
          (urlBehind Pattern.search url [prior])).isSome = true) :
          StopsAt Pattern.search url [prior] Backend.rule := by
        refine ⟨?_, ?_, rfl⟩
        · rw [passes_cons]
          exact ⟨fun _ => free, passes_nil _ _⟩
        · rw [Rule.fires, show Backend.rule.pattern = Backend.pattern from rfl, taken]
          rfl
      obtain ⟨target, target', left, right, same⟩ :=
        (proxied_targets_stay_on_origin accepted).2.2 [prior] Backend.rule [] _ rfl rfl rfl
          fixesHost_default _ _ (stops _ (by rw [first]; decide +kernel))
          (stops _ (by rw [second]; decide +kernel))
      exact ⟨_, target, target', accepted, left, right, same⟩

end Workbench
