import Workbench.Dev.Site

set_option autoImplicit false

namespace Workbench.Site

open Http (Request Response)

variable {site : Site} {request : Request}

def targetAsked? (site : Site) (request : Request) : Option (List Char) :=
  (site.outbound? request).map (·.url.target)

theorem outbound?_eq_some {sent : Outbound} (asks : site.outbound? request = some sent) :
    ∃ target, site.route request = .rules ∧
      evaluate site.rules request.uri.target = .proxy target ∧
      outbound target request = .ok sent := by
  unfold outbound? at asks
  split at asks
  next target routed proxied =>
    refine ⟨target, routed, proxied, ?_⟩
    cases made : outbound target request with
    | error fault =>
        rw [made] at asks
        contradiction
    | ok other =>
        rw [made] at asks
        exact congrArg Except.ok (Option.some.inj asks)
  next => contradiction

theorem forward_of_outbound {target : List Char} {sent : Outbound}
    (made : outbound target request = .ok sent) (transport : Transport) :
    forward transport target request =
      match transport sent with
      | some response => .ok (relayed response)
      | none => .error (.unanswered target .unreachable sent.url) := by
  rw [forward, made]
  rfl

theorem forward_of_error {target : List Char} {error : ForwardError}
    (failed : outbound target request = .error error) (transport : Transport) :
    forward transport target request = .error error := by
  rw [forward, failed]
  rfl

theorem answer_of_outbound {sent : Outbound} (asks : site.outbound? request = some sent)
    (assets : Assets) (transport : Transport) {response : Response}
    (answered : transport sent = some response) :
    site.answer assets transport request = relayed response := by
  obtain ⟨target, routed, proxied, made⟩ := outbound?_eq_some asks
  rw [answer, routed]
  dsimp only
  rw [dispatch, proxied]
  dsimp only
  rw [forward_of_outbound made, answered]

theorem answer_of_no_outbound (asks : site.outbound? request = none) (assets : Assets)
    (transport other : Transport) :
    site.answer assets transport request = site.answer assets other request := by
  unfold answer
  cases routed : site.route request with
  | channel => rfl
  | script => rfl
  | rules =>
      dsimp only
      unfold dispatch
      cases outcome : evaluate site.rules request.uri.target with
      | proxy target =>
          dsimp only
          cases made : outbound target request with
          | error error => rw [forward_of_error made, forward_of_error made]
          | ok sent =>
              unfold outbound? at asks
              rw [routed, outcome] at asks
              dsimp only at asks
              rw [made] at asks
              contradiction
      | redirect location status => rfl
      | status code => rfl
      | rewritten url => rfl
      | unchanged => rfl

end Workbench.Site
