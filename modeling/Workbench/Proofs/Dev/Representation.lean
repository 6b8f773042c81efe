import Workbench.Proofs.Dev.Reload
import Workbench.Proofs.Static.Part

set_option autoImplicit false

namespace Workbench

open Http (Header Headers Request Response contentLength)

namespace Assets

variable {assets : Assets} {request : Request}

theorem contentRange_partOfFile (path : Path) (content : ByteArray) (range : ByteRange) :
    (partOfFile path content range).headers.values "content-range" =
      [(Header.ofText "content-range" (rangeText range content.size)).value] := by
  simp [Headers.values, partOfFile, fileHeaders, Header.ofText, Http.contentType, contentLength]

end Assets

theorem Http.Response.length_sealed_of_stated {response : Response}
    (stated : response.headers.values contentLength ≠ []) (method : String) :
    (response.sealed method).headers.values contentLength =
      response.headers.values contentLength := by
  have has : response.headers.has contentLength = true := by
    rw [← Bool.not_eq_false, Headers.has_eq_false_iff]
    exact stated
  have kept : response.headers.addMissing
      (.ofText contentLength (toString response.body.size)) = response.headers := if_pos has
  unfold sealed measured
  dsimp only
  rw [kept]
  split_ifs <;> rfl

namespace Site

open Injection (greeting sized_greeting)

variable {site : Site} {assets : Assets} {transport : Transport} {request : Request}
  {rules : List (Rule Pattern)}

-- The answer says which bytes of the whole it has, and has these.
def CarriesPart (response : Response) (whole : ByteArray) : Prop :=
  ∃ range : ByteRange, range.Inside whole.size ∧
    response.headers.values "content-range" =
      [(Header.ofText "content-range" (Assets.rangeText range whole.size)).value] ∧
    response.body = whole.extract range.first (range.last + 1)

structure OneRepresentation (site : Site) (assets : Assets) (transport : Transport)
    (request : Request) (whole : ByteArray) : Prop where
  head : ∀ value ∈ (site.respond assets transport
      { request with method := "HEAD" }).headers.values contentLength,
    value = (Header.ofText contentLength (toString whole.size)).value
  parts : ∀ part : Request, part.uri = request.uri → part.method = "GET" →
    (site.respond assets transport part).status = 206 →
      CarriesPart (site.respond assets transport part) whole

theorem respond_of_rules (routed : site.route request = .rules) :
    site.respond assets transport request =
      (uncached (site.dispatch assets transport request)).sealed request.method := by
  rw [respond, answer, routed]

theorem respond_of_unchanged (routed : site.route request = .rules)
    (unchanged : evaluate site.rules request.uri.target = .unchanged) :
    site.respond assets transport request =
      (uncached (site.serve assets request)).sealed request.method := by
  rw [respond_of_rules routed, dispatch, unchanged]

theorem status_serve (content : (site.serve assets request).status = 200 ∨
    (site.serve assets request).status = 206) :
    (assets.serve request).status = (site.serve assets request).status := by
  unfold serve at content ⊢
  dsimp only at content ⊢
  split at content
  next chosen =>
    rw [if_pos chosen]
    unfold Injection.apply at content ⊢
    split_ifs at content ⊢
    next => simp at content
    next => rfl
    next => rfl
  next kept => rw [if_neg kept]

theorem serve_get (get : request.method = "GET") : assets.serve request = assets.lookup request :=
  if_pos (by simp [get])

theorem serve_of_part {path : Path} {content : ByteArray} (get : request.method = "GET")
    (leads : assets.leads request.uri.pathText = .file path content)
    (part : (site.serve assets request).status = 206) :
    ∃ range : ByteRange, range.Inside content.size ∧
      site.serve assets request = Assets.partOfFile path content range := by
  have status := status_serve (.inr part)
  rw [part] at status
  have unwanted : Injection.wanted (assets.serve request) = false := by
    simp [Injection.wanted, status]
  have plain : site.serve assets request = assets.serve request := by simp [serve, unwanted]
  rw [serve_get get] at status
  have found := Assets.lookup_of_content (.inr status)
  rw [leads] at found
  rw [plain, serve_get get, found]
  rw [found] at status
  obtain ⟨_, _, range, chosen, inside, parted⟩ := Assets.serveFound_of_part status
  obtain ⟨rfl, rfl⟩ := Assets.Found.file.inj chosen
  exact ⟨range, inside, parted⟩

theorem serve_of_whole (get : request.method = "GET")
    (success : (site.serve assets request).status = 200) :
    ∃ path content, assets.leads request.uri.pathText = .file path content ∧
      assets.serve request = Assets.wholeFile path content := by
  have status := status_serve (.inl success)
  rw [success, serve_get get] at status
  have found := Assets.lookup_of_content (.inl status)
  rw [serve_get get, found]
  rw [found] at status
  exact Assets.serveFound_of_success status

theorem carriesPart_of_status {path : Path} {content : ByteArray} (get : request.method = "GET")
    (routed : site.route request = .rules)
    (unchanged : evaluate site.rules request.uri.target = .unchanged)
    (leads : assets.leads request.uri.pathText = .file path content)
    (status : (site.respond assets transport request).status = 206) :
    CarriesPart (site.respond assets transport request) content := by
  rw [respond_of_unchanged routed unchanged] at status ⊢
  rw [Http.Response.status_sealed] at status
  obtain ⟨range, inside, parted⟩ := serve_of_part get leads status
  rw [parted, get]
  refine ⟨range, inside, ?_, ?_⟩
  · rw [Http.Response.values_sealed (by decide), values_uncached (by decide),
      Assets.contentRange_partOfFile]
  · rw [Http.Response.body_sealed_get]
    rfl

theorem length_of_head {path : Path} {content : ByteArray} (get : request.method = "GET")
    (routed : site.route request = .rules)
    (unchanged : evaluate site.rules request.uri.target = .unchanged)
    (whole : assets.serve request = Assets.wholeFile path content) :
    (site.respond assets transport { request with method := "HEAD" }).headers.values
      contentLength = [(Header.ofText contentLength (toString content.size)).value] := by
  have found : assets.serve { request with method := "HEAD" } = assets.serve request := by
    simp only [Assets.serve, get]
    rfl
  have plain : site.serve assets { request with method := "HEAD" } =
      Assets.wholeFile path content := by
    simp [serve, found, whole]
  have stated : (uncached (Assets.wholeFile path content)).headers.values contentLength =
      [(Header.ofText contentLength (toString content.size)).value] := by
    rw [values_uncached (by decide), Assets.contentLength_wholeFile]
  have answered : site.respond assets transport { request with method := "HEAD" } =
      (uncached (Assets.wholeFile path content)).sealed "HEAD" := by
    rw [← plain]
    exact respond_of_unchanged routed unchanged
  rw [answered, Http.Response.length_sealed_of_stated, stated]
  rw [stated]
  exact List.cons_ne_nil _ _

theorem body_respond (get : request.method = "GET") (routed : site.route request = .rules) :
    (site.respond assets transport request).body =
      (site.dispatch assets transport request).body := by
  rw [respond_of_rules routed, get, Http.Response.body_sealed_get]
  rfl

theorem body_of_scripted (reload : Bool) (transport : Transport) (sized : assets.tree.Sized)
    (get : request.method = "GET") (routed : route ⟨rules, reload⟩ request = .rules) :
    let plain := respond ⟨rules, false⟩ assets transport request
    let takes := reload = true ∧ TakesScript rules request plain
    (¬ takes → (respond ⟨rules, reload⟩ assets transport request).body = plain.body) ∧
    (takes → (respond ⟨rules, reload⟩ assets transport request).body =
      Injection.inject plain.body) := by
  intro plain takes
  have plainRouted : route ⟨rules, false⟩ request = .rules := by simp [route]
  have plainBody : plain.body = _ := body_respond get plainRouted
  have plainEq : plain = _ := respond_of_rules plainRouted
  rw [body_respond get routed, plainBody]
  cases reload with
  | false => exact ⟨fun _ => rfl, fun impossible => absurd impossible.1 Bool.false_ne_true⟩
  | true =>
      constructor
      · intro takesNot
        have apart : ¬ TakesScript rules request plain := fun script => takesNot ⟨rfl, script⟩
        rw [dispatch_of_not_takesScript sized (plainEq ▸ apart)]
      · intro scripted
        rw [(dispatch_of_takesScript sized (plainEq ▸ scripted.2)).2]
        rfl

/-- A page with the script is longer than the stored one, of which the ranges are. Whatever else
succeeds has a single representation. -/
theorem ranges_and_length_follow_stored_file (site : Site) (assets : Assets)
    (transport : Transport) (request : Request) (sized : assets.tree.Sized)
    (get : request.method = "GET") (routed : site.route request = .rules)
    (unchanged : evaluate site.rules request.uri.target = .unchanged)
    (success : (site.respond assets transport request).status = 200) :
    let plain := respond ⟨site.rules, false⟩ assets transport request
    let takes := site.reload = true ∧ TakesScript site.rules request plain
    (¬ takes → OneRepresentation site assets transport request
      (site.respond assets transport request).body) ∧
    (takes → (site.respond assets transport request).body = Injection.inject plain.body ∧
      ∀ part : Request, part.uri = request.uri → part.method = "GET" →
        (site.respond assets transport part).status = 206 →
          CarriesPart (site.respond assets transport part) plain.body) := by
  intro plain takes
  obtain ⟨rules, reload⟩ := site
  obtain ⟨unscripted, scripted⟩ := body_of_scripted reload transport sized get routed
  have served : (serve ⟨rules, reload⟩ assets request).status = 200 := by
    rwa [respond_of_unchanged routed unchanged, Http.Response.status_sealed] at success
  obtain ⟨path, content, leads, whole⟩ := serve_of_whole get served
  have plainBody : plain.body = content := by
    have plainRouted : route ⟨rules, false⟩ request = .rules := by simp [route]
    have plainEq : plain = _ := respond_of_unchanged plainRouted unchanged
    rw [plainEq, get, Http.Response.body_sealed_get]
    simp [serve, whole, uncached, Assets.wholeFile]
  have parts : ∀ part : Request, part.uri = request.uri → part.method = "GET" →
      (respond ⟨rules, reload⟩ assets transport part).status = 206 →
        CarriesPart (respond ⟨rules, reload⟩ assets transport part) plain.body := by
    intro part same partGet status
    rw [plainBody]
    refine carriesPart_of_status partGet ?_ (same ▸ unchanged) (same ▸ leads) status
    rw [← routed, route, route, same]
  refine ⟨fun takesNot => ?_, fun taken => ⟨scripted taken, parts⟩⟩
  rw [unscripted takesNot]
  refine ⟨?_, parts⟩
  rw [length_of_head get routed unchanged whole, plainBody]
  exact List.forall_mem_singleton.mpr rfl

def greetingRequest : Request where
  uri := { path := "/hi.html".toList }

def greetingStart : Request :=
  { greetingRequest with headers := [.ofText "range" "bytes=0-2"] }

theorem takesScript_greeting : TakesScript [] greetingRequest
    (respond ⟨[], false⟩ greeting (fun _ => none) greetingRequest) := by
  refine ⟨?_, ?_, ?_, ⟨"text/html".toUTF8.toList, ?_, List.prefix_rfl⟩, ?_, ?_⟩
  all_goals decide +kernel

theorem greeting_has_one_representation_without_script :
    OneRepresentation ⟨[], false⟩ greeting (fun _ => none) greetingRequest
      (respond ⟨[], false⟩ greeting (fun _ => none) greetingRequest).body ∧
    CarriesPart (respond ⟨[], true⟩ greeting (fun _ => none) greetingStart)
      (respond ⟨[], false⟩ greeting (fun _ => none) greetingRequest).body := by
  have without := ranges_and_length_follow_stored_file ⟨[], false⟩ greeting (fun _ => none)
    greetingRequest sized_greeting rfl (by decide +kernel) (by decide +kernel) (by decide +kernel)
  have scripted := ranges_and_length_follow_stored_file ⟨[], true⟩ greeting (fun _ => none)
    greetingRequest sized_greeting rfl (by decide +kernel) (by decide +kernel) (by decide +kernel)
  exact ⟨without.1 fun takes => Bool.false_ne_true takes.1,
    (scripted.2 ⟨rfl, takesScript_greeting⟩).2 greetingStart rfl rfl (by decide +kernel)⟩

theorem scripted_greeting_has_two_representations :
    let scripted : Site := ⟨[], true⟩
    let whole := scripted.respond greeting (fun _ => none) greetingRequest
    scripted.route greetingRequest = .rules ∧
      evaluate scripted.rules greetingRequest.uri.target = .unchanged ∧
      whole.status = 200 ∧ whole.body.size = 53 ∧
      (scripted.respond greeting (fun _ => none)
        { greetingRequest with method := "HEAD" }).headers.values contentLength =
          ["9".toUTF8.toList] ∧
      (scripted.respond greeting (fun _ => none) greetingStart).headers.values "content-range" =
        ["bytes 0-2/9".toUTF8.toList] ∧
      ¬ OneRepresentation scripted greeting (fun _ => none) greetingRequest whole.body := by
  intro scripted whole
  have size : whole.body.size = 53 := by decide +kernel
  have stated : (scripted.respond greeting (fun _ => none)
      { greetingRequest with method := "HEAD" }).headers.values contentLength =
        ["9".toUTF8.toList] := by decide +kernel
  refine ⟨by decide +kernel, by decide +kernel, by decide +kernel, size, stated,
    by decide +kernel, ?_⟩
  intro one
  have same := one.head
  rw [stated, List.forall_mem_singleton, size] at same
  revert same
  decide +kernel

end Site

end Workbench
