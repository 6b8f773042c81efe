import Workbench.Dev.Site
import Workbench.Proofs.Dev.Placement
import Workbench.Proofs.Dev.Survival
import Workbench.Proofs.Http.Header
import Workbench.Proofs.Static.Whole
import Workbench.Proofs.Text.Letter

set_option autoImplicit false

namespace Workbench

open Http (Header Headers Request Response contentLength contentType visibleText?)

namespace Injection

theorem isPage_iff_of_visible {response : Response} {value : List UInt8}
    (stated : response.headers.first? contentType = some value)
    (visible : value.all Http.isVisibleByte = true) :
    isPage response = true ↔ ∃ value, response.headers.first? contentType = some value ∧
      "text/html".toUTF8.toList <+: value := by
  have front : "text/html".toList =
      "text/html".toUTF8.toList.map fun byte => Char.ofNat byte.toNat := by decide +kernel
  have read : visibleText? value = some (value.map fun byte => Char.ofNat byte.toNat) :=
    if_pos visible
  rw [isPage, stated, Option.bind_some, read, front]
  dsimp only
  rw [Http.isPrefixOf_visibleText?_iff read]
  constructor
  next => exact fun begins => ⟨value, rfl, begins⟩
  next =>
    rintro ⟨_, ⟨⟩, begins⟩
    exact begins

theorem wanted_wholeFile_iff (path : Path) {content : ByteArray}
    (sized : content.size < UInt64.size) :
    wanted (Assets.wholeFile path content) = true ↔
      (∃ value, (Assets.wholeFile path content).headers.first? contentType = some value ∧
        "text/html".toUTF8.toList <+: value) ∧ content.size ≤ maxPage := by
  have kind : (Assets.wholeFile path content).headers.first? contentType =
      some (Header.ofText contentType (MediaType.ofPath path)).value := by
    simp [Headers.first?, Headers.values, Assets.wholeFile, Assets.fileHeaders, Header.ofText]
  have small : isSmall (Assets.wholeFile path content) = true ↔ content.size ≤ maxPage := by
    rw [isSmall_iff (statesLength_wholeFile path content) sized, first?_wholeFile]
    exact or_iff_right (Option.some_ne_none _)
  have success : (Assets.wholeFile path content).status = 200 := rfl
  rw [wanted, success]
  simp only [decide_true, Bool.true_and, Bool.and_eq_true, small,
    isPage_iff_of_visible kind (MediaType.visible_ofPath path)]

def withScript (response : Response) : Response :=
  { response with
    headers := response.headers.without contentLength
    body := inject response.body
    streamed := false }

theorem headers_withScript (response : Response) :
    (withScript response).headers = response.headers.without contentLength := rfl

end Injection

namespace Site

open Injection (greeting sized_greeting)

variable {rules : List (Rule Pattern)} {assets : Assets} {transport : Transport}
  {request served : Request}

def fileRequest? (rules : List (Rule Pattern)) (request : Request) : Option Request :=
  match evaluate rules request.uri.target with
  | .rewritten url => (Http.Uri.parse? url).map fun uri => { request with uri }
  | .unchanged => some request
  | _ => none

theorem method_of_fileRequest? (file : fileRequest? rules request = some served) :
    served.method = request.method := by
  unfold fileRequest? at file
  split at file
  next =>
    obtain ⟨uri, _, rfl⟩ := Option.map_eq_some_iff.mp file
    rfl
  next =>
    obtain rfl := Option.some.inj file
    rfl
  next => contradiction

theorem dispatch_of_file {site : Site} (file : fileRequest? site.rules request = some served) :
    site.dispatch assets transport request = site.serve assets served := by
  unfold fileRequest? at file
  unfold dispatch
  split at file
  next url outcome =>
    obtain ⟨uri, parsed, rfl⟩ := Option.map_eq_some_iff.mp file
    rw [outcome]
    dsimp only
    rw [parsed]
  next outcome =>
    obtain rfl := Option.some.inj file
    rw [outcome]
  next => contradiction

theorem dispatch_of_no_file (noFile : fileRequest? rules request = none) (reload : Bool) :
    dispatch ⟨rules, reload⟩ assets transport request =
      dispatch ⟨rules, false⟩ assets transport request := by
  unfold fileRequest? at noFile
  unfold dispatch
  dsimp only
  split at noFile
  next url outcome =>
    rw [Option.map_eq_none_iff] at noFile
    rw [outcome]
    dsimp only
    rw [noFile]
  next => contradiction
  next notUrl notUnchanged =>
    split
    next => rfl
    next => rfl
    next => rfl
    next url outcome => exact absurd outcome (notUrl url)
    next outcome => exact absurd outcome notUnchanged

theorem route_of_page {site : Site}
    (noChannel : String.ofList request.uri.pathText ≠ Script.channelPath)
    (noScript : String.ofList request.uri.pathText ≠ Injection.scriptPath) :
    site.route request = .rules := by
  simp [route, noChannel, noScript]

theorem values_uncached {name : String} (other : name ≠ "cache-control") (response : Response) :
    (uncached response).headers.values name = response.headers.values name :=
  Headers.values_addMissing_of_ne other.symm _

-- The pages that carry the script, by the answer without live reload.
structure TakesScript (rules : List (Rule Pattern)) (request : Request) (plain : Response) :
    Prop where
  file : (fileRequest? rules request).isSome = true
  body : request.method ≠ "HEAD"
  success : plain.status = 200
  page : ∃ value, plain.headers.first? contentType = some value ∧
    "text/html".toUTF8.toList <+: value
  size : plain.body.size ≤ Injection.maxPage
  text : plain.body.validateUTF8 = true

theorem whole_of_wanted (sized : assets.tree.Sized)
    (wanted : Injection.wanted (assets.serve served) = true) :
    (served.method = "GET" ∨ served.method = "HEAD") ∧ ∃ path content,
      content.size < UInt64.size ∧ assets.serve served = Assets.wholeFile path content := by
  have success : (assets.serve served).status = 200 := by
    simp only [Injection.wanted, Bool.and_eq_true, decide_eq_true_eq] at wanted
    exact wanted.1.1
  obtain ⟨method, place, path, content, stored, whole⟩ := Assets.serve_of_success success
  exact ⟨method, path, content, sized place content stored, whole⟩

theorem small_of_wanted (sized : assets.tree.Sized)
    (wanted : Injection.wanted (assets.serve served) = true) :
    (assets.serve served).body.size ≤ Injection.maxPage := by
  obtain ⟨_, path, content, small, whole⟩ := whole_of_wanted sized wanted
  rw [whole] at wanted ⊢
  exact ((Injection.wanted_wholeFile_iff path small).mp wanted).2

theorem takesScript_iff (sized : assets.tree.Sized)
    (file : fileRequest? rules request = some served) :
    TakesScript rules request ((uncached (assets.serve served)).sealed request.method) ↔
      request.method ≠ "HEAD" ∧ Injection.wanted (assets.serve served) = true ∧
        (assets.serve served).body.validateUTF8 = true := by
  have kind : ((uncached (assets.serve served)).sealed request.method).headers.first? contentType =
      (assets.serve served).headers.first? contentType := by
    rw [Headers.first?, Http.Response.values_sealed (by decide), values_uncached (by decide)]
    rfl
  have status : ((uncached (assets.serve served)).sealed request.method).status =
      (assets.serve served).status := Http.Response.status_sealed _ _
  have body : ((uncached (assets.serve served)).sealed "GET").body = (assets.serve served).body :=
    Http.Response.body_sealed_get _
  have method := method_of_fileRequest? file
  constructor
  next =>
    intro takes
    obtain ⟨asked, place, path, content, stored, whole⟩ :=
      Assets.serve_of_success (status.symm.trans takes.success)
    have get : request.method = "GET" := by
      rw [method] at asked
      exact asked.resolve_right takes.body
    have page := takes.page
    have size := takes.size
    have text := takes.text
    rw [kind] at page
    rw [get, body] at size text
    refine ⟨takes.body, ?_, text⟩
    rw [whole] at page size ⊢
    exact (Injection.wanted_wholeFile_iff path (sized place content stored)).mpr ⟨page, size⟩
  next =>
    rintro ⟨notHead, wanted, text⟩
    obtain ⟨asked, path, content, small, whole⟩ := whole_of_wanted sized wanted
    have get : request.method = "GET" := by
      rw [method] at asked
      exact asked.resolve_right notHead
    have success : (assets.serve served).status = 200 := by rw [whole]; rfl
    have size := small_of_wanted sized wanted
    rw [← body, ← get] at text size
    have page := wanted
    rw [whole, Injection.wanted_wholeFile_iff path small, ← whole, ← kind] at page
    exact ⟨by rw [file]; rfl, notHead, status.trans success, page.1, size, text⟩

theorem serve_of_takesScript (sized : assets.tree.Sized) (notHead : served.method ≠ "HEAD")
    (wanted : Injection.wanted (assets.serve served) = true)
    (text : (assets.serve served).body.validateUTF8 = true) :
    serve ⟨rules, true⟩ assets served = Injection.withScript (assets.serve served) := by
  have small := Nat.not_lt_of_le (small_of_wanted sized wanted)
  simp [serve, notHead, wanted, Injection.apply, Injection.withScript, small, text]

theorem serve_of_not_takesScript (sized : assets.tree.Sized)
    (plain : ¬ (served.method ≠ "HEAD" ∧ Injection.wanted (assets.serve served) = true ∧
      (assets.serve served).body.validateUTF8 = true)) :
    serve ⟨rules, true⟩ assets served = assets.serve served := by
  unfold serve
  dsimp only
  split
  next chosen =>
    simp only [Bool.true_and, Bool.and_eq_true, decide_eq_true_eq] at chosen
    have small := Nat.not_lt_of_le (small_of_wanted sized chosen.2)
    have noText : (assets.serve served).body.validateUTF8 = false := by
      rw [← Bool.not_eq_true]
      exact fun text => plain ⟨chosen.1, chosen.2, text⟩
    obtain ⟨_, path, content, _, whole⟩ := whole_of_wanted sized chosen.2
    simp only [Injection.apply, if_neg small, noText, Bool.not_false, if_true]
    rw [whole]
    rfl
  next => rfl

theorem respond_of_page (reload : Bool)
    (noChannel : String.ofList request.uri.pathText ≠ Script.channelPath)
    (noScript : String.ofList request.uri.pathText ≠ Injection.scriptPath) :
    respond ⟨rules, reload⟩ assets transport request =
      (uncached (dispatch ⟨rules, reload⟩ assets transport request)).sealed request.method := by
  rw [respond, answer, route_of_page noChannel noScript]

theorem plain_of_file (file : fileRequest? rules request = some served) :
    dispatch ⟨rules, false⟩ assets transport request = assets.serve served := by
  rw [dispatch_of_file file]
  rfl

theorem dispatch_of_not_takesScript (sized : assets.tree.Sized)
    (takesNot : ¬ TakesScript rules request
      ((uncached (dispatch ⟨rules, false⟩ assets transport request)).sealed request.method)) :
    dispatch ⟨rules, true⟩ assets transport request =
      dispatch ⟨rules, false⟩ assets transport request := by
  cases file : fileRequest? rules request with
  | none => exact dispatch_of_no_file file true
  | some served =>
      rw [plain_of_file file, takesScript_iff sized file, ← method_of_fileRequest? file] at takesNot
      rw [plain_of_file file, dispatch_of_file file, serve_of_not_takesScript sized takesNot]

theorem dispatch_of_takesScript (sized : assets.tree.Sized)
    (takes : TakesScript rules request
      ((uncached (dispatch ⟨rules, false⟩ assets transport request)).sealed request.method)) :
    request.method = "GET" ∧ dispatch ⟨rules, true⟩ assets transport request =
      Injection.withScript (dispatch ⟨rules, false⟩ assets transport request) := by
  obtain ⟨served, file⟩ := Option.isSome_iff_exists.mp takes.file
  rw [plain_of_file file, takesScript_iff sized file] at takes
  obtain ⟨notHead, wanted, text⟩ := takes
  have asked := (whole_of_wanted sized wanted).1
  rw [method_of_fileRequest? file] at asked
  rw [← method_of_fileRequest? file] at notHead
  rw [plain_of_file file, dispatch_of_file file,
    serve_of_takesScript sized notHead wanted text]
  exact ⟨asked.resolve_right (method_of_fileRequest? file ▸ notHead), rfl⟩

/-- Live reload changes nothing but the script in a page, and the stated length with it. -/
theorem live_reload_only_adds_script (rules : List (Rule Pattern)) (assets : Assets)
    (transport : Transport) (request : Request) (sized : assets.tree.Sized)
    (noChannel : String.ofList request.uri.pathText ≠ Script.channelPath)
    (noScript : String.ofList request.uri.pathText ≠ Injection.scriptPath) :
    let plain := respond ⟨rules, false⟩ assets transport request
    let reloaded := respond ⟨rules, true⟩ assets transport request
    outbound? ⟨rules, true⟩ request = outbound? ⟨rules, false⟩ request ∧
      reloaded.status = plain.status ∧
      reloaded.headers.without contentLength = plain.headers.without contentLength ∧
      (TakesScript rules request plain ↔ reloaded.body = Injection.inject plain.body) ∧
      (TakesScript rules request plain → reloaded.headers.values contentLength =
        [(Header.ofText contentLength (toString reloaded.body.size)).value]) ∧
      (¬ TakesScript rules request plain → reloaded = plain) ∧
      ∀ served, fileRequest? rules request = some served →
        Injection.wanted (assets.serve served) = true →
          (assets.serve served).body.size ≤ Injection.maxPage := by
  have routed : ∀ reload, route ⟨rules, reload⟩ request = .rules := fun reload =>
    route_of_page noChannel noScript
  have outbound : outbound? ⟨rules, true⟩ request = outbound? ⟨rules, false⟩ request := by
    rw [outbound?, outbound?, routed, routed]
  have small : ∀ served, fileRequest? rules request = some served →
      Injection.wanted (assets.serve served) = true →
        (assets.serve served).body.size ≤ Injection.maxPage := fun served _ wanted =>
    small_of_wanted sized wanted
  intro plain reloaded
  have plainEq : plain = _ := respond_of_page false noChannel noScript
  have reloadedEq : reloaded = _ := respond_of_page true noChannel noScript
  by_cases takes : TakesScript rules request plain
  next =>
    obtain ⟨get, added⟩ := dispatch_of_takesScript sized (plainEq ▸ takes)
    rw [get] at plainEq reloadedEq
    rw [added] at reloadedEq
    have status : reloaded.status = plain.status := by
      rw [reloadedEq, plainEq, Http.Response.status_sealed, Http.Response.status_sealed]
      rfl
    have headers : reloaded.headers.without contentLength =
        plain.headers.without contentLength := by
      rw [reloadedEq, plainEq, Http.Response.without_sealed, Http.Response.without_sealed,
        uncached, uncached, Headers.without_addMissing_of_ne (by decide),
        Headers.without_addMissing_of_ne (by decide), Injection.headers_withScript,
        Headers.without_without_same]
    have body : reloaded.body = Injection.inject plain.body := by
      rw [reloadedEq, plainEq, Http.Response.body_sealed_get, Http.Response.body_sealed_get]
      rfl
    have length : reloaded.headers.values contentLength =
        [(Header.ofText contentLength (toString reloaded.body.size)).value] := by
      rw [reloadedEq, Http.Response.body_sealed_get]
      apply Http.Response.length_sealed_get rfl
      rw [values_uncached (by decide), Injection.headers_withScript, Headers.values_without_same]
    exact ⟨outbound, status, headers, iff_of_true takes body, fun _ => length,
      fun takesNot => absurd takes takesNot, small⟩
  next =>
    have same : reloaded = plain := by
      rw [plainEq] at takes
      rw [reloadedEq, plainEq, dispatch_of_not_takesScript sized takes]
    have differs : plain.body ≠ Injection.inject plain.body := (Injection.inject_ne _).symm
    rw [same]
    exact ⟨outbound, rfl, rfl, iff_of_false takes differs, fun scripted => absurd scripted takes,
      fun _ => rfl, small⟩

theorem live_reload_ends_greeting_in_script :
    (respond ⟨[], true⟩ greeting (fun _ => none) { uri := { path := "/hi.html".toList } }).body =
      ("<p>hi</p>" ++ Injection.scriptTag).toUTF8 := by
  have takes : TakesScript [] { uri := { path := "/hi.html".toList } }
      (respond ⟨[], false⟩ greeting (fun _ => none) { uri := { path := "/hi.html".toList } }) := by
    refine ⟨?_, ?_, ?_, ⟨"text/html".toUTF8.toList, ?_, List.prefix_rfl⟩, ?_, ?_⟩
    all_goals decide +kernel
  have differs := live_reload_only_adds_script [] greeting (fun _ => none)
    { uri := { path := "/hi.html".toList } } sized_greeting (by decide +kernel) (by decide +kernel)
  rw [differs.2.2.2.1.mp takes]
  decide +kernel

end Site

end Workbench
