import Workbench.Dev.Site
import Workbench.Proofs.Http.Target
import Workbench.Proofs.Rule.Ingredients
import Workbench.Proofs.Text.Utf8

set_option autoImplicit false

namespace Workbench

open Http (Request Response isValueByte)
open Text.Percent (bytesOf)

namespace Http

-- A character that may stand in the value of a header.
def Sendable (char : Char) : Prop :=
  char = '\t' ∨ 0x20 ≤ char.toNat ∧ char.toNat ≠ 0x7F

theorem all_isValueByte_utf8EncodeChar_iff (char : Char) :
    (String.utf8EncodeChar char).all isValueByte = true ↔ Sendable char := by
  by_cases ascii : char.toNat < 0x80
  next =>
    have small : ∀ code < 0x80, isValueByte code.toUInt8 = true ↔
        code = 9 ∨ 0x20 ≤ code ∧ code ≠ 0x7F := by decide
    have tab : char = '\t' ↔ char.toNat = 9 := Char.toNat_inj.symm
    rw [Text.utf8EncodeChar_of_ascii ascii, List.all_cons, List.all_nil, Bool.and_true,
      small _ ascii, Sendable, tab]
  next =>
    have high : ∀ byte ∈ String.utf8EncodeChar char, 0x80 ≤ byte.toNat := by
      intro byte mem
      by_contra low
      have code := Text.Percent.code_of_mem_utf8EncodeChar mem (by omega)
      omega
    have sendable : Sendable char := .inr ⟨by omega, by omega⟩
    simp only [sendable, iff_true, List.all_eq_true]
    intro byte mem
    have large := high byte mem
    have space : (0x20 : UInt8) ≤ byte := by
      rw [UInt8.le_iff_toNat_le]
      exact Nat.le_trans (by decide) large
    have other : byte ≠ 0x7F := by
      rintro rfl
      exact absurd large (by decide)
    simp [isValueByte, space, other]

theorem all_isValueByte_bytesOf_iff (text : List Char) :
    (bytesOf text).all isValueByte = true ↔ ∀ char ∈ text, Sendable char := by
  simp only [Text.Percent.bytesOf_eq_flatMap, List.all_flatMap, List.all_eq_true (l := text),
    all_isValueByte_utf8EncodeChar_iff]

theorem sendable_of_mem_target {written : List Char} {uri : Uri}
    (read : Uri.parse? written = some uri) {char : Char} (mem : char ∈ uri.target) :
    Sendable char := by
  have holds := Uri.holds_pathText read
  have foreign : ∀ code < 0x80, code < 0x21 ∨ code = 0x7F →
      Uri.isPathChar (Char.ofNat code) = false ∧
      Uri.isQueryChar (Char.ofNat code) = false := by decide
  by_contra control
  obtain ⟨notTab, other⟩ := not_or.mp control
  have neither := foreign char.toNat (by omega) (by omega)
  rw [Char.ofNat_toNat] at neither
  rcases List.mem_append.mp mem with inPath | inQuery
  next =>
    rw [holds.path char inPath] at neither
    exact absurd neither.1 (by decide)
  next =>
    rw [Uri.queryText] at inQuery
    split at inQuery
    next query found =>
      rcases List.mem_cons.mp inQuery with rfl | behind
      next => exact absurd neither.2 (by decide)
      next =>
        rw [holds.query query found char behind] at neither
        exact absurd neither.2 (by decide)
    next => contradiction

end Http

open Http (Sendable)

namespace Site

theorem redirect_of_sendable {location : List Char} (sendable : ∀ char ∈ location, Sendable char)
    (status : Nat) :
    redirect location status = { status, headers := [⟨"location", bytesOf location⟩] } := by
  rw [redirect, (Http.all_isValueByte_bytesOf_iff location).mpr sendable]
  rfl

theorem redirect_of_not_sendable {location : List Char}
    (control : ¬ ∀ char ∈ location, Sendable char) (status : Nat) :
    redirect location status = .plain status "failed to parse header value" := by
  rw [← Http.all_isValueByte_bytesOf_iff] at control
  rw [redirect, if_neg control]

theorem values_location_redirect (location : List Char) (status : Nat) :
    (redirect location status).headers.values "location" = [bytesOf location] ↔
      ∀ char ∈ location, Sendable char := by
  constructor
  · intro sent
    by_contra control
    rw [redirect_of_not_sendable control] at sent
    simp [Response.plain, Http.Headers.values, Http.Header.ofText, Http.contentType] at sent
  · intro sendable
    rw [redirect_of_sendable sendable]
    simp [Http.Headers.values]

theorem status_redirect (location : List Char) (status : Nat) :
    (redirect location status).status = status := by
  unfold redirect
  dsimp only
  split <;> rfl

section
variable {site : Site} {request : Request} (assets : Assets) (transport : Transport)

theorem dispatch_of_redirect {location : List Char} {status : Nat}
    (redirected : evaluate site.rules request.uri.target = .redirect location status) :
    site.dispatch assets transport request = redirect location status := by
  rw [dispatch, redirected]

theorem dispatch_of_status {code : Nat}
    (refused : evaluate site.rules request.uri.target = .status code) :
    site.dispatch assets transport request = { status := code } := by
  rw [dispatch, refused]

end

end Site

/-- A site whose rules have been accepted answers with the status that they decide on, whatever is
asked for. A bare status has an empty body. Of a redirect the location is sent as it is if no
character of it is a control that no header may hold; otherwise the answer complains about it and
has no location, and a rule has been written with the control. -/
theorem redirect_is_sent_iff_sendable (site : Site) (request : Request)
    {texts : List (List Char)} (accepted : Rule.parseAll texts = .ok site.rules)
    {written : List Char} (read : Http.Uri.parse? written = some request.uri) (assets : Assets)
    (transport : Transport) :
    let response := site.dispatch assets transport request
    (∀ code, evaluate site.rules request.uri.target = .status code →
      (code = 403 ∨ code = 410) ∧ response = { status := code }) ∧
    ∀ location status, evaluate site.rules request.uri.target = .redirect location status →
      (300 ≤ status ∧ status ≤ 399) ∧ response.status = status ∧
      (response.headers.values "location" = [bytesOf location] ↔
        ∀ char ∈ location, Sendable char) ∧
      (∀ char ∈ location, ¬ Sendable char →
        response = .plain status "failed to parse header value" ∧ Writes site.rules char) ∧
      ((∀ char ∈ location, Sendable char) →
        response = { status, headers := [⟨"location", bytesOf location⟩] }) := by
  intro response
  constructor
  · intro code refused
    exact ⟨code_of_status accepted refused, Site.dispatch_of_status assets transport refused⟩
  · intro location status redirected
    have sent : response = Site.redirect location status :=
      Site.dispatch_of_redirect assets transport redirected
    rw [sent]
    refine ⟨bounds_of_redirect accepted redirected, Site.status_redirect location status,
      Site.values_location_redirect location status, ?_, ?_⟩
    · intro char mem control
      refine ⟨Site.redirect_of_not_sendable (fun all => control (all char mem)) status, ?_⟩
      rcases mem_location redirected mem with asked | written
      next => exact absurd (Http.sendable_of_mem_target read asked) control
      next => exact written
    · intro sendable
      exact Site.redirect_of_sendable sendable status

theorem exists_parsed {rule target location : List Char} {status : Nat}
    (read : (Rule.parseAll [rule]).map (evaluate · target) = .ok (.redirect location status)) :
    ∃ rules, Rule.parseAll [rule] = .ok rules ∧
      evaluate rules target = .redirect location status := by
  cases parsed : Rule.parseAll [rule] with
  | error error =>
      rw [parsed] at read
      cases read
  | ok rules =>
      rw [parsed] at read
      exact ⟨rules, rfl, Except.ok.inj read⟩

def movedRule : List Char := "^/old/(.*)$ /new/$1 [R]".toList

theorem moved_page_is_sent :
    Http.Uri.parse? "/old/a".toList = some { path := "/old/a".toList } ∧
    ∃ rules, Rule.parseAll [movedRule] = .ok rules ∧
      ∀ assets transport,
        (Site.mk rules true).dispatch assets transport { uri := { path := "/old/a".toList } } =
          { status := 302, headers := [⟨"location", bytesOf "/new/a".toList⟩] } := by
  obtain ⟨rules, accepted, redirected⟩ :
      ∃ rules, Rule.parseAll [movedRule] = .ok rules ∧
        evaluate rules "/old/a".toList = .redirect "/new/a".toList 302 :=
    exists_parsed (by decide +kernel)
  have read : Http.Uri.parse? "/old/a".toList = some { path := "/old/a".toList } := by
    decide +kernel
  refine ⟨read, rules, accepted, ?_⟩
  intro assets transport
  have sent := (redirect_is_sent_iff_sendable ⟨rules, true⟩ { uri := { path := "/old/a".toList } }
    accepted read assets transport).2 _ _ redirected
  exact sent.2.2.2.2 ((Http.all_isValueByte_bytesOf_iff _).mp (by decide +kernel))

def markedRule : List Char := "^/k0 /\x01x [R]".toList

theorem marked_page_has_no_location :
    Http.Uri.parse? "/k0".toList = some { path := "/k0".toList } ∧
    ∃ rules, Rule.parseAll [markedRule] = .ok rules ∧
      evaluate rules "/k0".toList = .redirect "/\x01x".toList 302 ∧
      ∀ assets transport,
        ((Site.mk rules true).dispatch assets transport
          { uri := { path := "/k0".toList } }).headers.values "location" = [] := by
  obtain ⟨rules, accepted, redirected⟩ :
      ∃ rules, Rule.parseAll [markedRule] = .ok rules ∧
        evaluate rules "/k0".toList = .redirect "/\x01x".toList 302 :=
    exists_parsed (by decide +kernel)
  refine ⟨by decide +kernel, rules, accepted, redirected, ?_⟩
  intro assets transport
  have control : ¬ ∀ char ∈ "/\x01x".toList, Sendable char := by
    rw [← Http.all_isValueByte_bytesOf_iff]
    decide +kernel
  rw [Site.dispatch_of_redirect assets transport redirected,
    Site.redirect_of_not_sendable control]
  rfl

end Workbench
