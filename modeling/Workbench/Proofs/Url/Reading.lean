import Workbench.Proofs.Url.Path
import Mathlib.Data.List.TakeWhile

set_option autoImplicit false

namespace Workbench.Url

open Text (markedBy)
open Text.Percent (encode)

theorem cleaned_of_visible {text : List Char} (visible : ∀ char ∈ text, 0x20 < char.toNat) :
    cleaned text = text := by
  have noPadding : ∀ char ∈ text, isPadding char = false := by
    intro char mem
    exact decide_eq_false (Nat.not_le.mpr (visible char mem))
  have noBreak : ∀ char ∈ text, (!isBreak char) = true := by
    intro char mem
    have code := visible char mem
    rw [Bool.not_eq_true', ← Bool.not_eq_true, isBreak]
    simp only [Bool.or_eq_true, decide_eq_true_eq]
    rintro ((rfl | rfl) | rfl) <;> exact absurd code (by decide)
  have dropped : ∀ chars : List Char, (∀ char ∈ chars, isPadding char = false) →
      chars.dropWhile isPadding = chars := by
    intro chars free
    cases chars with
    | nil => rfl
    | cons char rest => exact List.dropWhile_cons_of_neg (by simp [free char])
  rw [cleaned, dropped text noPadding, dropped text.reverse (by simpa using noPadding),
    List.reverse_reverse]
  exact List.filter_eq_self.mpr noBreak

theorem parse_http {rest : List Char} (visible : ∀ char ∈ rest, 0x20 < char.toNat) :
    parse ("http:".toList ++ rest) = readHosted "http".toList 80 rest := by
  have front : "http:".toList.all (fun char => 0x20 < char.toNat) = true := by decide
  have clean : cleaned ("http:".toList ++ rest) = "http:".toList ++ rest := by
    apply cleaned_of_visible
    intro char mem
    obtain mem | mem := List.mem_append.mp mem
    next => exact of_decide_eq_true (List.all_eq_true.mp front char mem)
    next => exact visible char mem
  have cut : scheme? ("http:".toList ++ rest) = some ("http".toList, rest) := rfl
  rw [parse, clean, cut]
  have web : webSchemes.contains "http".toList = true := by decide
  change (readHosted "http".toList 80 rest >>= fun url =>
    if webSchemes.contains "http".toList then pure url else throw _) = _
  simp only [web, if_true, bind_pure]

section
variable {query : Option (List Char)} (noFragment : ∀ text, query = some text → '#' ∉ text)
include noFragment

theorem dropWhile_markedBy : (markedBy '?' query).dropWhile (· ≠ '#') = [] := by
  rw [List.dropWhile_eq_nil_iff]
  cases query with
  | none => simp [markedBy]
  | some text =>
      intro char mem
      rw [markedBy, List.mem_cons] at mem
      obtain rfl | mem := mem
      next => decide
      next =>
        rw [decide_eq_true_eq]
        rintro rfl
        exact noFragment text rfl mem

theorem readPart?_markedBy :
    readPart? '?' (· = '#') keptInQuery (markedBy '?' query) = query.map (encode keptInQuery) := by
  cases query with
  | none => rfl
  | some text =>
      have whole : text.takeWhile (fun char => !decide (char = '#')) = text := by
        rw [List.takeWhile_eq_self_iff]
        intro char mem
        rw [Bool.not_eq_true', decide_eq_false_iff_not]
        rintro rfl
        exact noFragment text rfl mem
      rw [markedBy, readPart?, if_pos rfl, whole]
      rfl

end

section
variable {usualPort : Nat} {authority path : List Char} {query : Option (List Char)}

theorem dropWhile_slashes (nonempty : authority ≠ [])
    (noEnd : ∀ char ∈ authority, (SchemeKind.hosted usualPort).endsHost char = false)
    (rest : List Char) :
    ("//".toList ++ (authority ++ rest)).dropWhile isSlash = authority ++ rest := by
  have noSlash : ∀ char ∈ (authority ++ rest).head?, isSlash char = false := by
    cases authority with
    | nil => contradiction
    | cons first others =>
        intro char head
        cases head
        have free := noEnd first List.mem_cons_self
        simp only [SchemeKind.endsHost, SchemeKind.isOther, Bool.or_eq_false_iff] at free
        simpa [isSlash] using And.intro free.1.1.1 free.2
  exact Text.dropWhile_append_of_stops (List.all_eq_true.mp (by decide)) noSlash

theorem readHosted_parts (scheme : List Char) (nonempty : authority ≠ [])
    (noEnd : authority.any (SchemeKind.hosted usualPort).endsHost = false)
    (inPath : ∀ char ∈ path, endsPath char = false)
    (inQuery : ∀ text, query = some text → '#' ∉ text) :
    readHosted scheme usualPort ("//".toList ++ authority ++ '/' :: path ++ markedBy '?' query) =
      (readAuthority (.hosted usualPort) true authority).map fun authority =>
        { scheme
          username := authority.username
          password := authority.password
          host := authority.host
          port := authority.port.filter (· ≠ usualPort)
          path := readPath ('/' :: path)
          query := query.map (encode keptInQuery) } := by
  have ends : ∀ char ∈ authority, (SchemeKind.hosted usualPort).endsHost char = false := by
    simpa using noEnd
  have shape : "//".toList ++ authority ++ '/' :: path ++ markedBy '?' query =
      "//".toList ++ (authority ++ ('/' :: path ++ markedBy '?' query)) := by
    simp only [List.append_assoc, List.cons_append]
  have named : ∀ char ∈ authority, (!(SchemeKind.hosted usualPort).endsHost char) = true := by
    simpa using ends
  have stops : ∀ char ∈ ('/' :: path ++ markedBy '?' query).head?,
      (!(SchemeKind.hosted usualPort).endsHost char) = false := by
    simp [SchemeKind.endsHost]
  have inside : ∀ char ∈ '/' :: path, (!endsPath char) = true := by
    rw [List.forall_mem_cons]
    exact ⟨by decide, by simpa using inPath⟩
  have behind : ∀ char ∈ (markedBy '?' query).head?, (!endsPath char) = false := by
    cases query <;> simp [markedBy, endsPath]
  have more : ('/' :: path ++ markedBy '?' query).isEmpty = false := rfl
  simp only [shape, readHosted, dropWhile_slashes nonempty ends,
    Text.takeWhile_append_of_stops named stops, Text.dropWhile_append_of_stops named stops,
    Text.takeWhile_append_of_stops inside behind, Text.dropWhile_append_of_stops inside behind,
    dropWhile_markedBy inQuery, readPart?_markedBy inQuery, more]
  change readAuthority (.hosted usualPort) true authority >>= _ = _
  cases readAuthority (.hosted usualPort) true authority <;> rfl

end

end Workbench.Url
