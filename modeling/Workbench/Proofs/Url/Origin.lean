import Mathlib.Data.List.TakeWhile
import Workbench.Proofs.Text.Split
import Workbench.Url.Parser

set_option autoImplicit false

namespace Workbench.Url

-- Who is asked under an address, and in whose name.
structure Origin where
  scheme : List Char
  username : List Char
  password : List Char
  host : Host
  port : Option Nat
  deriving DecidableEq, Repr

def origin (url : Url) : Origin where
  scheme := url.scheme
  username := url.username
  password := url.password
  host := url.host
  port := url.port

theorem cleaned_append {front : List Char} {last : Char}
    (starts : ∀ char ∈ front.head?, isPadding char = false)
    (ends : front.getLast? = some last) (solid : isPadding last = false)
    (noBreak : ∀ char ∈ front, isBreak char = false) (tail : List Char) :
    ∃ rest, cleaned (front ++ tail) = front ++ rest := by
  have begun : (front ++ tail).dropWhile isPadding = front ++ tail := by
    cases front with
    | nil => simp at ends
    | cons first others => exact List.dropWhile_cons_of_neg (by simp [starts first rfl])
  have behind : front.reverse.dropWhile isPadding = front.reverse := by
    obtain ⟨before, rfl⟩ := List.getLast?_eq_some_iff.mp ends
    rw [List.reverse_append]
    exact List.dropWhile_cons_of_neg (by simp [solid])
  have kept : front.filter (!isBreak ·) = front := by
    rw [List.filter_eq_self]
    intro char mem
    rw [noBreak char mem]
    rfl
  have trimmed : ∃ rest, ((front ++ tail).reverse.dropWhile isPadding).reverse = front ++ rest := by
    rw [List.reverse_append, List.dropWhile_append]
    split
    next => exact ⟨[], by rw [behind, List.reverse_reverse, List.append_nil]⟩
    next => exact ⟨_, by rw [List.reverse_append, List.reverse_reverse]⟩
  obtain ⟨rest, trimmed⟩ := trimmed
  refine ⟨rest.filter (!isBreak ·), ?_⟩
  rw [cleaned, begun, trimmed, List.filter_append, kept]

theorem parse_of_cleaned {scheme : List Char} (web : scheme ∈ webSchemes) :
    ∃ usualPort, ∀ text rest, cleaned text = scheme ++ ':' :: rest →
      parse text = readHosted scheme usualPort rest := by
  simp only [webSchemes, List.mem_cons, List.not_mem_nil, or_false] at web
  have whole : ∀ result : Except UrlFault Url, (result >>= fun url => pure url) = result :=
    bind_pure
  obtain rfl | rfl := web
  next =>
    refine ⟨80, fun text rest clean => ?_⟩
    have cut : scheme? ("http".toList ++ ':' :: rest) = some ("http".toList, rest) := rfl
    rw [parse, clean, cut]
    exact whole _
  next =>
    refine ⟨443, fun text rest clean => ?_⟩
    have cut : scheme? ("https".toList ++ ':' :: rest) = some ("https".toList, rest) := rfl
    rw [parse, clean, cut]
    exact whole _

section
variable {ends : Char -> Bool} {mark : Char} (stops : ends mark = true) (front rest : List Char)
include stops

theorem takeWhile_of_stop :
    (front ++ mark :: rest).takeWhile (!ends ·) = front.takeWhile (!ends ·) := by
  rw [List.takeWhile_append]
  split
  next whole =>
    rw [(List.takeWhile_prefix _).eq_of_length whole]
    simp [stops]
  next => rfl

theorem dropWhile_of_stop : ((front ++ mark :: rest).dropWhile (!ends ·)).isEmpty = false := by
  rw [List.isEmpty_eq_false_iff, ne_eq, List.dropWhile_eq_nil_iff]
  intro unstopped
  simpa [stops] using unstopped mark (by simp)

end

theorem map_origin_readHosted {usualPort : Nat} {mark : Char}
    (stops : (SchemeKind.hosted usualPort).endsHost mark = true) {text front rest : List Char}
    (named : text.dropWhile isSlash = front ++ mark :: rest) (scheme : List Char) :
    (readHosted scheme usualPort text).map origin =
      (readAuthority (.hosted usualPort) true
          (front.takeWhile (!(SchemeKind.hosted usualPort).endsHost ·))).map
        fun authority => ⟨scheme, authority.username, authority.password, authority.host,
          authority.port.filter (· ≠ usualPort)⟩ := by
  simp only [readHosted, named, takeWhile_of_stop stops, dropWhile_of_stop stops]
  change (readAuthority (.hosted usualPort) true _ >>= _).map origin = _
  cases readAuthority (.hosted usualPort) true
    (front.takeWhile (!(SchemeKind.hosted usualPort).endsHost ·)) <;> rfl

-- The front of an address, up to a character that ends its host. Further slashes behind the scheme
-- do not count, and something has to stand between them and that character.
inductive EndsHost : List Char -> Prop
  | intro {scheme slashes others : List Char} {first mark : Char} (web : scheme ∈ webSchemes)
      (skipped : ∀ char ∈ slashes, char = '/' ∨ char = '\\') (other : first ≠ '/' ∧ first ≠ '\\')
      (ends : mark ∈ ['/', '\\', '?', '#']) :
      EndsHost (scheme ++ "://".toList ++ slashes ++ first :: others ++ [mark])

theorem isPadding_of_web {scheme : List Char} (web : scheme ∈ webSchemes) (rest : List Char) :
    ∀ char ∈ (scheme ++ rest).head?, isPadding char = false := by
  simp only [webSchemes, List.mem_cons, List.not_mem_nil, or_false] at web
  obtain rfl | rfl := web <;>
  · intro char head
    cases head
    decide

theorem map_origin_parse_congr {front : List Char} (closed : EndsHost front)
    (noBreak : ∀ char ∈ front, isBreak char = false) (tail other : List Char) :
    (parse (front ++ tail)).map origin = (parse (front ++ other)).map origin := by
  cases closed with
  | @intro scheme slashes others first mark web skipped apart ends =>
      obtain ⟨usualPort, read⟩ := parse_of_cleaned web
      have solid : isPadding mark = false := by
        simp only [List.mem_cons, List.not_mem_nil, or_false] at ends
        obtain rfl | rfl | rfl | rfl := ends <;> decide
      have stops : (SchemeKind.hosted usualPort).endsHost mark = true := by
        simp only [List.mem_cons, List.not_mem_nil, or_false] at ends
        obtain rfl | rfl | rfl | rfl := ends <;> rfl
      have named (rest : List Char) :
          ("//".toList ++ slashes ++ first :: others ++ mark :: rest).dropWhile isSlash =
            (first :: others) ++ mark :: rest := by
        have slash : ∀ char ∈ "//".toList ++ slashes, isSlash char = true := by
          rw [List.forall_mem_append]
          exact ⟨List.all_eq_true.mp (by decide), by simpa [isSlash] using skipped⟩
        rw [List.append_assoc]
        exact Text.dropWhile_append_of_stops slash (by simpa [isSlash] using apart)
      have front_read (tail : List Char) : ∃ rest,
          parse (scheme ++ "://".toList ++ slashes ++ first :: others ++ [mark] ++ tail) =
            readHosted scheme usualPort
              ("//".toList ++ slashes ++ first :: others ++ mark :: rest) := by
        have begun := isPadding_of_web web
          ("://".toList ++ slashes ++ first :: others ++ [mark])
        simp only [← List.append_assoc] at begun
        obtain ⟨rest, clean⟩ := cleaned_append begun List.getLast?_concat solid noBreak tail
        refine ⟨rest, read _ _ ?_⟩
        rw [clean]
        simp
      obtain ⟨rest, left⟩ := front_read tail
      obtain ⟨rest', right⟩ := front_read other
      rw [left, right, map_origin_readHosted stops (named rest),
        map_origin_readHosted stops (named rest')]

theorem error_of_bind {ε α β : Type} {first : Except ε α} {next : α -> Except ε β} {error : ε}
    (failed : (first >>= next) = .error error) :
    first = .error error ∨ ∃ value, next value = .error error := by
  cases first with
  | error other =>
      cases failed
      exact .inl rfl
  | ok value => exact .inr ⟨value, failed⟩

section
variable {scheme : List Char}

theorem readPort_ne_otherScheme (text : List Char) :
    readPort text ≠ .error (.otherScheme scheme) := by
  unfold readPort
  split
  next => simp
  next => simp
  next => split <;> simp

theorem readHost_ne_otherScheme (kind : SchemeKind) (named : Bool) (text : List Char) :
    readHost kind named text ≠ .error (.otherScheme scheme) := by
  intro failed
  rw [readHost] at failed
  dsimp only at failed
  split at failed
  next => cases failed
  next =>
    obtain failed | ⟨_, failed⟩ := error_of_bind failed
    next =>
      generalize (if kind.isOther = true then _ else _ : Except HostFault Host) = parsed at failed
      cases parsed <;> cases failed
    next =>
      obtain failed | ⟨_, failed⟩ := error_of_bind failed
      next => exact readPort_ne_otherScheme _ failed
      next => cases failed

theorem readAuthority_ne_otherScheme (kind : SchemeKind) (more : Bool) (text : List Char) :
    readAuthority kind more text ≠ .error (.otherScheme scheme) := by
  intro failed
  unfold readAuthority at failed
  split at failed
  next =>
    obtain failed | ⟨_, failed⟩ := error_of_bind failed
    next => exact readHost_ne_otherScheme _ _ _ failed
    next => cases failed
  next =>
    dsimp only at failed
    split at failed
    next => cases failed
    next =>
      obtain failed | ⟨_, failed⟩ := error_of_bind failed
      next => exact readHost_ne_otherScheme _ _ _ failed
      next => cases failed

theorem readHosted_ne_otherScheme (written : List Char) (usualPort : Nat) (text : List Char) :
    readHosted written usualPort text ≠ .error (.otherScheme scheme) := by
  intro failed
  rw [readHosted] at failed
  obtain failed | ⟨_, failed⟩ := error_of_bind failed
  next => exact readAuthority_ne_otherScheme _ _ _ failed
  next => cases failed

end

theorem parse_ne_otherScheme {scheme : List Char} (web : scheme ∈ webSchemes)
    (tail other : List Char) :
    parse (scheme ++ "://".toList ++ tail) ≠ .error (.otherScheme other) := by
  obtain ⟨usualPort, read⟩ := parse_of_cleaned web
  have noBreak : (scheme ++ "://".toList).all (!isBreak ·) = true := by
    simp only [webSchemes, List.mem_cons, List.not_mem_nil, or_false] at web
    obtain rfl | rfl := web <;> rfl
  have ends : (scheme ++ "://".toList).getLast? = some '/' :=
    List.getLast?_eq_some_iff.mpr ⟨scheme ++ ":/".toList, by rw [List.append_assoc]; rfl⟩
  obtain ⟨rest, clean⟩ :=
    cleaned_append (isPadding_of_web web "://".toList) ends (by decide)
      (by simpa only [List.all_eq_true, Bool.not_eq_true'] using noBreak) tail
  rw [read _ ("//".toList ++ rest) (by rw [clean]; simp)]
  exact readHosted_ne_otherScheme _ _ _

end Workbench.Url
