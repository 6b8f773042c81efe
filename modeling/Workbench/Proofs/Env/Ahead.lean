import Mathlib.Data.List.TakeWhile
import Workbench.Proofs.Env.Word

set_option autoImplicit false

namespace Workbench.Env

-- A reference begins with a dollar sign and some characters, and ends in what follows.
def Opens (begun rest : List Char) : Prop :=
  ∃ body name fallback more after, Names body name fallback ∧
    begun ++ more = '\x7b' :: body ∧ rest = more ++ '\x7d' :: after

theorem Opens.of_append {begun taken after : List Char} (opens : Opens (begun ++ taken) after) :
    Opens begun (taken ++ after) := by
  obtain ⟨body, name, fallback, more, rest, names, same, rfl⟩ := opens
  exact ⟨body, name, fallback, taken ++ more, rest, names, by rw [← same, List.append_assoc],
    by rw [List.append_assoc]⟩

theorem Opens.not_closed {begun rest : List Char} (opens : Opens begun rest) :
    '\x7d' ∉ begun := by
  obtain ⟨body, name, fallback, more, after, names, same, _⟩ := opens
  intro inside
  have inBody : '\x7d' ∈ '\x7b' :: body := same ▸ List.mem_append_left more inside
  simp [names.closed] at inBody

theorem Opens.head {char : Char} {begun rest : List Char} (opens : Opens (char :: begun) rest) :
    char = '\x7b' := by
  obtain ⟨body, name, fallback, more, after, names, same, _⟩ := opens
  exact (List.cons.inj same).1

theorem Opens.closes {begun rest : List Char} (opens : Opens begun rest) : '\x7d' ∈ rest := by
  obtain ⟨body, name, fallback, more, after, names, same, rfl⟩ := opens
  simp

theorem opens_nil {rest : List Char} (opens : Opens [] rest) : rest.head? = some '\x7b' := by
  obtain ⟨body, name, fallback, more, after, names, rfl, rfl⟩ := opens
  rfl

-- No reference begins in a text and ends in what follows.
def Sealed (taken after : List Char) : Prop :=
  ∀ begun, '$' :: begun <:+ taken → ¬ Opens begun after

theorem sealed_of_free {taken : List Char} (free : '$' ∉ taken) (after : List Char) :
    Sealed taken after := fun _ within =>
  absurd (within.mem List.mem_cons_self) free

theorem sealed_name {name after : List Char} (free : '$' ∉ name)
    (unbraced : (name ++ after).head? ≠ some '\x7b') : Sealed ('$' :: name) after := by
  intro begun within opens
  obtain same | within := List.suffix_cons_iff.mp within
  next =>
    obtain rfl := (List.cons.inj same).2
    match begun with
    | [] => exact unbraced (opens_nil opens)
    | char :: others => exact unbraced (congrArg some opens.head)
  next => exact absurd (within.mem List.mem_cons_self) free

theorem sealed_unclosed {inner : List Char} (unclosed : '\x7d' ∉ inner) (taken : List Char) :
    Sealed taken inner := fun _ _ opens =>
  unclosed opens.closes

theorem sealed_braced (body after : List Char) : Sealed (braced body) after := by
  intro begun within opens
  obtain none | ⟨start, same, _⟩ := List.suffix_concat_iff.mp within
  next => contradiction
  next =>
    have closed : '\x7d' ∈ '$' :: begun := same ▸ by simp
    simp [opens.not_closed] at closed

-- Two texts are the same, or the same up to some dollar sign.
def Alike (first second : List Char) : Prop :=
  first = second ∨ ∃ same, same ++ ['$'] <+: first ∧ same ++ ['$'] <+: second

theorem Alike.append {first second : List Char} (alike : Alike first second) (text : List Char) :
    Alike (first ++ text) (second ++ text) := by
  obtain rfl | ⟨same, inFirst, inSecond⟩ := alike
  next => exact .inl rfl
  next => exact .inr ⟨same, inFirst.trans (List.prefix_append _ _),
    inSecond.trans (List.prefix_append _ _)⟩

theorem Alike.append_hidden {first second : List Char} (alike : Alike first second) :
    Alike (first ++ ['$', '$']) (second ++ ['$']) := by
  obtain rfl | ⟨same, inFirst, inSecond⟩ := alike
  next => exact .inr ⟨first, ⟨['$'], by simp⟩, List.prefix_rfl⟩
  next => exact .inr ⟨same, inFirst.trans (List.prefix_append _ _),
    inSecond.trans (List.prefix_append _ _)⟩

theorem prefix_of_dollar_not_mem {front same text : List Char} (free : '$' ∉ front)
    (begins : front <+: text) (sameBegins : same ++ ['$'] <+: text) : front <+: same := by
  obtain within | within := List.prefix_or_prefix_of_prefix begins sameBegins
  next =>
    obtain rfl | short := List.prefix_concat_iff.mp within
    next => simp at free
    next => exact short
  next => exact absurd (within.subset (by simp)) free

theorem Alike.prefix_of {first second front : List Char} (alike : Alike first second)
    (free : '$' ∉ front) (begins : front <+: second) : front <+: first := by
  obtain rfl | ⟨same, inFirst, inSecond⟩ := alike
  next => exact begins
  next =>
    exact (prefix_of_dollar_not_mem free begins inSecond).trans
      ((List.prefix_append _ _).trans inFirst)

theorem Alike.symm {first second : List Char} (alike : Alike first second) :
    Alike second first := by
  obtain rfl | ⟨same, inFirst, inSecond⟩ := alike
  next => exact .inl rfl
  next => exact .inr ⟨same, inSecond, inFirst⟩

theorem GroupWithDefault.begins {body text : List Char} (group : GroupWithDefault body text) :
    ∃ digits, isGroupName digits = true ∧ digits ≠ [] ∧ digits ++ mark <+: body := by
  cases group with
  | intro _ digits nonempty => exact ⟨_, digits, nonempty, List.prefix_append _ _⟩

theorem Names.not_begins {body name digits : List Char} {fallback : Option (List Char)}
    (names : Names body name fallback) (group : isGroupName digits = true)
    (nonempty : digits ≠ []) : ¬ digits ++ mark <+: body := by
  rintro ⟨text, rfl⟩
  have asText := (GroupWithDefault.intro names.closed group nonempty).ofBraces
  rw [names.ofBraces] at asText
  contradiction

/-- One reader has come to the same as the other one, and has read more. What begins a reference
in what it has read alone was copied by it, and so stands in front of that as well. -/
structure Ahead (past lag rest : List Char) : Prop where
  plain : Plain past (lag ++ rest)
  trail : ∀ begun, '$' :: begun <:+ lag → Opens begun rest →
    ∃ heard, '$' :: heard <:+ past ∧ '\x7d' ∉ heard ∧ Alike begun heard

-- What is taken of a text, and what is copied for it.
structure Copies (taken text after : List Char) : Prop where
  short : text.length ≤ taken.length
  keeps : ∀ begun heard, Opens (begun ++ taken) after → Alike begun heard →
    '\x7d' ∉ text ∧ Alike (begun ++ taken) (heard ++ text)
  fresh : ∀ begun, '$' :: begun <:+ taken → Opens begun after →
    ∃ heard, '$' :: heard <:+ text ∧ '\x7d' ∉ heard ∧ Alike begun heard

theorem copies_self {taken after : List Char} (sealed : Sealed taken after) :
    Copies taken taken after where
  short := Nat.le_refl _
  keeps := fun begun heard opens alike => by
    have unclosed := opens.not_closed
    rw [List.mem_append, not_or] at unclosed
    exact ⟨unclosed.2, alike.append taken⟩
  fresh := fun begun within opens => absurd opens (sealed begun within)

theorem copies_hidden (after : List Char) : Copies ['$', '$'] ['$'] after where
  short := by simp
  keeps := fun begun heard _ alike => ⟨by decide, alike.append_hidden⟩
  fresh := fun begun within opens => by
    obtain same | within := List.suffix_cons_iff.mp within
    next =>
      obtain rfl := (List.cons.inj same).2
      exact absurd opens.head (by decide)
    next =>
      obtain same | within := List.suffix_cons_iff.mp within
      next =>
        obtain rfl := (List.cons.inj same).2
        exact ⟨[], List.suffix_rfl, by simp, .inl rfl⟩
      next => exact absurd (List.suffix_nil.mp within) (List.cons_ne_nil _ _)

theorem copies_braced {body text : List Char} (short : text.length ≤ (braced body).length)
    (after : List Char) : Copies (braced body) text after where
  short := short
  keeps := fun begun heard opens _ => absurd opens.not_closed (by simp [braced])
  fresh := fun begun within opens => absurd opens (sealed_braced body after begun within)

section Steps

variable {past lag taken text after : List Char} {parts : List Segment} {word : List Letter}

theorem Ahead.copy {behindNow : List Char} (ahead : Ahead past lag (taken ++ after))
    (copies : Copies taken text after) (split : lag ++ taken = text ++ behindNow)
    (plain : Plain text (behindNow ++ after)) : Ahead (past ++ text) behindNow after where
  plain := by
    have before := ahead.plain
    rw [← List.append_assoc, split, List.append_assoc] at before
    exact before.append plain
  trail := fun begun within opens => by
    have inBoth : '$' :: begun <:+ lag ++ taken := split ▸ List.suffix_append_of_suffix within
    obtain inTaken | ⟨start, nonempty, inLag, same⟩ := suffix_or_across inBoth
    next =>
      obtain ⟨heard, inText, rest⟩ := copies.fresh begun inTaken opens
      exact ⟨heard, List.suffix_append_of_suffix inText, rest⟩
    next =>
      obtain ⟨head, start, rfl⟩ := List.exists_cons_of_ne_nil nonempty
      obtain ⟨rfl, rfl⟩ := List.cons.inj same
      obtain ⟨heard, inPast, unclosed, alike⟩ :=
        ahead.trail start inLag opens.of_append
      obtain ⟨textUnclosed, alikeBoth⟩ := copies.keeps start heard opens alike
      refine ⟨heard ++ text, ?_, by simp [unclosed, textUnclosed], alikeBoth⟩
      exact List.suffix_append_self_iff.mpr inPast

-- The description copies what the reader does, and falls no less behind.
theorem Ahead.step_text (ahead : Ahead past lag (taken ++ after))
    (copies : Copies taken text after) (reads : Reads (lag ++ (taken ++ after)) parts)
    (same : letters parts = text.map .copied ++ word) :
    ∃ behindNow remaining, behindNow.length + text.length = lag.length + taken.length ∧
      Ahead (past ++ text) behindNow after ∧ Reads (behindNow ++ after) remaining ∧
        letters remaining = word := by
  obtain ⟨rest, remaining, split, plain, readsRest, sameWord⟩ := reads.of_text same
  rw [← List.append_assoc] at split
  have short : text.length ≤ (lag ++ taken).length := by
    have := copies.short
    rw [List.length_append]
    omega
  obtain ⟨behindNow, shared⟩ :=
    List.prefix_of_prefix_length_le ⟨rest, split.symm⟩ ⟨after, rfl⟩ short
  obtain rfl : behindNow ++ after = rest := by
    rw [← shared, List.append_assoc] at split
    exact List.append_cancel_left split
  have length := congrArg List.length shared
  simp only [List.length_append] at length
  exact ⟨behindNow, remaining, by omega, ahead.copy copies shared.symm plain, readsRest, sameWord⟩

theorem Ahead.sealed {body name rest : List Char} {fallback : Option (List Char)}
    (ahead : Ahead past lag ('$' :: rest)) (names : Names body name fallback)
    (front : lag ++ '$' :: rest = braced body ++ after) : Sealed lag ('$' :: rest) := by
  intro begun within opens
  obtain ⟨heard, inPast, unclosed, alike⟩ := ahead.trail begun within opens
  match begun with
  | [] => exact absurd (opens_nil opens) (by simp)
  | char :: inside =>
      obtain rfl := opens.head
      obtain ⟨heard, rfl⟩ : ['\x7b'] <+: heard := alike.symm.prefix_of (by decide) ⟨inside, rfl⟩
      have closed : '\x7d' ∉ heard ++ '$' :: '\x7b' :: body := by
        simp_all [names.closed]
      have unseen := ahead.plain _ inPast (List.cons_ne_nil _ _)
      have shape : '$' :: (['\x7b'] ++ heard) ++ (lag ++ '$' :: rest) =
          braced (heard ++ '$' :: '\x7b' :: body) ++ after := by
        rw [front]
        simp [braced]
      rw [shape] at unseen
      -- The brace that was copied is closed by the one of the reference behind it, so the
      -- description has passed it over only if a group with a default begins there.
      obtain ⟨_, _, namesAll⟩ | digits | ⟨text, group⟩ := braces_cases closed
      next => exact unseen (refers_braced namesAll after)
      next => exact absurd (dollar_not_mem_of_isGroupName digits) (by simp)
      next =>
        obtain ⟨digits, isGroup, nonempty, begins⟩ := group.begins
        obtain ⟨opened, _, _, more, _, namesOpened, same, _⟩ := opens
        have free : '$' ∉ digits ++ mark := by
          simp [dollar_not_mem_of_isGroupName isGroup, mark]
        have copied : digits ++ mark <+: heard :=
          prefix_of_dollar_not_mem free begins ⟨'\x7b' :: body, by simp⟩
        have read : '\x7b' :: (digits ++ mark) <+: '\x7b' :: inside :=
          alike.prefix_of (by simp [free]) (List.cons_prefix_cons.mpr ⟨rfl, copied⟩)
        have inBody := (List.cons_prefix_cons.mp read).2.trans ⟨more, (List.cons.inj same).2⟩
        exact namesOpened.not_begins isGroup nonempty inBody

theorem braced_of_sealed {body name rest others : List Char} {fallback : Option (List Char)}
    (names : Names body name fallback) (behind : lag ≠ [])
    (front : lag ++ rest = braced body ++ others) (sealed : Sealed lag rest) :
    ∃ behindNow, lag = braced body ++ behindNow ∧ others = behindNow ++ rest := by
  obtain ⟨more, whole, rfl⟩ | found := List.append_eq_append_iff.mp front
  next =>
    obtain rfl | ⟨inner, last, rfl⟩ := List.eq_nil_or_concat' more
    next => exact ⟨[], by simpa using whole.symm, rfl⟩
    next =>
      obtain ⟨head, begun, rfl⟩ := List.exists_cons_of_ne_nil behind
      rw [braced, ← List.append_assoc] at whole
      obtain ⟨initial, final⟩ := List.append_inj' whole rfl
      obtain ⟨rfl, sameInner⟩ := List.cons.inj initial
      obtain rfl := (List.cons.inj final).1
      have opens : Opens begun (inner ++ ['\x7d'] ++ others) :=
        ⟨body, name, fallback, inner, others, names, sameInner.symm, by simp⟩
      exact absurd opens (sealed begun List.suffix_rfl)
  next => exact found

theorem Ahead.step_name {name rest : List Char} (ahead : Ahead past lag ('$' :: rest ++ after))
    (behind : lag ≠ []) (fresh : Sealed ('$' :: rest) after)
    (reads : Reads (lag ++ ('$' :: rest ++ after)) parts)
    (same : letters parts = .inserted name :: word) :
    ∃ behindNow remaining, behindNow ≠ [] ∧ Ahead [] behindNow after ∧
      Reads (behindNow ++ after) remaining ∧ letters remaining = word := by
  obtain ⟨body, fallback, others, remaining, names, front, readsRest, sameWord⟩ :=
    reads.of_inserted same
  have sealed := ahead.sealed names front
  obtain ⟨behindNow, rfl, rfl⟩ := braced_of_sealed names behind front sealed
  refine ⟨behindNow ++ '$' :: rest, remaining, by simp, ⟨?_, ?_⟩, by simpa using readsRest,
    sameWord⟩
  next =>
    intro start within nonempty
    exact absurd (List.suffix_nil.mp within) nonempty
  next =>
    intro begun within opens
    obtain inTaken | ⟨start, nonempty, inLag, across⟩ := suffix_or_across within
    next => exact absurd opens (fresh begun inTaken)
    next =>
      obtain ⟨head, start, rfl⟩ := List.exists_cons_of_ne_nil nonempty
      obtain ⟨rfl, rfl⟩ := List.cons.inj across
      exact absurd opens.of_append
        (sealed start (List.suffix_append_of_suffix inLag))

end Steps

-- A reader that is ahead, and takes the rest in these segments, comes to another word.
def Parted (rest : List Char) (others : List Segment) : Prop :=
  ∀ ⦃past lag parts⦄, Ahead past lag rest → lag ≠ [] → Reads (lag ++ rest) parts →
    letters parts ≠ letters others

section Parting

variable {taken text after : List Char} {others : List Segment}

theorem Parted.of_copies {past lag : List Char} {parts : List Segment}
    (parted : Parted after others) (ahead : Ahead past lag (taken ++ after))
    (copies : Copies taken text after) (behind : text.length < lag.length + taken.length)
    (reads : Reads (lag ++ (taken ++ after)) parts) :
    letters parts ≠ letters (.text text :: others) := by
  intro same
  obtain ⟨behindNow, remaining, length, aheadNow, readsRest, word⟩ :=
    ahead.step_text copies reads same
  have isBehind : behindNow ≠ [] := List.ne_nil_of_length_pos (by omega)
  exact parted aheadNow isBehind readsRest word

theorem Parted.of_text (parted : Parted after others) (copies : Copies taken text after) :
    Parted (taken ++ after) (.text text :: others) := by
  intro past lag parts ahead behind reads
  have length := List.length_pos_of_ne_nil behind
  have short := copies.short
  exact parted.of_copies ahead copies (by omega) reads

theorem Parted.of_variable {name rest : List Char} {fallback : Option (List Char)}
    (parted : Parted after others) (sealed : Sealed ('$' :: rest) after) :
    Parted ('$' :: rest ++ after) (.variable name fallback :: others) := by
  intro past lag parts ahead behind reads same
  obtain ⟨behindNow, remaining, isBehind, aheadNow, readsRest, word⟩ :=
    ahead.step_name behind sealed reads same
  exact parted aheadNow isBehind readsRest word

end Parting

theorem eq_nil_of_reads_of_letters {value : List Char} {parts : List Segment}
    (reads : Reads value parts) (none : letters parts = []) : value = [] := by
  cases reads with
  | done => rfl
  | reference | copied => contradiction

theorem GroupWithDefault.length_lt {body text : List Char} (group : GroupWithDefault body text) :
    text.length < (braced body).length := by
  cases group
  simp [braced]
  omega

theorem parted_segments (rest : List Char) : Parted rest (segments rest) := by
  -- The induction is on the reader, and the description is taken along for as far as it agrees.
  fun_induction segments rest with
  | case1 =>
      intro past lag parts ahead behind reads same
      exact behind (List.append_eq_nil_iff.mp (eq_nil_of_reads_of_letters reads same)).1
  | case2 inner body after cut ih =>
      obtain ⟨rfl, closed⟩ := (Text.cutAt?_eq_some_iff _ _ _ _).mp cut
      rw [Text.resume_cut] at ih ⊢
      rw [← braced_append]
      obtain ⟨name, fallback, names⟩ | digits | ⟨text, group⟩ := braces_cases closed
      next =>
        rw [names.ofBraces]
        exact ih.of_variable (sealed_braced body after)
      next =>
        rw [ofBraces_of_isGroupName digits]
        exact ih.of_text (copies_braced (Nat.le_refl _) after)
      next =>
        rw [group.ofBraces]
        exact ih.of_text (copies_braced (Nat.le_of_lt group.length_lt) after)
  | case3 inner unclosed ih =>
      have neverClosed := (Text.cutAt?_eq_none_iff _ _).mp unclosed
      exact ih.of_text (copies_self (sealed_unclosed neverClosed ['$', '\x7b']))
  | case4 after ih => exact ih.of_text (copies_hidden after)
  | case5 after unbraced single name lone =>
      rename_i ih
      have free : '$' ∉ ([] : List Char) := List.not_mem_nil
      exact ih.of_text (copies_self (sealed_name free (head?_ne_some_of_ne_cons unbraced)))
  | case6 after unbraced single name named =>
      rename_i ih
      have whole : name ++ after.drop name.length = after :=
        List.prefix_iff_eq_append.mp (List.takeWhile_prefix _)
      have free : '$' ∉ name := fun inside => absurd (List.mem_takeWhile_imp inside) (by decide)
      have sealed := sealed_name free (whole.symm ▸ head?_ne_some_of_ne_cons unbraced)
      have taken : Parted ('$' :: name ++ after.drop name.length)
          (.reference name none ('$' :: name) :: segments (after.drop name.length)) := by
        unfold Segment.reference
        split
        next => exact ih.of_text (copies_self sealed)
        next => exact ih.of_variable sealed
      rwa [List.cons_append, whole] at taken
  | case7 char rest other ih =>
      have free : '$' ∉ [char] := by simpa using Ne.symm other
      exact ih.of_text (copies_self (sealed_of_free free rest))

theorem ahead_nil (value : List Char) : Ahead [] [] value where
  plain := fun _ within nonempty => absurd (List.suffix_nil.mp within) nonempty
  trail := fun _ within => absurd (List.suffix_nil.mp within) (List.cons_ne_nil _ _)

theorem letters_ne_of_shorter {taken text after : List Char} {parts : List Segment}
    (copies : Copies taken text after) (shorter : text.length < taken.length)
    (reads : Reads (taken ++ after) parts) :
    letters parts ≠ letters (.text text :: segments after) :=
  (parted_segments after).of_copies (ahead_nil _) copies (by simpa using shorter) reads

theorem Reads.of_braced {body name rest : List Char} {fallback : Option (List Char)}
    {parts : List Segment} (names : Names body name fallback)
    (reads : Reads (braced body ++ rest) parts) :
    ∃ others, parts = .variable name fallback :: others ∧ Reads rest others := by
  generalize front : braced body ++ rest = value at reads
  cases reads with
  | done => simp [braced] at front
  | reference namesAgain more =>
      obtain ⟨rfl, rfl⟩ := braced_append_inj names.closed namesAgain.closed front
      obtain ⟨rfl, rfl⟩ := Segment.variable.inj (names.ofBraces.symm.trans namesAgain.ofBraces)
      exact ⟨_, rfl, more⟩
  | copied plain => exact absurd (front ▸ refers_braced names rest) plain

theorem reads_of_self (taken : List Char) {after : List Char} {parts others : List Segment}
    (reads : Reads (taken ++ after) parts) (same : letters parts = letters (.text taken :: others))
    (more : ∀ {parts}, Reads after parts → letters parts = letters others →
      Reads after (spread others)) :
    Reads (taken ++ after) (spread (.text taken :: others)) := by
  obtain ⟨rest, remaining, split, plain, readsRest, word⟩ := reads.of_text same
  obtain rfl := List.append_cancel_left split
  exact plain.reads (more readsRest word)

theorem reads_of_letters_eq {value : List Char} {parts : List Segment} (reads : Reads value parts)
    (same : letters parts = letters (segments value)) : Reads value (spread (segments value)) := by
  fun_induction segments value generalizing parts with
  | case1 => exact .done
  | case2 inner body after cut ih =>
      obtain ⟨rfl, closed⟩ := (Text.cutAt?_eq_some_iff _ _ _ _).mp cut
      rw [Text.resume_cut] at ih same ⊢
      rw [← braced_append] at reads ⊢
      obtain ⟨name, fallback, names⟩ | digits | ⟨text, group⟩ := braces_cases closed
      next =>
        rw [names.ofBraces] at same ⊢
        obtain ⟨others, rfl, more⟩ := reads.of_braced names
        exact .reference names (ih more (List.cons.inj same).2)
      next =>
        rw [ofBraces_of_isGroupName digits] at same ⊢
        exact reads_of_self _ reads same ih
      next =>
        rw [group.ofBraces] at same ⊢
        have copies := copies_braced (Nat.le_of_lt group.length_lt) after
        exact absurd same (letters_ne_of_shorter copies group.length_lt reads)
  | case3 inner unclosed ih => exact reads_of_self ['$', '\x7b'] reads same ih
  | case4 after ih =>
      exact absurd same (letters_ne_of_shorter (copies_hidden after) (by simp) reads)
  | case5 after unbraced single name lone =>
      rename_i ih
      exact reads_of_self ['$'] reads same ih
  | case6 after unbraced single name named =>
      rename_i ih
      have whole : name ++ after.drop name.length = after :=
        List.prefix_iff_eq_append.mp (List.takeWhile_prefix _)
      unfold Segment.reference at same ⊢
      split at same
      next group =>
        rw [if_pos group]
        rw [← whole, ← List.cons_append] at reads
        have copied := reads_of_self ('$' :: name) reads same ih
        rwa [List.cons_append, whole] at copied
      next =>
        obtain ⟨_, _, _, _, _, front, _⟩ := reads.of_inserted same
        rw [braced_append] at front
        exact absurd (List.cons.inj front).2 (unbraced _)
  | case7 char rest other ih => exact reads_of_self [char] reads same ih

end Workbench.Env
