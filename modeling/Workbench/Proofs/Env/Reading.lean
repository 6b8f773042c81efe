import Mathlib.Data.List.Infix
import Workbench.Proofs.Env.Braces

set_option autoImplicit false

namespace Workbench.Env

-- Does a text begin with a reference?
def Refers (text : List Char) : Prop :=
  ∃ body name fallback rest, Names body name fallback ∧ text = braced body ++ rest

inductive Reads : List Char → List Segment → Prop
  | done : Reads [] []
  | reference {body name rest : List Char} {fallback : Option (List Char)} {parts : List Segment}
      (names : Names body name fallback) (more : Reads rest parts) :
      Reads (braced body ++ rest) (.variable name fallback :: parts)
  | copied {char : Char} {rest : List Char} {parts : List Segment}
      (plain : ¬ Refers (char :: rest)) (more : Reads rest parts) :
      Reads (char :: rest) (.text [char] :: parts)

-- What may stand behind a dollar sign that is copied.
structure Quiet (rest : List Char) : Prop where
  single : rest.head? ≠ some '$'
  unnamed : isGroupName (rest.takeWhile isNameChar) = true
  noDefault : ∀ body text after, GroupWithDefault body text →
    rest ≠ '\x7b' :: (body ++ '\x7d' :: after)

/-- Every dollar sign that is copied has something quiet behind it. -/
inductive Harmless : List Char → Prop
  | done : Harmless []
  | reference {body name rest : List Char} {fallback : Option (List Char)}
      (names : Names body name fallback) (more : Harmless rest) :
      Harmless (braced body ++ rest)
  | dollar {rest : List Char} (plain : ¬ Refers ('$' :: rest)) (quiet : Quiet rest)
      (more : Harmless rest) : Harmless ('$' :: rest)
  | other {char : Char} {rest : List Char} (other : char ≠ '$') (more : Harmless rest) :
      Harmless (char :: rest)

theorem refers_braced {body name : List Char} {fallback : Option (List Char)}
    (names : Names body name fallback) (rest : List Char) :
    Refers (braced body ++ rest) :=
  ⟨body, name, fallback, rest, names, rfl⟩

theorem not_refers_of_ne {char : Char} (other : char ≠ '$') (rest : List Char) :
    ¬ Refers (char :: rest) := by
  rintro ⟨body, _, _, _, _, same⟩
  rw [braced_append] at same
  exact other (List.cons.inj same).1

theorem not_refers_of_unbraced {rest : List Char} (unbraced : rest.head? ≠ some '\x7b') :
    ¬ Refers ('$' :: rest) := by
  rintro ⟨body, _, _, _, _, same⟩
  rw [braced_append] at same
  exact unbraced (by rw [(List.cons.inj same).2]; rfl)

theorem not_refers_of_unclosed {inner : List Char} (unclosed : '\x7d' ∉ inner) :
    ¬ Refers ('$' :: '\x7b' :: inner) := by
  rintro ⟨body, _, _, rest, _, same⟩
  rw [braced_append] at same
  rw [(List.cons.inj (List.cons.inj same).2).2] at unclosed
  simp at unclosed

theorem not_refers_of_text {body text : List Char} (closed : '\x7d' ∉ body)
    (asText : Segment.ofBraces body = .text text) (rest : List Char) :
    ¬ Refers (braced body ++ rest) := by
  rintro ⟨other, _, _, _, names, same⟩
  obtain ⟨rfl, _⟩ := braced_append_inj closed names.closed same
  rw [names.ofBraces] at asText
  contradiction

section Inversion

variable {rest : List Char} {parts : List Segment}

theorem reads_braced_iff {body name : List Char} {fallback : Option (List Char)}
    (names : Names body name fallback) :
    Reads (braced body ++ rest) (.variable name fallback :: parts) ↔ Reads rest parts := by
  constructor
  next =>
    intro reads
    generalize written : braced body ++ rest = value at reads
    cases reads with
    | reference namesAgain more =>
        obtain ⟨_, rfl⟩ := braced_append_inj names.closed namesAgain.closed written
        exact more
  next => exact fun more => .reference names more

theorem reads_copied_iff {char : Char} (plain : ¬ Refers (char :: rest)) (part : Segment) :
    Reads (char :: rest) (part :: parts) ↔ part = .text [char] ∧ Reads rest parts := by
  constructor
  next =>
    intro reads
    generalize written : char :: rest = value at reads
    cases reads with
    | reference names more =>
        rw [written] at plain
        exact absurd (refers_braced names _) plain
    | copied unreferred more =>
        obtain ⟨rfl, rfl⟩ := List.cons.inj written
        exact ⟨rfl, more⟩
  next =>
    rintro ⟨rfl, more⟩
    exact .copied plain more

theorem harmless_braced_iff {body name : List Char} {fallback : Option (List Char)}
    (names : Names body name fallback) :
    Harmless (braced body ++ rest) ↔ Harmless rest := by
  constructor
  next =>
    intro harmless
    generalize written : braced body ++ rest = value at harmless
    cases harmless with
    | done => simp [braced] at written
    | reference namesAgain more =>
        obtain ⟨_, rfl⟩ := braced_append_inj names.closed namesAgain.closed written
        exact more
    | dollar plain quiet more => exact absurd (written ▸ refers_braced names rest) plain
    | other other more =>
        exact absurd (written ▸ refers_braced names rest) (not_refers_of_ne other _)
  next => exact fun more => .reference names more

theorem harmless_dollar_iff (plain : ¬ Refers ('$' :: rest)) :
    Harmless ('$' :: rest) ↔ Quiet rest ∧ Harmless rest := by
  constructor
  next =>
    intro harmless
    generalize written : '$' :: rest = value at harmless
    cases harmless with
    | done => contradiction
    | reference names more =>
        rw [written] at plain
        exact absurd (refers_braced names _) plain
    | dollar unseen quiet more =>
        obtain ⟨_, rfl⟩ := List.cons.inj written
        exact ⟨quiet, more⟩
    | other other more => exact absurd (List.cons.inj written).1.symm other
  next => exact fun ⟨quiet, more⟩ => .dollar plain quiet more

theorem harmless_other_iff {char : Char} (other : char ≠ '$') :
    Harmless (char :: rest) ↔ Harmless rest := by
  constructor
  next =>
    intro harmless
    generalize written : char :: rest = value at harmless
    cases harmless with
    | done => contradiction
    | reference names more =>
        rw [braced_append] at written
        exact absurd (List.cons.inj written).1 other
    | dollar plain quiet more => exact absurd (List.cons.inj written).1 other
    | other differs more =>
        obtain ⟨_, rfl⟩ := List.cons.inj written
        exact more
  next => exact .other other

theorem harmless_plain_iff {plain : List Char} (free : '$' ∉ plain) :
    Harmless (plain ++ rest) ↔ Harmless rest := by
  induction plain with
  | nil => rfl
  | cons char others ih =>
      rw [List.mem_cons, not_or] at free
      rw [List.cons_append, harmless_other_iff (Ne.symm free.1), ih free.2]

theorem reads_plain_iff {plain : List Char} (free : '$' ∉ plain) :
    Reads (plain ++ rest) (plain.map (.text [·]) ++ parts) ↔ Reads rest parts := by
  induction plain with
  | nil => rfl
  | cons char others ih =>
      rw [List.mem_cons, not_or] at free
      rw [List.cons_append, List.map_cons, List.cons_append,
        reads_copied_iff (not_refers_of_ne (Ne.symm free.1) _), ih free.2]
      exact and_iff_right rfl

end Inversion

def spread (parts : List Segment) : List Segment :=
  parts.flatMap fun
    | .text copied => copied.map (.text [·])
    | part => [part]

theorem spread_text_cons (text : List Char) (parts : List Segment) :
    spread (.text text :: parts) = text.map (.text [·]) ++ spread parts := rfl

theorem spread_variable_cons (name : List Char) (fallback : Option (List Char))
    (parts : List Segment) :
    spread (.variable name fallback :: parts) = .variable name fallback :: spread parts := rfl

def written : Segment → List Char
  | .text copied => copied
  | .variable name none => braced name
  | .variable name (some text) => braced (name ++ mark ++ text)

theorem Names.written_eq {body name : List Char} {fallback : Option (List Char)}
    (names : Names body name fallback) : written (.variable name fallback) = braced body := by
  cases names <;> rfl

theorem Reads.written_eq {value : List Char} {parts : List Segment} (reads : Reads value parts) :
    parts.flatMap written = value := by
  induction reads with
  | done => rfl
  | reference names more ih => rw [List.flatMap_cons, names.written_eq, ih]
  | copied plain more ih =>
      rw [List.flatMap_cons, ih]
      rfl

theorem written_spread (parts : List Segment) :
    (spread parts).flatMap written = parts.flatMap written := by
  induction parts with
  | nil => rfl
  | cons part rest ih =>
      match part with
      | .text text =>
          have one : text.flatMap (fun char => written (.text [char])) = text := by
            simp [written]
          rw [spread_text_cons, List.flatMap_append, List.flatMap_map, one, ih]
          rfl
      | .variable name fallback =>
          rw [spread_variable_cons, List.flatMap_cons, ih, List.flatMap_cons]

theorem count_written_ofBraces {body : List Char} (closed : '\x7d' ∉ body) :
    (written (.ofBraces body)).count '$' ≤ (braced body).count '$' := by
  obtain ⟨name, fallback, names⟩ | digits | ⟨text, group⟩ := braces_cases closed
  next => rw [names.ofBraces, names.written_eq]
  next =>
    rw [ofBraces_of_isGroupName digits]
    exact Nat.le_refl _
  next =>
    rw [group.ofBraces]
    cases group
    simp [written, braced]
    omega

-- A dollar sign is never added: it stays, or another one hides it.
theorem count_written_segments (value : List Char) :
    ((segments value).flatMap written).count '$' ≤ value.count '$' := by
  fun_induction segments value with
  | case1 => exact Nat.le_refl _
  | case2 inner body after cut ih =>
      obtain ⟨rfl, closed⟩ := (Text.cutAt?_eq_some_iff _ _ _ _).mp cut
      have head := count_written_ofBraces closed
      rw [Text.resume_cut] at ih ⊢
      rw [← braced_append, List.flatMap_cons, List.count_append, List.count_append]
      omega
  | case3 inner unclosed ih =>
      simp [written] at ih ⊢
      omega
  | case4 after ih =>
      simp [written] at ih ⊢
      omega
  | case5 after unbraced single name lone ih =>
      simp [written] at ih ⊢
      omega
  | case6 after unbraced single name named ih =>
      have whole : name ++ after.drop name.length = after :=
        List.prefix_iff_eq_append.mp (List.takeWhile_prefix _)
      have head : (written (.reference name none ('$' :: name))).count '$' ≤
          ('$' :: name).count '$' := by
        unfold Segment.reference
        split <;> simp [written, braced]
      have total : ('$' :: after).count '$' =
          ('$' :: name).count '$' + (after.drop name.length).count '$' := by
        conv_lhs => rw [← whole, ← List.cons_append, List.count_append]
      rw [List.flatMap_cons, List.count_append, total]
      omega
  | case7 char rest other ih =>
      simp only [List.flatMap_cons, written, List.count_append, List.count_cons,
        List.count_nil] at ih ⊢
      omega

theorem dollar_not_mem_of_isGroupName {name : List Char} (digits : isGroupName name = true) :
    '$' ∉ name := fun inside => absurd (List.all_eq_true.mp digits '$' inside) (by decide)

theorem head?_ne_some_of_ne_cons {char : Char} {text : List Char}
    (other : ∀ rest, text = char :: rest → False) : text.head? ≠ some char := by
  intro head
  obtain ⟨rest, same⟩ := List.head?_eq_some_iff.mp head
  exact other rest same

theorem Quiet.of_unbraced {rest : List Char} (unbraced : rest.head? ≠ some '\x7b')
    (single : rest.head? ≠ some '$') (unnamed : isGroupName (rest.takeWhile isNameChar) = true) :
    Quiet rest where
  single := single
  unnamed := unnamed
  noDefault := by
    rintro body text after _ rfl
    exact unbraced rfl

theorem Quiet.of_braced {inner : List Char}
    (noDefault : ∀ body text after, GroupWithDefault body text →
      inner ≠ body ++ '\x7d' :: after) : Quiet ('\x7b' :: inner) where
  single := by simp
  unnamed := by
    rw [List.takeWhile_cons_of_neg (by decide)]
    rfl
  noDefault := fun body text after group same =>
    noDefault body text after group (List.cons.inj same).2

theorem reads_iff_harmless_of_quiet {tail after : List Char} {parts : List Segment}
    (plain : ¬ Refers ('$' :: (tail ++ after))) (free : '$' ∉ tail) (quiet : Quiet (tail ++ after))
    (more : Reads after (spread parts) ↔ Harmless after) :
    Reads ('$' :: (tail ++ after)) (spread (.text ('$' :: tail) :: parts)) ↔
      Harmless ('$' :: (tail ++ after)) := by
  rw [spread_text_cons, List.map_cons, List.cons_append, reads_copied_iff plain,
    reads_plain_iff free, harmless_dollar_iff plain, harmless_plain_iff free, more]
  exact and_congr_left' (iff_of_true rfl quiet)

theorem not_reads_of_count_lt {value : List Char} {parts : List Segment}
    (fewer : (parts.flatMap written).count '$' < value.count '$') :
    ¬ Reads value (spread parts) := by
  intro reads
  rw [← written_spread, reads.written_eq] at fewer
  exact Nat.lt_irrefl _ fewer

theorem not_harmless_of_not_quiet {rest : List Char} (plain : ¬ Refers ('$' :: rest))
    (loud : ¬ Quiet rest) : ¬ Harmless ('$' :: rest) := fun harmless =>
  loud ((harmless_dollar_iff plain).mp harmless).1

section Kinds
variable {body after : List Char}

theorem quiet_of_braced_digits (closed : '\x7d' ∉ body) (digits : isGroupName body = true) :
    Quiet ('\x7b' :: body ++ ['\x7d'] ++ after) := by
  rw [List.append_assoc]
  apply Quiet.of_braced
  intro other text rest group same
  have whole : braced body ++ after = braced other ++ rest := by
    rw [braced_append, braced_append]
    exact congrArg ('$' :: '\x7b' :: ·) same
  obtain ⟨rfl, _⟩ := braced_append_inj closed group.closed whole
  cases group
  exact no_mark_of_isGroupName digits ⟨_, text, rfl⟩

theorem reads_iff_of_braced_digits (closed : '\x7d' ∉ body) (digits : isGroupName body = true)
    (more : Reads after (spread (segments after)) ↔ Harmless after) :
    Reads (braced body ++ after) (spread (.ofBraces body :: segments after)) ↔
      Harmless (braced body ++ after) := by
  have copied := ofBraces_of_isGroupName digits
  have free : '$' ∉ '\x7b' :: body ++ ['\x7d'] := by
    simp [dollar_not_mem_of_isGroupName digits]
  rw [copied]
  exact reads_iff_harmless_of_quiet (not_refers_of_text closed copied after) free
    (quiet_of_braced_digits closed digits) more

theorem reads_iff_of_groupWithDefault {text : List Char} (closed : '\x7d' ∉ body)
    (group : GroupWithDefault body text) :
    Reads (braced body ++ after) (spread (.ofBraces body :: segments after)) ↔
      Harmless (braced body ++ after) := by
  have plain := not_refers_of_text closed group.ofBraces after
  rw [braced_append] at plain ⊢
  have loud : ¬ Quiet ('\x7b' :: (body ++ '\x7d' :: after)) := fun quiet =>
    quiet.noDefault body text after group rfl
  have fewer : ((Segment.ofBraces body :: segments after).flatMap written).count '$' <
      ('$' :: '\x7b' :: (body ++ '\x7d' :: after)).count '$' := by
    have rest := count_written_segments after
    rw [group.ofBraces]
    cases group
    simp [written]
    omega
  exact iff_of_false (not_reads_of_count_lt fewer) (not_harmless_of_not_quiet plain loud)

theorem reads_iff_of_unclosed (unclosed : '\x7d' ∉ after)
    (more : Reads after (spread (segments after)) ↔ Harmless after) :
    Reads ('$' :: '\x7b' :: after) (spread (.text ['$', '\x7b'] :: segments after)) ↔
      Harmless ('$' :: '\x7b' :: after) := by
  have quiet : Quiet ('\x7b' :: after) := by
    apply Quiet.of_braced
    rintro body text rest _ rfl
    simp at unclosed
  have free : '$' ∉ ['\x7b'] := by decide
  exact reads_iff_harmless_of_quiet (not_refers_of_unclosed unclosed) free quiet more

theorem reads_iff_of_hidden_dollar :
    Reads ('$' :: '$' :: after) (spread (.text ['$'] :: segments after)) ↔
      Harmless ('$' :: '$' :: after) := by
  have loud : ¬ Quiet ('$' :: after) := fun quiet => quiet.single rfl
  have fewer : ((Segment.text ['$'] :: segments after).flatMap written).count '$' <
      ('$' :: '$' :: after).count '$' := by
    have rest := count_written_segments after
    simp [written]
    omega
  exact iff_of_false (not_reads_of_count_lt fewer)
    (not_harmless_of_not_quiet (not_refers_of_unbraced (by simp)) loud)

theorem reads_iff_of_bare_name {rest : List Char} (unbraced : after.head? ≠ some '\x7b')
    (single : after.head? ≠ some '$') (whole : after.takeWhile isNameChar ++ rest = after)
    (more : Reads rest (spread (segments rest)) ↔ Harmless rest) :
    Reads ('$' :: after) (spread (.reference (after.takeWhile isNameChar) none
        ('$' :: after.takeWhile isNameChar) :: segments rest)) ↔ Harmless ('$' :: after) := by
  have plain : ¬ Refers ('$' :: after) := not_refers_of_unbraced unbraced
  unfold Segment.reference
  split
  next digits =>
    have quiet : Quiet after := .of_unbraced unbraced single digits
    rw [Option.getD_none]
    generalize after.takeWhile isNameChar = name at whole digits
    subst whole
    exact reads_iff_harmless_of_quiet plain (dollar_not_mem_of_isGroupName digits) quiet more
  next named =>
    have loud : ¬ Quiet after := fun quiet => named quiet.unnamed
    rw [spread_variable_cons]
    refine iff_of_false (fun reads => ?_) (not_harmless_of_not_quiet plain loud)
    exact nomatch ((reads_copied_iff plain _).mp reads).1

end Kinds

theorem reads_segments_iff (value : List Char) :
    Reads value (spread (segments value)) ↔ Harmless value := by
  fun_induction segments value with
  | case1 => exact iff_of_true .done .done
  | case2 inner body after cut ih =>
      obtain ⟨rfl, closed⟩ := (Text.cutAt?_eq_some_iff _ _ _ _).mp cut
      rw [Text.resume_cut] at ih ⊢
      rw [← braced_append]
      obtain ⟨name, fallback, names⟩ | digits | ⟨text, group⟩ := braces_cases closed
      next =>
        rw [names.ofBraces, spread_variable_cons, reads_braced_iff names, ih,
          harmless_braced_iff names]
      next => exact reads_iff_of_braced_digits closed digits ih
      next => exact reads_iff_of_groupWithDefault closed group
  | case3 inner unclosed ih =>
      exact reads_iff_of_unclosed ((Text.cutAt?_eq_none_iff _ _).mp unclosed) ih
  | case4 after ih => exact reads_iff_of_hidden_dollar
  | case5 after unbraced single name lone ih =>
      have unnamed : after.takeWhile isNameChar = [] := List.isEmpty_iff.mp lone
      have quiet : Quiet after := by
        apply Quiet.of_unbraced (head?_ne_some_of_ne_cons unbraced)
          (head?_ne_some_of_ne_cons single)
        rw [unnamed]
        rfl
      have plain : ¬ Refers ('$' :: ([] ++ after)) :=
        not_refers_of_unbraced (head?_ne_some_of_ne_cons unbraced)
      exact reads_iff_harmless_of_quiet plain List.not_mem_nil quiet ih
  | case6 after unbraced single name named ih =>
      exact reads_iff_of_bare_name (head?_ne_some_of_ne_cons unbraced)
        (head?_ne_some_of_ne_cons single)
        (List.prefix_iff_eq_append.mp (List.takeWhile_prefix _)) ih
  | case7 char rest other ih =>
      rw [spread_text_cons, List.map_singleton, List.singleton_append,
        reads_copied_iff (not_refers_of_ne other rest), harmless_other_iff other, ih]
      exact and_iff_right rfl

end Workbench.Env
