import Workbench.Proofs.Env.Documented
import Workbench.Proofs.Success

set_option autoImplicit false

namespace Workbench.Env

-- What is known of a variable apart from its value.
inductive Presence
  | unset
  | empty
  | filled
  deriving DecidableEq, Repr

def presence : Option (List Char) -> Presence
  | none => .unset
  | some [] => .empty
  | some (_ :: _) => .filled

abbrev Shape := List Char -> Presence

theorem presence_eq_unset_iff (value : Option (List Char)) :
    presence value = .unset ↔ value = none := by
  rcases value with _ | _ | _ <;> simp [presence]

def Segment.word (shape : Shape) : Segment -> Except (List Char) (List Letter)
  | .text written => .ok (written.map .copied)
  | .variable name fallback =>
      if shape name = .unset then
        match fallback with
        | some default => .ok (default.map .copied)
        | none => .error name
      else .ok [.inserted name]

def wordOf (shape : Shape) : List Segment -> Except (List Char) (List Letter)
  | [] => .ok []
  | part :: rest => do
      let word ← part.word shape
      let others ← wordOf shape rest
      pure (word ++ others)

def plan (value : List Char) (shape : Shape) : Except (List Char) (List Letter) :=
  if hasBrace value then wordOf shape (segments value) else .ok (value.map .copied)

def Fits (value : List Char) (shape : Shape) (environment : Environment) : Prop :=
  ∀ name, name <:+: value → presence (environment name) = shape name

def valuesIn (environment : Environment) (name : List Char) : List Char :=
  (environment name).getD []

section Names

variable {name other written : List Char} {fallback default : Option (List Char)}

theorem name_of_reference
    (refers : Segment.reference name fallback written = .variable other default) :
    other = name := by
  unfold Segment.reference at refers
  split at refers
  next => contradiction
  next => exact (Segment.variable.inj refers).1.symm

theorem names_of_ofBraces {body : List Char} (closed : '\x7d' ∉ body)
    (refers : Segment.ofBraces body = .variable name fallback) : Names body name fallback := by
  obtain ⟨other, text, names⟩ | digits | ⟨text, group⟩ := braces_cases closed
  next =>
    rw [names.ofBraces] at refers
    obtain ⟨rfl, rfl⟩ := Segment.variable.inj refers
    exact names
  next =>
    rw [ofBraces_of_isGroupName digits] at refers
    contradiction
  next =>
    rw [group.ofBraces] at refers
    contradiction

theorem Names.infix_body {body : List Char} (names : Names body name fallback) :
    name <:+: body := by
  cases names with
  | bare => exact List.infix_rfl
  | fallback =>
      rw [List.append_assoc]
      exact (List.prefix_append _ _).isInfix

theorem infix_of_mem_segments {value : List Char}
    (member : .variable name fallback ∈ segments value) : name <:+: value := by
  fun_induction segments value with
  | case1 => contradiction
  | case2 inner body after cut ih =>
      obtain ⟨rfl, closed⟩ := (Text.cutAt?_eq_some_iff _ _ _ _).mp cut
      rw [Text.resume_cut] at member ih
      rw [← braced_append]
      cases List.mem_cons.mp member with
      | inl first =>
          have inside : body <:+: braced body ++ after :=
            ⟨['$', '\x7b'], '\x7d' :: after, by simp [braced]⟩
          exact (names_of_ofBraces closed first.symm).infix_body.trans inside
      | inr behind => exact (ih behind).trans (List.suffix_append _ _).isInfix
  | case3 inner unclosed ih =>
      have behind := (List.mem_cons.mp member).resolve_left Segment.noConfusion
      exact (ih behind).trans (List.suffix_append ['$', '\x7b'] inner).isInfix
  | case4 after ih =>
      have behind := (List.mem_cons.mp member).resolve_left Segment.noConfusion
      exact (ih behind).trans (List.suffix_append ['$', '$'] after).isInfix
  | case5 after unbraced single name lone ih =>
      have behind := (List.mem_cons.mp member).resolve_left Segment.noConfusion
      exact (ih behind).trans (List.suffix_cons _ _).isInfix
  | case6 after unbraced single found named ih =>
      have inside : after <:+: '$' :: after := (List.suffix_cons _ _).isInfix
      cases List.mem_cons.mp member with
      | inl first =>
          rw [name_of_reference first.symm]
          exact (List.takeWhile_prefix _).isInfix.trans inside
      | inr behind => exact ((ih behind).trans (List.drop_suffix _ _).isInfix).trans inside
  | case7 char rest other ih =>
      have behind := (List.mem_cons.mp member).resolve_left Segment.noConfusion
      exact (ih behind).trans (List.suffix_cons _ _).isInfix

end Names

section Plan

variable {environment : Environment} {shape : Shape}

theorem expand_eq_word {part : Segment}
    (fits : ∀ name fallback, part = .variable name fallback →
      presence (environment name) = shape name) :
    part.expand environment = (part.word shape).map (fill (valuesIn environment)) := by
  match part with
  | .text written => simp [Segment.expand, Segment.word, Except.map, fill_map_copied]
  | .variable name fallback =>
      unfold Segment.word
      dsimp only
      rw [expand_variable, ← fits name fallback rfl]
      cases value : environment name with
      | none => cases fallback <;> simp [presence, Except.map, fill_map_copied]
      | some text =>
          have set : presence (some text) ≠ .unset := by simp [presence_eq_unset_iff]
          simp [set, Except.map, fill, valuesIn, value]

theorem expandSegments_eq_wordOf {parts : List Segment}
    (fits : ∀ name fallback, .variable name fallback ∈ parts →
      presence (environment name) = shape name) :
    expandSegments environment parts = (wordOf shape parts).map (fill (valuesIn environment)) := by
  induction parts with
  | nil => rfl
  | cons part rest ih =>
      have first := expand_eq_word fun name fallback same =>
        fits name fallback (same ▸ List.mem_cons_self)
      have behind := ih fun name fallback member =>
        fits name fallback (List.mem_cons_of_mem part member)
      rw [expandSegments, wordOf, first, behind]
      cases part.word shape with
      | error => rfl
      | ok word =>
          cases wordOf shape rest with
          | error => rfl
          | ok others => exact congrArg Except.ok (fill_append _ word others).symm

theorem expand_eq_plan {value : List Char} (fits : Fits value shape environment) :
    expand environment value = (plan value shape).map (fill (valuesIn environment)) := by
  unfold expand plan
  split
  next =>
    exact expandSegments_eq_wordOf fun name _ member => fits name (infix_of_mem_segments member)
  next => simp [Except.map, fill_map_copied]

theorem fill_congr {values others : List Char → List Char} {word : List Letter}
    (alike : ∀ name, .inserted name ∈ word → values name = others name) :
    fill values word = fill others word := by
  induction word with
  | nil => rfl
  | cons letter rest ih =>
      have behind := ih fun name member => alike name (List.mem_cons_of_mem letter member)
      cases letter with
      | copied char => rw [fill, fill, behind]
      | inserted name => rw [fill, fill, behind, alike name List.mem_cons_self]

theorem wordOf_congr {other : Shape} {parts : List Segment}
    (alike : ∀ name fallback, .variable name fallback ∈ parts →
      (shape name = .unset ↔ other name = .unset)) :
    wordOf shape parts = wordOf other parts := by
  induction parts with
  | nil => rfl
  | cons part rest ih =>
      have behind := ih fun name fallback member =>
        alike name fallback (List.mem_cons_of_mem part member)
      have first : part.word shape = part.word other := by
        match part with
        | .text written => rfl
        | .variable name fallback =>
            unfold Segment.word
            simp only [alike name fallback List.mem_cons_self]
      rw [wordOf, wordOf, first, behind]

theorem inserted_of_word {part : Segment} {word : List Letter} {name : List Char}
    (come : part.word shape = .ok word) (member : .inserted name ∈ word) :
    ∃ fallback, part = .variable name fallback ∧ shape name ≠ .unset := by
  unfold Segment.word at come
  split at come
  next =>
    obtain rfl := Except.ok.inj come
    simp at member
  next other fallback =>
    split_ifs at come with set
    next =>
      cases fallback with
      | none => contradiction
      | some default =>
          obtain rfl := Except.ok.inj come
          simp at member
    next =>
      obtain rfl := Except.ok.inj come
      obtain rfl := Letter.inserted.inj (List.mem_singleton.mp member)
      exact ⟨fallback, rfl, set⟩

theorem missing_of_word {part : Segment} {name : List Char}
    (fails : part.word shape = .error name) :
    part = .variable name none ∧ shape name = .unset := by
  unfold Segment.word at fails
  split at fails
  next => contradiction
  next other fallback =>
    split_ifs at fails with unset
    cases fallback with
    | none =>
        obtain rfl := Except.error.inj fails
        exact ⟨rfl, unset⟩
    | some default => contradiction

theorem inserted_of_wordOf {parts : List Segment} {word : List Letter} {name : List Char}
    (come : wordOf shape parts = .ok word) (member : .inserted name ∈ word) :
    (∃ fallback, .variable name fallback ∈ parts) ∧ shape name ≠ .unset := by
  induction parts generalizing word with
  | nil =>
      obtain rfl := Except.ok.inj come
      contradiction
  | cons part rest ih =>
      simp only [wordOf, bind_eq_ok_iff] at come
      obtain ⟨first, here, others, behind, same⟩ := come
      obtain rfl := Except.ok.inj same
      cases List.mem_append.mp member with
      | inl inFirst =>
          obtain ⟨fallback, rfl, set⟩ := inserted_of_word here inFirst
          exact ⟨⟨fallback, List.mem_cons_self⟩, set⟩
      | inr inOthers =>
          obtain ⟨⟨fallback, among⟩, set⟩ := ih behind inOthers
          exact ⟨⟨fallback, List.mem_cons_of_mem part among⟩, set⟩

theorem missing_of_wordOf {parts : List Segment} {name : List Char}
    (fails : wordOf shape parts = .error name) :
    .variable name none ∈ parts ∧ shape name = .unset := by
  induction parts with
  | nil => contradiction
  | cons part rest ih =>
      simp only [wordOf, bind_eq_error_iff] at fails
      obtain here | ⟨first, -, behind | ⟨others, -, impossible⟩⟩ := fails
      next =>
        obtain ⟨rfl, unset⟩ := missing_of_word here
        exact ⟨List.mem_cons_self, unset⟩
      next => exact ⟨List.mem_cons_of_mem part (ih behind).1, (ih behind).2⟩
      next => contradiction

theorem inserted_of_plan {value name : List Char} {word : List Letter}
    (come : plan value shape = .ok word) (member : .inserted name ∈ word) :
    name <:+: value ∧ shape name ≠ .unset := by
  unfold plan at come
  split at come
  next =>
    obtain ⟨⟨fallback, among⟩, set⟩ := inserted_of_wordOf come member
    exact ⟨infix_of_mem_segments among, set⟩
  next =>
    obtain rfl := Except.ok.inj come
    simp at member

theorem missing_of_plan {value name : List Char} (fails : plan value shape = .error name) :
    name <:+: value ∧ shape name = .unset := by
  unfold plan at fails
  split at fails
  next =>
    obtain ⟨among, unset⟩ := missing_of_wordOf fails
    exact ⟨infix_of_mem_segments among, unset⟩
  next => contradiction

theorem plan_congr {value : List Char} {other : Shape}
    (alike : ∀ name, name <:+: value → (shape name = .unset ↔ other name = .unset)) :
    plan value shape = plan value other := by
  have words : wordOf shape (segments value) = wordOf other (segments value) :=
    wordOf_congr fun name _ member => alike name (infix_of_mem_segments member)
  rw [plan, plan, words]

theorem expand_congr {value : List Char} {other : Environment}
    (alike : ∀ name, name <:+: value → environment name = other name) :
    expand environment value = expand other value := by
  have fits : Fits value (fun name => presence (other name)) environment := fun name inside =>
    congrArg presence (alike name inside)
  have fitsOther : Fits value (fun name => presence (other name)) other := fun _ _ => rfl
  rw [expand_eq_plan fits, expand_eq_plan fitsOther]
  cases come : plan value fun name => presence (other name) with
  | error name => rfl
  | ok word =>
      have values : ∀ name, .inserted name ∈ word →
          valuesIn environment name = valuesIn other name := by
        intro name member
        rw [valuesIn, valuesIn, alike name (inserted_of_plan come member).1]
      exact congrArg Except.ok (fill_congr values)

theorem wordOf_copied (shape : Shape) (text : List Char) (rest : List Segment) :
    wordOf shape (text.map (.text [·]) ++ rest) =
      (wordOf shape rest).map (text.map .copied ++ ·) := by
  induction text with
  | nil =>
      rw [List.map_nil, List.nil_append]
      cases wordOf shape rest <;> rfl
  | cons char others ih =>
      rw [List.map_cons, List.cons_append, wordOf, ih]
      cases wordOf shape rest <;> rfl

theorem wordOf_spread (shape : Shape) (parts : List Segment) :
    wordOf shape (spread parts) = wordOf shape parts := by
  induction parts with
  | nil => rfl
  | cons part rest ih =>
      match part with
      | .text text =>
          rw [spread_text_cons, wordOf_copied, ih, wordOf]
          cases wordOf shape rest <;> rfl
      | .variable name fallback => rw [spread_variable_cons, wordOf, wordOf, ih]

theorem Reads.unique {value : List Char} {parts others : List Segment} (reads : Reads value parts)
    (again : Reads value others) : parts = others := by
  induction reads generalizing others with
  | done =>
      generalize empty : ([] : List Char) = value at again
      cases again with
      | done => rfl
      | reference | copied => simp [braced] at empty
  | reference names more ih =>
      obtain ⟨behind, rfl, tail⟩ := Reads.of_braced names again
      rw [ih tail]
  | copied plain more ih =>
      cases others with
      | nil => contradiction
      | cons part behind =>
          obtain ⟨rfl, tail⟩ := (reads_copied_iff plain part).mp again
          rw [ih tail]

theorem plan_of_reads {value : List Char} {parts : List Segment} (reads : Reads value parts)
    (quiet : hasBrace value = false ∨ Harmless value) : plan value shape = wordOf shape parts := by
  unfold plan
  split
  next brace =>
    have readsSpread := (reads_segments_iff value).mpr (quiet.resolve_left (by simp [brace]))
    rw [reads.unique readsSpread, wordOf_spread]
  next plain =>
    have copied := wordOf_copied shape value []
    rw [List.append_nil] at copied
    rw [reads.unique (reads_of_no_brace (Bool.not_eq_true _ ▸ plain)), copied]
    simp [wordOf, Except.map]

end Plan

/-- Which variables are set decides between one word and one error, which are those of the
description where the text follows it. What the variables hold is put in where the word says and
decides nothing else, not even if it is empty, and a variable whose name is nowhere in the text does
not count. -/
theorem expandField_follows_plan (value : String) :
    ∃ plan : Shape → Except (List Char) (List Letter),
      (∀ shape environment, Fits value.toList shape environment → ∀ field,
        expandField environment field value =
          match plan shape with
          | .ok word => .ok (String.ofList (fill (valuesIn environment) word))
          | .error name => .error ⟨field, name⟩) ∧
      (hasBrace value.toList = false ∨ Harmless value.toList → ∀ parts,
        Reads value.toList parts → ∀ shape, plan shape = wordOf shape parts) ∧
      (∀ shape word name, plan shape = .ok word → .inserted name ∈ word →
        name <:+: value.toList ∧ shape name ≠ .unset) ∧
      (∀ shape name, plan shape = .error name →
        name <:+: value.toList ∧ shape name = .unset) ∧
      (∀ shape other, (∀ name, name <:+: value.toList →
        (shape name = .unset ↔ other name = .unset)) → plan shape = plan other) ∧
      ∀ environment other, (∀ name, name <:+: value.toList → environment name = other name) →
        ∀ field, expandField environment field value = expandField other field value := by
  refine ⟨plan value.toList, ?_, fun quiet _ reads _ => plan_of_reads reads quiet,
    fun _ _ _ => inserted_of_plan, fun _ _ => missing_of_plan, fun _ _ => plan_congr, ?_⟩
  next =>
    intro shape environment fits field
    rw [expandField, expand_eq_plan fits]
    cases plan value.toList shape <;> rfl
  next =>
    intro environment other alike field
    rw [expandField, expandField, expand_congr alike]

def referring (reference : String) (host : Option String) : Environment := fun name =>
  if name = "REF".toList then some reference.toList
  else if name = "HOST".toList then host.map String.toList else none

theorem inserted_references_stay :
    let value := "$\x7bREF\x7d:$\x7bNONE:-$REF\x7d"
    let first := referring "$\x7bHOST\x7d" (some "h")
    let second := referring "h" none
    (∃ word, expandField first "dev.host" value =
        .ok (String.ofList (fill (valuesIn first) word)) ∧
      expandField second "dev.host" value =
        .ok (String.ofList (fill (valuesIn second) word))) ∧
      expandField first "dev.host" value =
        expandField (referring "$\x7bHOST\x7d" none) "dev.host" value ∧
      expandField first "dev.host" value = .ok "$\x7bHOST\x7d:$REF" := by
  intro value first second
  have result : expandField first "dev.host" value = .ok "$\x7bHOST\x7d:$REF" := by decide +kernel
  have elsewhere {name : List Char} (inside : name <:+: value.toList) : name ≠ "HOST".toList := by
    intro same
    exact absurd (same ▸ inside) (by decide)
  obtain ⟨plan, follows, -, -, -, -, unread⟩ := expandField_follows_plan value
  have one := follows (fun name => presence (first name)) first (fun _ _ => rfl) "dev.host"
  have other : Fits value.toList (fun name => presence (first name)) second := by
    intro name inside
    simp only [first, second, referring, if_neg (elsewhere inside)]
    split <;> rfl
  have two := follows _ second other "dev.host"
  refine ⟨?_, unread _ _ (fun name inside => ?_) "dev.host", result⟩
  next =>
    cases come : plan fun name => presence (first name) with
    | ok word => exact ⟨word, by rw [one, come], by rw [two, come]⟩
    | error name =>
        rw [one, come] at result
        contradiction
  next => simp only [first, referring, if_neg (elsewhere inside)]

end Workbench.Env
