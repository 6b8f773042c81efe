import Workbench.Proofs.Env.Ahead
import Workbench.Proofs.Rule.Template

set_option autoImplicit false

namespace Workbench.Env

/-- What a text comes to in an environment. -/
inductive Expands (environment : Environment) :
    List Char → Except (List Char) (List Char) → Prop
  | done : Expands environment [] (.ok [])
  | replaced {body name rest text : List Char} {fallback : Option (List Char)}
      {result : Except (List Char) (List Char)} (names : Names body name fallback)
      (found : (environment name).or fallback = some text)
      (more : Expands environment rest result) :
      Expands environment (braced body ++ rest) (result.map (text ++ ·))
  | missing {body name rest : List Char} (names : Names body name none)
      (unset : environment name = none) :
      Expands environment (braced body ++ rest) (.error name)
  | copied {char : Char} {rest : List Char} {result : Except (List Char) (List Char)}
      (plain : ¬ Refers (char :: rest)) (more : Expands environment rest result) :
      Expands environment (char :: rest) (result.map (char :: ·))

theorem expandSegments_cons (environment : Environment) (part : Segment) (rest : List Segment) :
    expandSegments environment (part :: rest) = (part.expand environment).bind fun text =>
      (expandSegments environment rest).map (text ++ ·) := by
  rw [expandSegments]
  cases part.expand environment <;> cases expandSegments environment rest <;> rfl

theorem expandSegments_cons_eq_ok {environment : Environment} {part : Segment}
    {rest : List Segment} {out : List Char}
    (expanded : expandSegments environment (part :: rest) = .ok out) :
    ∃ text tail, part.expand environment = .ok text ∧ expandSegments environment rest = .ok tail ∧
      out = text ++ tail := by
  rw [expandSegments_cons] at expanded
  cases first : part.expand environment with
  | error =>
      rw [first] at expanded
      contradiction
  | ok text =>
      cases behind : expandSegments environment rest with
      | error =>
          rw [first, behind] at expanded
          contradiction
      | ok tail =>
          rw [first, behind] at expanded
          exact ⟨text, tail, rfl, rfl, (Except.ok.inj expanded).symm⟩

theorem expandSegments_copied (environment : Environment) (text : List Char)
    (rest : List Segment) :
    expandSegments environment (text.map (.text [·]) ++ rest) =
      (expandSegments environment rest).map (text ++ ·) := by
  induction text with
  | nil =>
      rw [List.map_nil, List.nil_append]
      cases expandSegments environment rest <;> rfl
  | cons char others ih =>
      rw [List.map_cons, List.cons_append, expandSegments_cons, ih]
      cases expandSegments environment rest <;> rfl

theorem expandSegments_spread (environment : Environment) (parts : List Segment) :
    expandSegments environment (spread parts) = expandSegments environment parts := by
  induction parts with
  | nil => rfl
  | cons part rest ih =>
      match part with
      | .text text =>
          rw [spread_text_cons, expandSegments_copied, expandSegments_cons, ih]
          rfl
      | .variable name fallback =>
          rw [spread_variable_cons, expandSegments_cons, ih, expandSegments_cons]

theorem expand_variable (environment : Environment) (name : List Char)
    (fallback : Option (List Char)) :
    Segment.expand environment (.variable name fallback) =
      match (environment name).or fallback with
      | some text => .ok text
      | none => .error name := by
  unfold Segment.expand
  dsimp only
  cases environment name <;> cases fallback <;> rfl

theorem Reads.expands {value : List Char} {parts : List Segment} (reads : Reads value parts)
    (environment : Environment) : Expands environment value (expandSegments environment parts) := by
  induction reads with
  | done => exact .done
  | @reference body name rest fallback parts names more ih =>
      rw [expandSegments_cons, expand_variable]
      cases found : (environment name).or fallback with
      | some text => exact .replaced names found ih
      | none =>
          obtain ⟨unset, rfl⟩ := Option.or_eq_none_iff.mp found
          exact .missing names unset
  | copied plain more ih =>
      rw [expandSegments_cons]
      exact .copied plain ih

theorem reads_of_no_brace {value : List Char} (plain : hasBrace value = false) :
    Reads value (value.map (.text [·])) := by
  fun_induction hasBrace value with
  | case1 => exact .done
  | case2 => contradiction
  | case3 char rest other ih =>
      refine .copied ?_ (ih plain)
      rintro ⟨body, _, _, after, _, same⟩
      rw [braced_append] at same
      obtain ⟨rfl, rfl⟩ := List.cons.inj same
      exact other _ rfl rfl

theorem Expands.plain {environment : Environment} {plain rest : List Char}
    {result : Except (List Char) (List Char)} (free : '$' ∉ plain)
    (more : Expands environment rest result) :
    Expands environment (plain ++ rest) (result.map (plain ++ ·)) := by
  induction plain with
  | nil => cases result <;> exact more
  | cons char others ih =>
      rw [List.mem_cons, not_or] at free
      have behind := Expands.copied (not_refers_of_ne (Ne.symm free.1) _) (ih free.2)
      cases result <;> exact behind

section Unique

variable {environment : Environment} {rest : List Char} {result : Except (List Char) (List Char)}

theorem Expands.of_braced {body name : List Char} {fallback : Option (List Char)}
    (names : Names body name fallback)
    (expands : Expands environment (braced body ++ rest) result) :
    match (environment name).or fallback with
    | some text => ∃ more, Expands environment rest more ∧ result = more.map (text ++ ·)
    | none => result = .error name := by
  generalize written : braced body ++ rest = value at expands
  cases expands with
  | done => simp [braced] at written
  | replaced others found more =>
      obtain ⟨rfl, rfl⟩ := braced_append_inj names.closed others.closed written
      obtain ⟨rfl, rfl⟩ := Segment.variable.inj (names.ofBraces.symm.trans others.ofBraces)
      rw [found]
      exact ⟨_, more, rfl⟩
  | missing others unset =>
      obtain ⟨rfl, rfl⟩ := braced_append_inj names.closed others.closed written
      obtain ⟨rfl, rfl⟩ := Segment.variable.inj (names.ofBraces.symm.trans others.ofBraces)
      rw [unset]
      rfl
  | copied plain => exact absurd (written ▸ refers_braced names rest) plain

theorem Expands.of_copied {char : Char} (plain : ¬ Refers (char :: rest))
    (expands : Expands environment (char :: rest) result) :
    ∃ more, Expands environment rest more ∧ result = more.map (char :: ·) := by
  generalize written : char :: rest = value at expands
  cases expands with
  | done => contradiction
  | replaced names | missing names =>
      rw [written] at plain
      exact absurd (refers_braced names _) plain
  | copied unreferred more =>
      obtain ⟨rfl, rfl⟩ := List.cons.inj written
      exact ⟨_, more, rfl⟩

theorem Expands.unique {value : List Char} {other : Except (List Char) (List Char)}
    (expands : Expands environment value result) (again : Expands environment value other) :
    result = other := by
  induction expands generalizing other with
  | done =>
      generalize written : ([] : List Char) = value at again
      cases again with
      | done => rfl
      | replaced | missing => simp [braced] at written
      | copied => contradiction
  | replaced names found more ih =>
      have inverted := again.of_braced names
      rw [found] at inverted
      obtain ⟨tail, behind, rfl⟩ := inverted
      rw [ih behind]
  | missing names unset =>
      have inverted := again.of_braced names
      rw [unset] at inverted
      exact inverted.symm
  | copied plain more ih =>
      obtain ⟨tail, behind, rfl⟩ := again.of_copied plain
      rw [ih behind]

end Unique

-- What is put in for a reference neither names a group nor lengthens the number of one in front of
-- it.
def Inert (environment : Environment) (parts : List Segment) : Prop :=
  ∀ name fallback text, .variable name fallback ∈ parts →
    (environment name).or fallback = some text →
      '$' ∉ name ++ fallback.getD [] ++ text ∧ ∃ first ∈ text.head?, first.isDigit = false

theorem Inert.behind {environment : Environment} {part : Segment} {rest : List Segment}
    (inert : Inert environment (part :: rest)) : Inert environment rest :=
  fun name fallback text among => inert name fallback text (List.mem_cons_of_mem _ among)

theorem mem_of_variable_mem_spread {name : List Char} {fallback : Option (List Char)}
    {parts : List Segment} (among : .variable name fallback ∈ spread parts) :
    .variable name fallback ∈ parts := by
  obtain ⟨part, inParts, piece⟩ := List.mem_flatMap.mp among
  match part with
  | .text copied => simp at piece
  | .variable _ _ => exact List.mem_singleton.mp piece ▸ inParts

theorem Names.dollar_not_mem {body name : List Char} {fallback : Option (List Char)}
    (names : Names body name fallback) (free : '$' ∉ name ++ fallback.getD []) : '$' ∉ body := by
  cases names with
  | bare => simpa using free
  | fallback =>
      simp only [mark, Option.getD_some, List.mem_append, not_or] at free ⊢
      exact ⟨⟨free.1, by decide⟩, free.2⟩

theorem takeWhile_isDigit_of_head? {first : Char} {text : List Char} (rest : List Char)
    (head : first ∈ text.head?) (other : first.isDigit = false) :
    (text ++ rest).takeWhile Char.isDigit = [] := by
  obtain ⟨others, rfl⟩ := List.head?_eq_some_iff.mp head
  rw [List.cons_append, List.takeWhile_cons_of_neg (by simp [other])]

theorem named_braced {body : List Char} (free : '$' ∉ body) (rest : List Char) :
    Template.named (braced body ++ rest) = Template.named rest := by
  have behind : '$' ∉ '\x7b' :: body ++ ['\x7d'] := by simp [free]
  have shape : braced body ++ rest = '$' :: ('\x7b' :: body ++ ['\x7d'] ++ rest) := rfl
  have noDigit : ('\x7b' :: body ++ ['\x7d'] ++ rest).takeWhile Char.isDigit = [] :=
    List.takeWhile_cons_of_neg (by decide)
  rw [shape, Template.named, noDigit, if_neg (by simp), Template.named_append behind]

theorem named_of_reads {environment : Environment} {value out : List Char} {parts : List Segment}
    (reads : Reads value parts) (expanded : expandSegments environment parts = .ok out)
    (inert : Inert environment parts) :
    Template.named out = Template.named value ∧
      out.takeWhile Char.isDigit = value.takeWhile Char.isDigit := by
  induction reads generalizing out with
  | done =>
      obtain rfl := Except.ok.inj expanded
      exact ⟨rfl, rfl⟩
  | @reference body name rest fallback parts names more ih =>
      obtain ⟨text, tail, first, behind, rfl⟩ := expandSegments_cons_eq_ok expanded
      have found : (environment name).or fallback = some text := by
        rw [expand_variable] at first
        split at first
        next inserted found => exact found.trans (congrArg some (Except.ok.inj first))
        next => contradiction
      obtain ⟨free, head, starts, other⟩ := inert name fallback text List.mem_cons_self found
      rw [List.mem_append, not_or] at free
      have noDigit : (braced body ++ rest).takeWhile Char.isDigit = [] :=
        List.takeWhile_cons_of_neg (by decide)
      constructor
      next =>
        rw [Template.named_append free.2, named_braced (names.dollar_not_mem free.1)]
        exact (ih behind inert.behind).1
      next => rw [takeWhile_isDigit_of_head? tail starts other, noDigit]
  | @copied char rest parts plain more ih =>
      obtain ⟨text, tail, first, behind, rfl⟩ := expandSegments_cons_eq_ok expanded
      obtain rfl : [char] = text := Except.ok.inj first
      obtain ⟨named, digits⟩ := ih behind inert.behind
      have front : (char :: tail).takeWhile Char.isDigit =
          (char :: rest).takeWhile Char.isDigit := by
        rw [List.takeWhile_cons, List.takeWhile_cons, digits]
      exact ⟨Template.named_cons_congr named digits char, front⟩

theorem expands_expand {value : List Char} (quiet : hasBrace value = false ∨ Harmless value)
    (environment : Environment) : Expands environment value (expand environment value) := by
  unfold expand
  split
  next brace =>
    have reads : Reads value (spread (segments value)) :=
      (reads_segments_iff value).mpr (quiet.resolve_left (by simp [brace]))
    rw [← expandSegments_spread]
    exact reads.expands environment
  next plain =>
    have expands := (reads_of_no_brace (Bool.not_eq_true _ ▸ plain)).expands environment
    have copied := expandSegments_copied environment value []
    rw [List.append_nil] at copied
    rw [copied] at expands
    simpa [expandSegments, Except.map] using expands

theorem expandSegments_of_set (values : List Char → List Char) (parts : List Segment) :
    expandSegments (fun name => some (values name)) parts = .ok (fill values (letters parts)) := by
  induction parts with
  | nil => rfl
  | cons part rest ih =>
      rw [expandSegments_cons, ih]
      match part with
      | .text text =>
          rw [letters_text_cons, fill_append, fill_map_copied]
          rfl
      | .variable name fallback => rfl

theorem quiet_of_expands {value : List Char}
    (follows : ∀ environment out, expand environment value = .ok out →
      Expands environment value (.ok out)) :
    hasBrace value = false ∨ Harmless value := by
  rw [or_iff_not_imp_left, Bool.not_eq_false]
  intro brace
  obtain ⟨parts, reads⟩ := exists_reads value
  -- No variable is ever missing here, so both sides come to something.
  have filled (values : List Char → List Char) :
      fill values (letters parts) = fill values (letters (segments value)) := by
    have expanded : expand (fun name => some (values name)) value =
        .ok (fill values (letters (segments value))) := by
      rw [expand, if_pos brace, expandSegments_of_set]
    have expands := reads.expands fun name => some (values name)
    rw [expandSegments_of_set] at expands
    exact Except.ok.inj (expands.unique (follows _ _ expanded))
  exact (reads_segments_iff value).mp (reads_of_letters_eq reads (eq_of_fill_eq filled))

theorem named_expand {value out : List Char} (quiet : hasBrace value = false ∨ Harmless value)
    {environment : Environment} (expanded : expand environment value = .ok out)
    (inert : Inert environment (segments value)) : Template.named out = Template.named value := by
  unfold expand at expanded
  split at expanded
  next brace =>
    have reads : Reads value (spread (segments value)) :=
      (reads_segments_iff value).mpr (quiet.resolve_left (by simp [brace]))
    have inertSpread : Inert environment (spread (segments value)) :=
      fun name fallback text among =>
        inert name fallback text (mem_of_variable_mem_spread among)
    rw [← expandSegments_spread] at expanded
    exact (named_of_reads reads expanded inertSpread).1
  next =>
    obtain rfl := Except.ok.inj expanded
    rfl

def hosted : Environment := fun name =>
  if name = "HOST".toList then some "h.example".toList else none

def hostRule (reference : List Char) : List Char :=
  "^/v1/(.*)".toList ++ '$' :: (" http://".toList ++ (braced "HOST".toList ++
    ("/".toList ++ '$' :: reference)))

def fitsHostRule : Segment → Bool
  | .text _ => true
  | .variable name fallback => name = "HOST".toList && fallback = none

theorem names_host : Names "HOST".toList "HOST".toList none :=
  .bare (by decide) (by decide) fun inside =>
    absurd (inside.subset (List.mem_cons_self : ':' ∈ mark)) (by decide)

theorem not_refers_pattern_end (rest : List Char) : ¬ Refers ('$' :: (" http://".toList ++ rest)) :=
  not_refers_of_unbraced (by simp)

theorem quiet_pattern_end (rest : List Char) : Quiet (" http://".toList ++ rest) := by
  have blank : (" http://".toList ++ rest).takeWhile isNameChar = [] :=
    List.takeWhile_cons_of_neg (by decide)
  exact .of_unbraced (by simp) (by simp) (by rw [blank]; rfl)

theorem harmless_hostRule {reference : List Char} (group : ¬ Refers ('$' :: reference))
    (quiet : Quiet reference) (harmless : Harmless reference) : Harmless (hostRule reference) := by
  have path : Harmless ("/".toList ++ '$' :: reference) :=
    (harmless_plain_iff (by decide)).mpr (.dollar group quiet harmless)
  have target : Harmless (" http://".toList ++ (braced "HOST".toList ++ _)) :=
    (harmless_plain_iff (by decide)).mpr (.reference names_host path)
  exact (harmless_plain_iff (by decide)).mpr
    (.dollar (not_refers_pattern_end _) (quiet_pattern_end _) target)

theorem expands_hostRule {reference : List Char} {result : Except (List Char) (List Char)}
    (group : ¬ Refers ('$' :: reference)) (expands : Expands hosted reference result) :
    Expands hosted (hostRule reference)
      (result.map ("^/v1/(.*)$ http://h.example/$".toList ++ ·)) := by
  have path := Expands.plain (by decide : '$' ∉ "/".toList) (.copied group expands)
  have target := Expands.plain (by decide : '$' ∉ " http://".toList)
    (.replaced names_host (rfl : (hosted "HOST".toList).or none = some "h.example".toList) path)
  have whole := Expands.plain (by decide : '$' ∉ "^/v1/(.*)".toList)
    (.copied (not_refers_pattern_end _) target)
  cases result with
  | error => exact whole
  | ok tail => exact whole

/-- A text without a reference, or one in which all other dollar signs are harmless, comes to what
the description says, and keeps the groups that it names. Any other text comes to something else in
some environment. -/
theorem expandField_follows_description (field value : String) :
    (hasBrace value.toList = false ∨ Harmless value.toList → ∀ environment,
      (∀ out, expandField environment field value = .ok out →
        Expands environment value.toList (.ok out.toList) ∧
          (Inert environment (segments value.toList) →
            Template.named out.toList = Template.named value.toList)) ∧
      ∀ unset, expandField environment field value = .error unset →
        unset.field = field ∧ Expands environment value.toList (.error unset.name)) ∧
    ((∀ environment out, expandField environment field value = .ok out →
        Expands environment value.toList (.ok out.toList)) →
      hasBrace value.toList = false ∨ Harmless value.toList) := by
  constructor
  next =>
    intro quiet environment
    have expands := expands_expand quiet environment
    unfold expandField
    cases expanded : expand environment value.toList with
    | ok text =>
        rw [expanded] at expands
        constructor
        next =>
          intro out same
          obtain rfl := Except.ok.inj same
          rw [String.toList_ofList]
          exact ⟨expands, named_expand quiet expanded⟩
        next =>
          intro unset same
          contradiction
    | error name =>
        rw [expanded] at expands
        constructor
        next =>
          intro out same
          contradiction
        next =>
          intro unset same
          obtain rfl := Except.error.inj same
          exact ⟨rfl, expands⟩
  next =>
    intro follows
    apply quiet_of_expands
    intro environment out expanded
    have expandsField : expandField environment field value = .ok (String.ofList out) := by
      rw [expandField, expanded]
    simpa using follows environment _ expandsField

theorem host_rule_keeps_group :
    expandField hosted "dev.rewrites[0]" "^/v1/(.*)$ http://$\x7bHOST\x7d/$1 [P]" =
        .ok "^/v1/(.*)$ http://h.example/$1 [P]" ∧
      Expands hosted "^/v1/(.*)$ http://$\x7bHOST\x7d/$1 [P]".toList
        (.ok "^/v1/(.*)$ http://h.example/$1 [P]".toList) ∧
      Template.named "^/v1/(.*)$ http://h.example/$1 [P]".toList =
        Template.named "^/v1/(.*)$ http://$\x7bHOST\x7d/$1 [P]".toList := by
  have written : "^/v1/(.*)$ http://$\x7bHOST\x7d/$1 [P]".toList = hostRule "1 [P]".toList := by rfl
  have group : ¬ Refers ('$' :: "1 [P]".toList) := not_refers_of_unbraced (by decide)
  have quiet : Quiet "1 [P]".toList := .of_unbraced (by decide) (by decide) (by decide)
  have copied : Harmless ("1 [P]".toList ++ []) := (harmless_plain_iff (by decide)).mpr .done
  rw [List.append_nil] at copied
  have harmless := harmless_hostRule group quiet copied
  rw [← written] at harmless
  have expanded : expandField hosted "dev.rewrites[0]"
      "^/v1/(.*)$ http://$\x7bHOST\x7d/$1 [P]" = .ok "^/v1/(.*)$ http://h.example/$1 [P]" := by
    decide +kernel
  have inert : Inert hosted (segments "^/v1/(.*)$ http://$\x7bHOST\x7d/$1 [P]".toList) := by
    have only : (segments "^/v1/(.*)$ http://$\x7bHOST\x7d/$1 [P]".toList).all fitsHostRule =
        true := by decide +kernel
    intro name fallback text among found
    have host := List.all_eq_true.mp only _ among
    simp only [fitsHostRule, Bool.and_eq_true, decide_eq_true_eq] at host
    obtain ⟨rfl, rfl⟩ := host
    obtain rfl : "h.example".toList = text := Option.some.inj found
    exact ⟨by decide, 'h', rfl, by decide⟩
  have follows := (expandField_follows_description "dev.rewrites[0]"
    "^/v1/(.*)$ http://$\x7bHOST\x7d/$1 [P]").1 (.inr harmless) hosted
  obtain ⟨expands, named⟩ := follows.1 _ expanded
  exact ⟨expanded, expands, named inert⟩

theorem lettered_group_is_looked_up :
    expandField hosted "dev.rewrites[0]" "^/v1/(.*)$ http://$\x7bHOST\x7d/$1_old [P]" =
        .error ⟨"dev.rewrites[0]", "1_old".toList⟩ ∧
      Expands hosted "^/v1/(.*)$ http://$\x7bHOST\x7d/$1_old [P]".toList
        (.ok "^/v1/(.*)$ http://h.example/$1_old [P]".toList) ∧
      ¬ Expands hosted "^/v1/(.*)$ http://$\x7bHOST\x7d/$1_old [P]".toList
        (.error "1_old".toList) := by
  have written : "^/v1/(.*)$ http://$\x7bHOST\x7d/$1_old [P]".toList =
      hostRule "1_old [P]".toList := by rfl
  have group : ¬ Refers ('$' :: "1_old [P]".toList) := not_refers_of_unbraced (by decide)
  have copied := Expands.plain (by decide : '$' ∉ "1_old [P]".toList) (.done : Expands hosted [] _)
  have expands := expands_hostRule group copied
  rw [← written] at expands
  refine ⟨by decide +kernel, expands, fun follows => ?_⟩
  have same := expands.unique follows
  contradiction

end Workbench.Env
