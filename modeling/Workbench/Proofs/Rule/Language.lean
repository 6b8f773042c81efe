import Workbench.Proofs.Rule.Flags

set_option autoImplicit false

namespace Workbench

open Text (isBlank)

def tokens (text : List Char) : List (List Char) :=
  (text.splitOnP isBlank).filter (!·.isEmpty)

inductive BlockPieces : Option (List Char) -> List (List Char) -> Prop
  | absent : BlockPieces none []
  | bracketed (inner : List Char) :
      BlockPieces (some ('[' :: inner ++ [']'])) (inner.splitOn ',')

def RuleWords (text pattern replacement : List Char) (pieces : List (List Char)) : Prop :=
  ∃ block : Option (List Char), tokens text = pattern :: replacement :: block.toList ∧
    BlockPieces block pieces

inductive PatternSource : List Char -> Bool -> List Char -> Prop
  | negated (source : List Char) : PatternSource ('!' :: source) true source
  | plain {source : List Char} (positive : ∀ rest, source ≠ '!' :: rest) :
      PatternSource source false source

def AbsoluteTarget (target : List Char) : Prop :=
  "http://".toList <+: target ∨ "https://".toList <+: target

def FlagsSaid (pieces : List (List Char)) (flags : RuleFlags) : Prop :=
  flags.Denotes ((RuleFlags.itemsIn pieces).map (·.map Char.toUpper))

section
variable {α : Type} (compile : List Char -> Bool -> Option α)

/-- The rule that a text denotes, where `compile` reads a pattern with or without its case. -/
inductive RuleDenoted (text : List Char) : Rule α -> Prop
  | intro {word source replacement : List Char} {pieces : List (List Char)} {flags : RuleFlags}
      {negated : Bool} {pattern : α}
      (words : RuleWords text word replacement pieces) (said : FlagsSaid pieces flags)
      (sourced : PatternSource word negated source)
      (compiles : compile source flags.ignoreCase = some pattern)
      (proxied : flags.action = .proxy → AbsoluteTarget replacement) :
      RuleDenoted text
        { pattern, negated
          replacement := if replacement = ['-'] then none else some replacement
          action := flags.action
          last := flags.last }

/-- The fault of the first stage that a text fails at. -/
inductive FirstFault (text : List Char) : RuleFault -> Prop
  | empty (blank : tokens text = []) : FirstFault text .empty
  | noReplacement {word : List Char} (one : tokens text = [word]) : FirstFault text .noReplacement
  | surplus (many : 4 ≤ (tokens text).length) : FirstFault text .surplus
  | noBrackets {word replacement block : List Char}
      (three : tokens text = [word, replacement, block])
      (bare : ∀ inner, block ≠ '[' :: inner ++ [']']) : FirstFault text (.noBrackets block)
  | flag {word replacement item : List Char} {pieces before after : List (List Char)}
      {flags : RuleFlags} {fault : RuleFault} (words : RuleWords text word replacement pieces)
      (split : RuleFlags.itemsIn pieces = before ++ item :: after)
      (inOrder : flags.Denotes (before.map (·.map Char.toUpper)))
      (faulty : RuleFlag.Faulty before item fault) : FirstFault text fault
  | pattern {word source replacement : List Char} {pieces : List (List Char)} {flags : RuleFlags}
      {negated : Bool} (words : RuleWords text word replacement pieces)
      (said : FlagsSaid pieces flags) (sourced : PatternSource word negated source)
      (refused : compile source flags.ignoreCase = none) : FirstFault text .pattern
  | relativeTarget {word source replacement : List Char} {pieces : List (List Char)}
      {flags : RuleFlags} {negated : Bool} {pattern : α}
      (words : RuleWords text word replacement pieces) (said : FlagsSaid pieces flags)
      (sourced : PatternSource word negated source)
      (compiles : compile source flags.ignoreCase = some pattern)
      (proxied : flags.action = .proxy) (relative : ¬ AbsoluteTarget replacement) :
      FirstFault text .relativeTarget

end

theorem words_eq_tokens (text : List Char) : Text.words text = tokens text :=
  Text.words_eq_filter text

theorem unbracket?_eq_some_iff (block inner : List Char) :
    unbracket? block = some inner ↔ block = '[' :: inner ++ [']'] := by
  unfold unbracket?
  split
  next rest =>
    constructor
    · intro found
      split at found
      next ends =>
        cases found
        rw [List.cons_append, List.dropLast_append_getLast? _ ends]
      next => contradiction
    · intro whole
      obtain ⟨_, rfl⟩ := List.cons.inj whole
      simp
  next bare =>
    constructor
    · intro impossible
      contradiction
    · rintro rfl
      exact absurd rfl (bare _)

def blockFlags (block : Option (List Char)) : Except RuleFault RuleFlags :=
  match block with
  | some block => RuleFlags.parse block
  | none => .ok {}

theorem parse_bracketed (inner : List Char) :
    RuleFlags.parse ('[' :: inner ++ [']']) =
      ({} : RuleFlags).addAll (RuleFlags.itemsIn (inner.splitOn ',')) := by
  rw [RuleFlags.parse, (unbracket?_eq_some_iff _ inner).mpr rfl]
  simp only [Text.splitOn_eq, RuleFlags.itemsIn]

theorem blockFlags_of_pieces {block : Option (List Char)} {pieces : List (List Char)}
    (cut : BlockPieces block pieces) :
    blockFlags block = ({} : RuleFlags).addAll (RuleFlags.itemsIn pieces) := by
  cases cut with
  | absent => rfl
  | bracketed inner => exact parse_bracketed inner

theorem blockFlags_eq_ok_iff_of_pieces {block : Option (List Char)} {pieces : List (List Char)}
    (cut : BlockPieces block pieces) (flags : RuleFlags) :
    blockFlags block = .ok flags ↔ FlagsSaid pieces flags := by
  rw [blockFlags_of_pieces cut, RuleFlags.addAll_eq_ok_iff, ← RuleFlags.denotes_iff]
  rfl

theorem pieces_or_bare (block : Option (List Char)) :
    (∃ pieces, BlockPieces block pieces) ∨
      ∃ text, block = some text ∧ ∀ inner, text ≠ '[' :: inner ++ [']'] := by
  cases block with
  | none => exact .inl ⟨[], .absent⟩
  | some text =>
      by_cases bracketed : ∃ inner, text = '[' :: inner ++ [']']
      · obtain ⟨inner, rfl⟩ := bracketed
        exact .inl ⟨_, .bracketed inner⟩
      · exact .inr ⟨text, rfl, fun inner same => bracketed ⟨inner, same⟩⟩

theorem parse_of_bare {text : List Char} (bare : ∀ inner, text ≠ '[' :: inner ++ [']']) :
    RuleFlags.parse text = .error (.noBrackets text) := by
  have unbracketed : unbracket? text = none := by
    cases found : unbracket? text with
    | none => rfl
    | some inner => exact absurd ((unbracket?_eq_some_iff text inner).mp found) (bare inner)
  simp [RuleFlags.parse, unbracketed]

theorem isAbsoluteTarget_iff (target : List Char) :
    isAbsoluteTarget target = true ↔ AbsoluteTarget target := by
  simp [isAbsoluteTarget, AbsoluteTarget]

theorem source_exists (word : List Char) : ∃ negated source, PatternSource word negated source := by
  by_cases marked : ∃ rest, word = '!' :: rest
  · obtain ⟨rest, rfl⟩ := marked
    exact ⟨true, rest, .negated rest⟩
  · exact ⟨false, word, .plain fun rest same => marked ⟨rest, same⟩⟩

section
variable {α : Type} (compile : List Char -> Bool -> Option α)

def ruleOf (flags : RuleFlags) (negated : Bool) (source replacement : List Char) :
    Except RuleFault (Rule α) :=
  match compile source flags.ignoreCase with
  | none => .error .pattern
  | some pattern =>
      if flags.action = .proxy && !isAbsoluteTarget replacement then .error .relativeTarget
      else .ok {
        pattern, negated
        replacement := if replacement = ['-'] then none else some replacement
        action := flags.action
        last := flags.last }

theorem any_isAbsoluteTarget (replacement : List Char) :
    (if replacement = ['-'] then none else some replacement).any isAbsoluteTarget =
      isAbsoluteTarget replacement := by
  split
  next dash =>
    rw [dash]
    rfl
  next => rfl

theorem ofWords_eq {word source : List Char} {negated : Bool}
    (sourced : PatternSource word negated source) (replacement : List Char)
    (block : Option (List Char)) :
    Rule.ofWords compile word replacement block =
      blockFlags block >>= fun flags => ruleOf compile flags negated source replacement := by
  unfold Rule.ofWords blockFlags ruleOf
  cases sourced with
  | negated =>
      cases block <;>
      · apply bind_congr
        intro flags
        simp only [any_isAbsoluteTarget]
        cases compile source flags.ignoreCase with
        | none => rfl
        | some pattern => dsimp only; split <;> rfl
  | plain positive =>
      cases block <;>
      · apply bind_congr
        intro flags
        simp only [any_isAbsoluteTarget]
        cases compile word flags.ignoreCase with
        | none => rfl
        | some pattern => dsimp only; split <;> rfl

theorem parseWith_of_words {text pattern replacement : List Char} {block : Option (List Char)}
    (words : tokens text = pattern :: replacement :: block.toList) :
    Rule.parseWith compile text =
      (Rule.ofWords compile pattern replacement block).mapError fun fault => ⟨text, fault⟩ := by
  unfold Rule.parseWith
  rw [words_eq_tokens, words]
  cases block <;> rfl

theorem parseWith_of_said {text word source replacement : List Char}
    {pieces : List (List Char)} {flags : RuleFlags} {negated : Bool}
    (words : RuleWords text word replacement pieces) (said : FlagsSaid pieces flags)
    (sourced : PatternSource word negated source) :
    Rule.parseWith compile text =
      (ruleOf compile flags negated source replacement).mapError fun fault => ⟨text, fault⟩ := by
  obtain ⟨block, split, cut⟩ := words
  have read := (blockFlags_eq_ok_iff_of_pieces cut flags).mpr said
  rw [parseWith_of_words compile split, ofWords_eq compile sourced, read]
  rfl

theorem parseWith_of_refused {text word replacement : List Char} {block : Option (List Char)}
    {fault : RuleFault} (split : tokens text = word :: replacement :: block.toList)
    (refused : blockFlags block = .error fault) :
    Rule.parseWith compile text = .error ⟨text, fault⟩ := by
  obtain ⟨negated, source, sourced⟩ := source_exists word
  rw [parseWith_of_words compile split, ofWords_eq compile sourced, refused]
  rfl

theorem parseWith_of_denoted {text : List Char} {rule : Rule α}
    (denoted : RuleDenoted compile text rule) : Rule.parseWith compile text = .ok rule := by
  cases denoted with
  | @intro _ _ replacement _ flags _ _ words said sourced compiles proxied =>
      have inPlace : (flags.action = .proxy && !isAbsoluteTarget replacement) = false := by
        simpa [isAbsoluteTarget_iff] using proxied
      simp [parseWith_of_said compile words said sourced, ruleOf, compiles, inPlace,
        Except.mapError]

theorem parseWith_of_fault {text : List Char} {fault : RuleFault}
    (first : FirstFault compile text fault) :
    Rule.parseWith compile text = .error ⟨text, fault⟩ := by
  cases first with
  | empty blank => simp [Rule.parseWith, words_eq_tokens, blank, Except.mapError]
  | noReplacement one => simp [Rule.parseWith, words_eq_tokens, one, Except.mapError]
  | surplus many =>
      match words : tokens text, many with
      | pattern :: replacement :: block :: surplus :: rest, _ =>
          simp [Rule.parseWith, words_eq_tokens, words, Except.mapError]
  | @noBrackets word replacement block three bare =>
      have split : tokens text = word :: replacement :: (some block).toList := three
      exact parseWith_of_refused compile split (parse_of_bare bare)
  | flag words split inOrder faulty =>
      obtain ⟨block, split', cut⟩ := words
      apply parseWith_of_refused compile split'
      rw [blockFlags_of_pieces cut, RuleFlags.addAll_eq_error_iff]
      exact ⟨_, _, _, _, split, inOrder, faulty⟩
  | pattern words said sourced refused =>
      simp [parseWith_of_said compile words said sourced, ruleOf, refused, Except.mapError]
  | relativeTarget words said sourced compiles proxied relative =>
      rw [← isAbsoluteTarget_iff] at relative
      simp [parseWith_of_said compile words said sourced, ruleOf, compiles, proxied, relative,
        Except.mapError]

theorem denoted_or_fault_of_words {text word replacement : List Char}
    (block : Option (List Char)) (split : tokens text = word :: replacement :: block.toList) :
    (∃ rule, RuleDenoted compile text rule) ∨ ∃ fault, FirstFault compile text fault := by
  obtain ⟨negated, source, sourced⟩ := source_exists word
  rcases pieces_or_bare block with ⟨pieces, cut⟩ | ⟨bare, rfl, unbracketed⟩
  · have words : RuleWords text word replacement pieces := ⟨block, split, cut⟩
    cases read : blockFlags block with
    | error fault =>
        rw [blockFlags_of_pieces cut, RuleFlags.addAll_eq_error_iff] at read
        obtain ⟨before, item, after, flags, items, inOrder, faulty⟩ := read
        exact .inr ⟨fault, .flag words items inOrder faulty⟩
    | ok flags =>
        have said := (blockFlags_eq_ok_iff_of_pieces cut flags).mp read
        cases compiles : compile source flags.ignoreCase with
        | none => exact .inr ⟨_, .pattern words said sourced compiles⟩
        | some pattern =>
            by_cases proxied : flags.action = .proxy → AbsoluteTarget replacement
            · exact .inl ⟨_, .intro words said sourced compiles proxied⟩
            · rw [Classical.not_imp] at proxied
              exact .inr ⟨_, .relativeTarget words said sourced compiles proxied.1 proxied.2⟩
  · exact .inr ⟨_, .noBrackets split unbracketed⟩

theorem denoted_or_fault (text : List Char) :
    (∃ rule, RuleDenoted compile text rule) ∨ ∃ fault, FirstFault compile text fault := by
  match words : tokens text with
  | [] => exact .inr ⟨_, .empty words⟩
  | [word] => exact .inr ⟨_, .noReplacement words⟩
  | [word, replacement] => exact denoted_or_fault_of_words compile none words
  | [word, replacement, block] => exact denoted_or_fault_of_words compile (some block) words
  | word :: replacement :: block :: surplus :: rest =>
      exact .inr ⟨_, .surplus (by simp [words])⟩

theorem parseWith_eq_ok_iff (text : List Char) (rule : Rule α) :
    Rule.parseWith compile text = .ok rule ↔ RuleDenoted compile text rule := by
  constructor
  · intro parsed
    rcases denoted_or_fault compile text with ⟨other, denoted⟩ | ⟨fault, first⟩
    · have same := parseWith_of_denoted compile denoted
      rw [parsed] at same
      cases same
      exact denoted
    · rw [parseWith_of_fault compile first] at parsed
      contradiction
  · exact parseWith_of_denoted compile

theorem parseWith_eq_error_iff (text : List Char) (error : RuleError) :
    Rule.parseWith compile text = .error error ↔
      error.rule = text ∧ FirstFault compile text error.fault := by
  constructor
  · intro failed
    rcases denoted_or_fault compile text with ⟨rule, denoted⟩ | ⟨fault, first⟩
    · rw [parseWith_of_denoted compile denoted] at failed
      contradiction
    · have same := parseWith_of_fault compile first
      rw [failed] at same
      cases same
      exact ⟨rfl, first⟩
  · rintro ⟨rfl, first⟩
    exact parseWith_of_fault compile first

theorem BlockPieces.unique {block : Option (List Char)} {left right : List (List Char)}
    (first : BlockPieces block left) (second : BlockPieces block right) : left = right := by
  generalize same : block = other at second
  cases first with
  | absent => cases second with
    | absent => rfl
    | bracketed inner => contradiction
  | bracketed inner => cases second with
    | absent => contradiction
    | bracketed inner' =>
        have inners : inner = inner' := by simpa using same
        rw [inners]

theorem RuleWords.unique {text word word' replacement replacement' : List Char}
    {pieces pieces' : List (List Char)} (first : RuleWords text word replacement pieces)
    (second : RuleWords text word' replacement' pieces') :
    word = word' ∧ replacement = replacement' ∧ pieces = pieces' := by
  obtain ⟨block, split, cut⟩ := first
  obtain ⟨block', split', cut'⟩ := second
  rw [split] at split'
  obtain ⟨rfl, rest⟩ := List.cons.inj split'
  obtain ⟨rfl, blocks⟩ := List.cons.inj rest
  have same : block = block' := by
    cases block <;> cases block' <;> simp_all
  subst same
  exact ⟨rfl, rfl, cut.unique cut'⟩

theorem denoted_of_sameFlags {text other word replacement : List Char}
    {left right : List (List Char)} {rule : Rule α} (words : RuleWords text word replacement left)
    (words' : RuleWords other word replacement right) (same : SameFlags left right)
    (denoted : RuleDenoted compile text rule) : RuleDenoted compile other rule := by
  cases denoted with
  | intro own said sourced compiles proxied =>
      obtain ⟨rfl, rfl, rfl⟩ := own.unique words
      exact .intro words' ((RuleFlags.denotes_congr same _).mp said) sourced compiles proxied

end

/-- A text is read as the rule that it denotes, and a text that denotes none is refused with the
fault of the first stage that it fails at. How its flags are written makes no difference. -/
theorem parse_reads_denoted_rule (text : List Char) :
    (∀ rule, Rule.parse text = .ok rule ↔ RuleDenoted Pattern.parse? text rule) ∧
    (∀ error, Rule.parse text = .error error ↔
      error.rule = text ∧ FirstFault Pattern.parse? text error.fault) ∧
    (∀ other word replacement left right, RuleWords text word replacement left →
      RuleWords other word replacement right → SameFlags left right →
        ∀ rule, Rule.parse text = .ok rule ↔ Rule.parse other = .ok rule) := by
  refine ⟨parseWith_eq_ok_iff Pattern.parse? text, parseWith_eq_error_iff Pattern.parse? text, ?_⟩
  intro other word replacement left right words words' same rule
  rw [Rule.parse, Rule.parse, parseWith_eq_ok_iff, parseWith_eq_ok_iff]
  exact ⟨denoted_of_sameFlags Pattern.parse? words words' same,
    denoted_of_sameFlags Pattern.parse? words' words same.symm⟩

end Workbench
