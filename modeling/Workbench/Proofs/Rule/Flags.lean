import Mathlib.Data.List.Perm.Basic
import Mathlib.Tactic.MkIffOfInductiveProp
import Mathlib.Tactic.Tauto
import Workbench.Proofs.Text.Letter
import Workbench.Proofs.Text.Split
import Workbench.Rule.Parser

set_option autoImplicit false

namespace Workbench

-- A redirect code: decimal digits, perhaps behind a plus sign, from 300 to 399.
def RedirectCode (code : List Char) (status : Nat) : Prop :=
  ∃ digits, (code = digits ∨ code = '+' :: digits) ∧ digits ≠ [] ∧
    (∀ digit ∈ digits, digit.isDigit = true) ∧
    Nat.ofDigits 10 (digits.reverse.map fun digit => digit.toNat - 48) = status ∧
    300 ≤ status ∧ status ≤ 399

namespace RuleFlag

inductive Spells : List Char -> RuleFlag -> Prop
  | last : Spells ['L'] .last
  | ignoreCase : Spells ['N', 'C'] .ignoreCase
  | proxy : Spells ['P'] (.action .proxy)
  | forbidden : Spells ['F'] (.action (.respond 403))
  | gone : Spells ['G'] (.action (.respond 410))
  | redirect : Spells ['R'] (.action (.redirect 302))
  | redirectTo {code : List Char} {status : Nat} (valid : RedirectCode code status) :
      Spells ('R' :: '=' :: code) (.action (.redirect status))

def Acts (item : List Char) : Prop :=
  ∃ action, Spells item (.action action)

end RuleFlag

open RuleFlag (Spells Acts)

structure RuleFlags.Denotes (items : List (List Char)) (flags : RuleFlags) : Prop where
  known : ∀ item ∈ items, ∃ flag, Spells item flag
  last : flags.last = true ↔ ∃ item ∈ items, Spells item .last
  ignoreCase : flags.ignoreCase = true ↔ ∃ item ∈ items, Spells item .ignoreCase
  action : (flags.action = .rewrite ∧ ∀ item ∈ items, ¬ Acts item) ∨
    ∃ before item after, items = before ++ item :: after ∧ Spells item (.action flags.action) ∧
      ∀ other ∈ before ++ after, ¬ Acts other

inductive RuleFlag.Faulty (before : List (List Char)) : List Char -> RuleFault -> Prop
  | unknown {item : List Char} (unspelled : ∀ flag, ¬ Spells (item.map Char.toUpper) flag)
      (noCode : ∀ code, item ≠ 'R' :: '=' :: code ∧ item ≠ 'r' :: '=' :: code) :
      Faulty before item (.unknownFlag item)
  | redirectStatus {item code : List Char}
      (redirects : item = 'R' :: '=' :: code ∨ item = 'r' :: '=' :: code)
      (invalid : ∀ status, ¬ RedirectCode code status) :
      Faulty before item (.redirectStatus code)
  | severalActions {item : List Char} (acts : Acts (item.map Char.toUpper))
      (earlier : ∃ other ∈ before, Acts (other.map Char.toUpper)) :
      Faulty before item .severalActions

theorem redirectStatus?_eq_some_iff (code : List Char) (status : Nat) :
    redirectStatus? code = some status ↔ RedirectCode code status := by
  have signless (digits : List Char) :
      (Text.number? 10 digits).filter (fun status => 300 ≤ status && status ≤ 399) =
          some status ↔
        digits ≠ [] ∧ (∀ digit ∈ digits, digit.isDigit = true) ∧
          Nat.ofDigits 10 (digits.reverse.map fun digit => digit.toNat - 48) = status ∧
          300 ≤ status ∧ status ≤ 399 := by
    rw [Option.filter_eq_some_iff, Text.number?_ten_eq_some_iff]
    simp only [Bool.and_eq_true, decide_eq_true_eq]
    tauto
  unfold redirectStatus? RedirectCode
  split
  next digits =>
    rw [signless]
    constructor
    · rintro valid
      exact ⟨digits, .inr rfl, valid⟩
    · rintro ⟨other, rfl | same, valid⟩
      · have impossible := valid.2.1 '+' (by simp)
        contradiction
      · obtain ⟨_, rfl⟩ := List.cons.inj same
        exact valid
  next unsigned =>
    rw [signless]
    constructor
    · intro valid
      exact ⟨code, .inl rfl, valid⟩
    · rintro ⟨other, rfl | same, valid⟩
      · exact valid
      · exact absurd same (unsigned other)

theorem eq_of_map_toUpper_eq {text marks : List Char} (same : text.map Char.toUpper = marks)
    (noLetters : ∀ mark ∈ marks, mark.toNat < 65) : text = marks := by
  induction text generalizing marks with
  | nil => simpa using same
  | cons char rest ih =>
      cases marks with
      | nil => simp at same
      | cons mark others =>
          obtain ⟨first, tails⟩ := List.cons.inj same
          rw [(Text.toUpper_eq_iff (noLetters mark (by simp)) char).mp first,
            ih tails fun other member => noLetters other (by simp [member])]

theorem redirectCode_map_toUpper (code : List Char) (status : Nat) :
    RedirectCode (code.map Char.toUpper) status ↔ RedirectCode code status := by
  have low (digits : List Char) (all : ∀ digit ∈ digits, digit.isDigit = true) :
      ∀ mark ∈ '+' :: digits, mark.toNat < 65 := by
    intro mark member
    rcases List.mem_cons.mp member with rfl | inDigits
    · decide
    · have bounds := (Text.isDigit_iff mark).mp (all mark inDigits)
      omega
  constructor
  · rintro ⟨digits, spelled, nonempty, all, valid⟩
    refine ⟨digits, spelled.imp ?_ ?_, nonempty, all, valid⟩
    · intro same
      exact eq_of_map_toUpper_eq same fun mark member => low digits all mark (by simp [member])
    · intro same
      exact eq_of_map_toUpper_eq same (low digits all)
  · rintro ⟨digits, spelled, nonempty, all, valid⟩
    have fixed (text : List Char) (noLetters : ∀ mark ∈ text, mark.toNat < 65) :
        text.map Char.toUpper = text := by
      exact (List.map_congr_left fun mark member =>
        (Text.toUpper_eq_iff (noLetters mark member) mark).mpr rfl).trans (List.map_id text)
    refine ⟨digits, ?_, nonempty, all, valid⟩
    rcases spelled with rfl | rfl
    · exact .inl (fixed _ fun mark member => low _ all mark (by simp [member]))
    · exact .inr (fixed _ (low digits all))

namespace RuleFlag

theorem parse_plain_eq_ok_iff {item : List Char} (plain : '=' ∉ item) (flag : RuleFlag) :
    RuleFlag.parse item = .ok flag ↔ Spells (item.map Char.toUpper) flag := by
  have plain' : '=' ∉ item.map Char.toUpper :=
    (Text.mem_map_toUpper_iff (by decide) item).not.mpr plain
  unfold RuleFlag.parse
  rw [(Text.cutAt?_eq_none_iff '=' item).mpr plain]
  dsimp only
  split
  case h_7 notL notNC notP notF notG notR =>
    constructor
    · intro impossible
      contradiction
    · intro spells
      generalize item.map Char.toUpper = upper at *
      cases spells with
      | redirectTo valid => simp at plain'
      | _ => contradiction
  all_goals
    next name =>
      rw [name]
      constructor
      · rintro ⟨⟩
        constructor
      · rintro ⟨⟩
        rfl

theorem parse_valued_eq_ok_iff {name code : List Char} (free : '=' ∉ name) (flag : RuleFlag) :
    RuleFlag.parse (name ++ '=' :: code) = .ok flag ↔
      Spells ((name ++ '=' :: code).map Char.toUpper) flag := by
  unfold RuleFlag.parse
  rw [(Text.cutAt?_eq_some_iff '=' _ name code).mpr ⟨rfl, free⟩]
  have mark : Char.toUpper '=' = '=' := by decide
  simp only [List.map_append, List.map_cons, mark]
  split
  next redirects =>
    rw [redirects]
    cases read : redirectStatus? code with
    | none =>
        constructor
        · intro impossible
          contradiction
        · rintro ⟨⟩
          next status valid =>
            rw [redirectCode_map_toUpper, ← redirectStatus?_eq_some_iff, read] at valid
            contradiction
    | some status =>
        have valid := (redirectCode_map_toUpper code status).mpr
          ((redirectStatus?_eq_some_iff code status).mp read)
        constructor
        · rintro ⟨⟩
          exact .redirectTo valid
        · rintro ⟨⟩
          next other valid' =>
            rw [redirectCode_map_toUpper, ← redirectStatus?_eq_some_iff, read] at valid'
            rw [Option.some.inj valid']
  next other =>
    constructor
    · intro impossible
      contradiction
    · intro spells
      have free' : '=' ∉ name.map Char.toUpper :=
        (Text.mem_map_toUpper_iff (by decide) name).not.mpr free
      generalize name.map Char.toUpper = upper at *
      rcases upper with _ | ⟨first, _ | ⟨second, rest⟩⟩
      · cases spells
      · cases spells
        contradiction
      · generalize whole : first :: second :: rest ++ '=' :: code.map Char.toUpper = spelled
          at spells
        cases spells <;> simp_all

theorem parse_eq_ok_iff (item : List Char) (flag : RuleFlag) :
    RuleFlag.parse item = .ok flag ↔ Spells (item.map Char.toUpper) flag := by
  cases cut : Text.cutAt? '=' item with
  | none => exact parse_plain_eq_ok_iff ((Text.cutAt?_eq_none_iff '=' item).mp cut) flag
  | some parts =>
      obtain ⟨name, code⟩ := parts
      obtain ⟨rfl, free⟩ := (Text.cutAt?_eq_some_iff '=' item name code).mp cut
      exact parse_valued_eq_ok_iff free flag

theorem map_toUpper_eq_R_iff (name : List Char) :
    name.map Char.toUpper = ['R'] ↔ name = ['R'] ∨ name = ['r'] := by
  constructor
  · intro upper
    obtain ⟨char, rfl, capital⟩ := List.map_eq_singleton_iff.mp upper
    have code : char.toNat = 82 ∨ char.toNat = 114 := by
      have codes := Text.toNat_toUpper char
      rw [capital] at codes
      have letter : 'R'.toNat = 82 := rfl
      split at codes <;> omega
    rcases code with same | same
    · exact .inl (congrArg (fun letter => [letter]) (Char.toNat_inj.mp same))
    · exact .inr (congrArg (fun letter => [letter]) (Char.toNat_inj.mp same))
  · rintro (rfl | rfl) <;> decide

theorem faulty_of_parse_eq_error {item : List Char} {fault : RuleFault}
    (refused : RuleFlag.parse item = .error fault) : Faulty [] item fault := by
  have unspelled (flag : RuleFlag) : ¬ Spells (item.map Char.toUpper) flag := by
    rw [← parse_eq_ok_iff, refused]
    simp
  cases cut : Text.cutAt? '=' item with
  | none =>
      have plain := (Text.cutAt?_eq_none_iff '=' item).mp cut
      have unknown : RuleFault.unknownFlag item = fault := by
        simp only [RuleFlag.parse, cut] at refused
        split at refused <;> simp_all
      rw [← unknown]
      refine .unknown unspelled fun code => ⟨?_, ?_⟩ <;>
      · rintro rfl
        simp at plain
  | some parts =>
      obtain ⟨name, code⟩ := parts
      obtain ⟨rfl, free⟩ := (Text.cutAt?_eq_some_iff '=' item name code).mp cut
      simp only [RuleFlag.parse, cut] at refused
      split at refused
      next redirects =>
        cases read : redirectStatus? code with
        | some status => simp [read] at refused
        | none =>
            rw [read] at refused
            cases refused
            apply Faulty.redirectStatus
            · exact ((map_toUpper_eq_R_iff name).mp redirects).imp (by rintro rfl; rfl)
                (by rintro rfl; rfl)
            · intro status valid
              rw [← redirectStatus?_eq_some_iff, read] at valid
              contradiction
      next other =>
        cases refused
        refine .unknown unspelled fun others => ?_
        rw [map_toUpper_eq_R_iff, not_or] at other
        rcases name with _ | ⟨first, _ | ⟨second, rest⟩⟩
        · simp
        · simp_all
        · have apart : second ≠ '=' := by
            rintro rfl
            simp at free
          simp [apart]

theorem parse_eq_error_iff (item : List Char) (fault : RuleFault) :
    RuleFlag.parse item = .error fault ↔ Faulty [] item fault := by
  constructor
  · exact faulty_of_parse_eq_error
  · intro faulty
    cases parsed : RuleFlag.parse item with
    | ok flag =>
        have spells := (parse_eq_ok_iff item flag).mp parsed
        cases faulty with
        | unknown unspelled _ => exact absurd spells (unspelled flag)
        | redirectStatus redirects invalid =>
            rcases redirects with rfl | rfl <;>
            · cases spells
              next status valid =>
                exact absurd ((redirectCode_map_toUpper _ _).mp valid) (invalid _)
        | severalActions _ earlier => simp at earlier
    | error other =>
        have faulty' := faulty_of_parse_eq_error parsed
        congr 1
        cases faulty with
        | unknown unspelled noCode => cases faulty' <;> simp_all
        | redirectStatus redirects invalid =>
            cases faulty' with
            | unknown unspelled noCode => simp_all
            | redirectStatus redirects' invalid' => rcases redirects with rfl | rfl <;> simp_all
            | severalActions _ earlier => simp at earlier
        | severalActions _ earlier => simp at earlier

end RuleFlag

theorem RuleFlag.Spells.unique {item : List Char} {first second : RuleFlag}
    (left : Spells item first) (right : Spells item second) : first = second := by
  cases left with
  | redirectTo valid =>
      cases right with
      | redirectTo valid' =>
          rw [← redirectStatus?_eq_some_iff] at valid valid'
          rw [Option.some.inj (valid.symm.trans valid')]
  | _ => cases right; rfl

theorem RuleFlag.Spells.action_ne_rewrite {item : List Char} {action : Action}
    (spells : Spells item (.action action)) : action ≠ .rewrite := by
  cases spells <;> simp

namespace RuleFlags

@[mk_iff] structure DenotesFrom (start : RuleFlags) (items : List (List Char)) (flags : RuleFlags) :
    Prop where
  known : ∀ item ∈ items, ∃ flag, Spells item flag
  last : flags.last = true ↔ start.last = true ∨ ∃ item ∈ items, Spells item .last
  ignoreCase : flags.ignoreCase = true ↔
    start.ignoreCase = true ∨ ∃ item ∈ items, Spells item .ignoreCase
  action : (flags.action = start.action ∧ ∀ item ∈ items, ¬ Acts item) ∨
    (start.action = .rewrite ∧ ∃ before item after, items = before ++ item :: after ∧
      Spells item (.action flags.action) ∧ ∀ other ∈ before ++ after, ¬ Acts other)

theorem denotes_iff (items : List (List Char)) (flags : RuleFlags) :
    Denotes items flags ↔ DenotesFrom {} items flags := by
  constructor
  · intro denotes
    exact ⟨denotes.known, by simp [denotes.last], by simp [denotes.ignoreCase],
      denotes.action.imp id fun one => ⟨rfl, one⟩⟩
  · intro denotes
    exact ⟨denotes.known, by simp [denotes.last], by simp [denotes.ignoreCase],
      denotes.action.imp id (·.2)⟩

theorem denotesFrom_nil (start flags : RuleFlags) :
    DenotesFrom start [] flags ↔ flags = start := by
  constructor
  · intro denotes
    have last : flags.last = start.last := Bool.eq_iff_iff.mpr (by simpa using denotes.last)
    have ignoreCase : flags.ignoreCase = start.ignoreCase :=
      Bool.eq_iff_iff.mpr (by simpa using denotes.ignoreCase)
    have action : flags.action = start.action := by simpa using denotes.action
    cases flags
    cases start
    simp_all
  · rintro rfl
    exact ⟨by simp, by simp, by simp, .inl ⟨rfl, by simp⟩⟩

theorem oneAction_cons_of_not_acts {item : List Char} {rest : List (List Char)} {action : Action}
    (idle : ¬ Acts item) :
    (∃ before named after, item :: rest = before ++ named :: after ∧
        Spells named (.action action) ∧ ∀ other ∈ before ++ after, ¬ Acts other) ↔
      ∃ before named after, rest = before ++ named :: after ∧
        Spells named (.action action) ∧ ∀ other ∈ before ++ after, ¬ Acts other := by
  have silent : ¬ Spells item (.action action) := fun spells => idle ⟨action, spells⟩
  rw [exists_cut_cons]
  simp only [silent, false_and, false_or, List.cons_append, List.forall_mem_cons, idle,
    not_false_eq_true, true_and]

theorem oneAction_cons_of_spells {item : List Char} {rest : List (List Char)}
    {action own : Action} (spells : Spells item (.action own)) :
    (∃ before named after, item :: rest = before ++ named :: after ∧
        Spells named (.action action) ∧ ∀ other ∈ before ++ after, ¬ Acts other) ↔
      action = own ∧ ∀ other ∈ rest, ¬ Acts other := by
  have acts : Acts item := ⟨own, spells⟩
  have same : Spells item (.action action) ↔ action = own := by
    constructor
    · intro spells'
      cases spells.unique spells'
      rfl
    · rintro rfl
      exact spells
  rw [exists_cut_cons]
  simp [acts, same]

theorem denotesFrom_cons (start flags : RuleFlags) {item : List Char} {rest : List (List Char)}
    {said : RuleFlag} (spells : Spells item said) :
    DenotesFrom start (item :: rest) flags ↔
      ∃ next, start.add said = .ok next ∧ DenotesFrom next rest flags := by
  have known : ∃ flag, Spells item flag := ⟨said, spells⟩
  have tells (flag : RuleFlag) : (∃ other ∈ item :: rest, Spells other flag) ↔
      said = flag ∨ ∃ other ∈ rest, Spells other flag := by
    simp only [List.exists_mem_cons_iff]
    exact or_congr ⟨spells.unique, fun same => same ▸ spells⟩ Iff.rfl
  have acts : Acts item ↔ ∃ action, said = .action action := by
    constructor
    · rintro ⟨action, named⟩
      exact ⟨action, spells.unique named⟩
    · rintro ⟨action, rfl⟩
      exact ⟨action, spells⟩
  simp only [denotesFrom_iff, List.forall_mem_cons, known, tells, acts]
  -- A modifier leaves the choice of an action to the rest, and an action leaves none.
  cases said with
  | last =>
      have idle : ¬ Acts item := by simp [acts]
      simp only [oneAction_cons_of_not_acts idle]
      simp [add]
  | ignoreCase =>
      have idle : ¬ Acts item := by simp [acts]
      simp only [oneAction_cons_of_not_acts idle]
      simp [add]
  | action own =>
      have acted := spells.action_ne_rewrite
      simp only [oneAction_cons_of_spells spells]
      by_cases free : start.action = .rewrite <;> simp [add, free, acted]

theorem addAll_eq_ok_iff (start flags : RuleFlags) (items : List (List Char)) :
    start.addAll items = .ok flags ↔
      DenotesFrom start (items.map (·.map Char.toUpper)) flags := by
  induction items generalizing start with
  | nil =>
      rw [List.map_nil, denotesFrom_nil]
      simp [addAll, eq_comm]
  | cons item rest ih =>
      cases parsed : RuleFlag.parse item with
      | ok said =>
          have spells := (RuleFlag.parse_eq_ok_iff item said).mp parsed
          rw [List.map_cons, denotesFrom_cons start flags spells, addAll, parsed]
          cases added : start.add said with
          | ok next =>
              have behind := ih next
              simpa [bind, Except.bind, added] using behind
          | error fault => simp [bind, Except.bind, added]
      | error fault =>
          have unspelled : ¬ ∃ said, Spells (item.map Char.toUpper) said := by
            rintro ⟨said, spells⟩
            rw [← RuleFlag.parse_eq_ok_iff, parsed] at spells
            contradiction
          constructor
          · intro impossible
            simp [addAll, parsed, bind, Except.bind] at impossible
          · intro denotes
            exact absurd (denotes.known _ (by simp)) unspelled

theorem addAll_eq_error_split (start : RuleFlags) (items : List (List Char)) (fault : RuleFault) :
    start.addAll items = .error fault ↔
      ∃ before item after, items = before ++ item :: after ∧
        ∃ flags, start.addAll before = .ok flags ∧
          RuleFlag.parse item >>= flags.add = .error fault := by
  induction items generalizing start with
  | nil => simp [addAll]
  | cons item rest ih =>
      have unfolded (others : List (List Char)) : start.addAll (item :: others) =
          RuleFlag.parse item >>= start.add >>= fun next => next.addAll others := by
        simp only [addAll, bind_assoc]
      have empty : start.addAll [] = .ok start := rfl
      rw [exists_cut_cons]
      simp only [unfolded, empty, Except.ok.injEq, exists_eq_left']
      cases added : RuleFlag.parse item >>= start.add with
      | error other => simp [bind, Except.bind]
      | ok next => simpa [bind, Except.bind] using ih next

theorem Denotes.action_ne_rewrite_iff {items : List (List Char)} {flags : RuleFlags}
    (denotes : Denotes items flags) :
    flags.action ≠ .rewrite ↔ ∃ item ∈ items, Acts item := by
  rcases denotes.action with ⟨rewrite, idle⟩ | ⟨before, item, after, rfl, spells, _⟩
  · simpa [rewrite] using idle
  · have acted := spells.action_ne_rewrite
    simp only [ne_eq, acted, not_false_eq_true, true_iff]
    exact ⟨item, by simp, _, spells⟩

theorem faulty_iff (before : List (List Char)) (item : List Char) (fault : RuleFault) :
    RuleFlag.Faulty before item fault ↔ RuleFlag.Faulty [] item fault ∨
      (fault = .severalActions ∧ Acts (item.map Char.toUpper) ∧
        ∃ other ∈ before, Acts (other.map Char.toUpper)) := by
  constructor
  · intro faulty
    cases faulty with
    | unknown unspelled noCode => exact .inl (.unknown unspelled noCode)
    | redirectStatus redirects invalid => exact .inl (.redirectStatus redirects invalid)
    | severalActions acts earlier => exact .inr ⟨rfl, acts, earlier⟩
  · rintro (faulty | ⟨rfl, acts, earlier⟩)
    · cases faulty with
      | unknown unspelled noCode => exact .unknown unspelled noCode
      | redirectStatus redirects invalid => exact .redirectStatus redirects invalid
      | severalActions _ earlier => simp at earlier
    · exact .severalActions acts earlier

theorem add_parse_eq_error_iff {before : List (List Char)} {flags : RuleFlags}
    (denotes : Denotes (before.map (·.map Char.toUpper)) flags) (item : List Char)
    (fault : RuleFault) :
    RuleFlag.parse item >>= flags.add = .error fault ↔ RuleFlag.Faulty before item fault := by
  have earlier : (∃ other ∈ before, Acts (other.map Char.toUpper)) ↔ flags.action ≠ .rewrite := by
    simp [denotes.action_ne_rewrite_iff]
  have acts : Acts (item.map Char.toUpper) ↔
      ∃ action, RuleFlag.parse item = .ok (.action action) := by
    simp only [Acts, RuleFlag.parse_eq_ok_iff]
  rw [faulty_iff, ← RuleFlag.parse_eq_error_iff, earlier, acts]
  cases parsed : RuleFlag.parse item with
  | error other => simp [bind, Except.bind]
  | ok said =>
      cases said with
      | last => simp [bind, Except.bind, add]
      | ignoreCase => simp [bind, Except.bind, add]
      | action action =>
          by_cases free : flags.action = .rewrite <;>
            simp [bind, Except.bind, add, free, eq_comm]

theorem addAll_eq_error_iff (items : List (List Char)) (fault : RuleFault) :
    ({} : RuleFlags).addAll items = .error fault ↔
      ∃ before item after flags, items = before ++ item :: after ∧
        Denotes (before.map (·.map Char.toUpper)) flags ∧ RuleFlag.Faulty before item fault := by
  rw [addAll_eq_error_split]
  simp only [addAll_eq_ok_iff, ← denotes_iff]
  constructor
  · rintro ⟨before, item, after, split, flags, denotes, failed⟩
    have faulty := (add_parse_eq_error_iff denotes item fault).mp failed
    exact ⟨before, item, after, flags, split, denotes, faulty⟩
  · rintro ⟨before, item, after, flags, split, denotes, faulty⟩
    have failed := (add_parse_eq_error_iff denotes item fault).mpr faulty
    exact ⟨before, item, after, split, flags, denotes, failed⟩

end RuleFlags

/-- Lists of items that say the same: the order of the items, their letter case, repeated `L` and
`NC` and empty items make no difference. -/
inductive SameFlags : List (List Char) -> List (List Char) -> Prop
  | reordered {left right : List (List Char)} (perm : left.Perm right) : SameFlags left right
  | recased {left right : List (List Char)}
      (same : left.map (·.map Char.toUpper) = right.map (·.map Char.toUpper)) : SameFlags left right
  | empty (items : List (List Char)) : SameFlags ([] :: items) items
  | repeated {item : List Char} {items : List (List Char)} (member : item ∈ items)
      (harmless : item.map Char.toUpper = ['L'] ∨ item.map Char.toUpper = ['N', 'C']) :
      SameFlags (item :: items) items
  | symm {left right : List (List Char)} (same : SameFlags left right) : SameFlags right left
  | trans {left middle right : List (List Char)} (first : SameFlags left middle)
      (second : SameFlags middle right) : SameFlags left right

namespace RuleFlags

theorem Denotes.perm {left right : List (List Char)} {flags : RuleFlags} (perm : left.Perm right)
    (denotes : Denotes left flags) : Denotes right flags := by
  have tells (flag : RuleFlag) :
      (∃ item ∈ left, Spells item flag) ↔ ∃ item ∈ right, Spells item flag := by
    simp only [perm.mem_iff]
  refine ⟨fun item member => denotes.known item (perm.mem_iff.mpr member),
    denotes.last.trans (tells _), denotes.ignoreCase.trans (tells _), ?_⟩
  rcases denotes.action with ⟨rewrite, idle⟩ | ⟨before, item, after, rfl, spells, others⟩
  · exact .inl ⟨rewrite, fun item member => idle item (perm.mem_iff.mpr member)⟩
  · right
    obtain ⟨before', after', rfl⟩ := List.append_of_mem (perm.mem_iff.mp (by simp : item ∈ _))
    refine ⟨before', item, after', rfl, spells, fun other member => others other ?_⟩
    have rest : (before ++ after).Perm (before' ++ after') :=
      (List.perm_middle.symm.trans (perm.trans List.perm_middle)).cons_inv
    exact rest.mem_iff.mpr member

theorem denotes_cons_of_mem {item : List Char} {items : List (List Char)} (flags : RuleFlags)
    (member : item ∈ items) (idle : ¬ Acts item) :
    Denotes (item :: items) flags ↔ Denotes items flags := by
  have all (holds : List Char -> Prop) : (∀ other ∈ item :: items, holds other) ↔
      ∀ other ∈ items, holds other := by
    simp only [List.forall_mem_cons]
    exact and_iff_right_of_imp fun others => others item member
  have any (holds : List Char -> Prop) : (∃ other ∈ item :: items, holds other) ↔
      ∃ other ∈ items, holds other := by
    simp only [List.exists_mem_cons_iff]
    exact or_iff_right_of_imp fun first => ⟨item, member, first⟩
  simp only [denotes_iff, denotesFrom_iff, all, any, oneAction_cons_of_not_acts idle]

def itemsIn (pieces : List (List Char)) : List (List Char) :=
  pieces.filter (!·.isEmpty)

theorem map_itemsIn (pieces : List (List Char)) :
    (itemsIn pieces).map (·.map Char.toUpper) = itemsIn (pieces.map (·.map Char.toUpper)) := by
  simp only [itemsIn, List.filter_map]
  congr 1
  apply List.filter_congr
  intro piece _
  simp

theorem denotes_congr {left right : List (List Char)} (same : SameFlags left right)
    (flags : RuleFlags) :
    Denotes ((itemsIn left).map (·.map Char.toUpper)) flags ↔
      Denotes ((itemsIn right).map (·.map Char.toUpper)) flags := by
  induction same with
  | @reordered left right perm =>
      have perm' := (perm.filter (!·.isEmpty)).map (·.map Char.toUpper)
      exact ⟨Denotes.perm perm', Denotes.perm perm'.symm⟩
  | recased same => rw [map_itemsIn, map_itemsIn, same]
  | empty items => simp [itemsIn]
  | @repeated item items member harmless =>
      have nonempty : item ≠ [] := by
        rintro rfl
        simp at harmless
      have kept : itemsIn (item :: items) = item :: itemsIn items := by
        simp [itemsIn, nonempty]
      rw [kept, List.map_cons]
      apply denotes_cons_of_mem
      · exact List.mem_map_of_mem (List.mem_filter.mpr ⟨member, by simp [nonempty]⟩)
      · rintro ⟨action, spells⟩
        rcases harmless with name | name <;> rw [name] at spells <;> cases spells
  | symm _ ih => exact ih.symm
  | trans _ _ first second => exact first.trans second

end RuleFlags

end Workbench
