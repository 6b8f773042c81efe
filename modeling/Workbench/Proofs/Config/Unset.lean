import Workbench.Proofs.Config.Expanded
import Workbench.Proofs.Config.Violation
import Workbench.Proofs.Text.Decimal
import Workbench.Proofs.Text.Split

set_option autoImplicit false

namespace Workbench

open Env (Environment Unset indexed expandEntries expandAll)

structure Entry where
  field : String
  text : String

def Entry.unset? (environment : Environment) (entry : Entry) : Option Unset :=
  faultOf (Env.expandField environment entry.field entry.text)

def Seed.entries (field : String) (seed : Seed) : List Entry :=
  [⟨field ++ ".token", seed.token⟩, ⟨field ++ ".hostname", seed.hostname⟩,
    ⟨field ++ ".dc", seed.dc⟩, ⟨field ++ ".ip", seed.ip⟩, ⟨field ++ ".zone", seed.zone⟩,
    ⟨field ++ ".location", seed.location⟩]

def nodeEntries (nodes : List Seed) : List Entry :=
  nodes.zipIdx.flatMap fun node => node.1.entries (indexed "seed.nodes" node.2)

def indexedEntries (field : String) (index : Nat) (values : List String) : List Entry :=
  (values.zipIdx index).map fun value => ⟨indexed field value.2, value.1⟩

def ConfigFile.entries (file : ConfigFile) : List Entry :=
  ⟨"seed.host", file.seed.host⟩ :: (nodeEntries file.seed.nodes ++
    ⟨"dev.host", file.dev.host⟩ :: indexedEntries "dev.rewrites" 0 file.dev.rewrites)

variable {environment : Environment}

theorem field_of_expandField {field value : String} {unset : Unset}
    (fails : Env.expandField environment field value = .error unset) : unset.field = field := by
  unfold Env.expandField at fails
  split at fails
  next => contradiction
  next =>
    obtain rfl := Except.error.inj fails
    rfl

theorem Seed.faultOf_expand (seed : Seed) (field : String) :
    faultOf (seed.expand environment field) =
      (seed.entries field).findSome? (Entry.unset? environment) := by
  simp only [Seed.entries, findSome?_cons_eq_or, List.findSome?_nil]
  exact faultOf_bind fun _ => faultOf_bind fun _ => faultOf_bind fun _ => faultOf_bind fun _ =>
    faultOf_bind fun _ => faultOf_bind fun _ => rfl

theorem snd_expandEntries (environment : Environment) (field : String) (index : Nat)
    (values : List String) :
    (expandEntries environment field index values).2 =
      (indexedEntries field index values).findSome? (Entry.unset? environment) := by
  induction values generalizing index with
  | nil => rfl
  | cons value rest ih =>
      have next := ih (index + 1)
      rw [indexedEntries] at next ⊢
      rw [List.zipIdx_cons, List.map_cons, findSome?_cons_eq_or, ← next, expandEntries,
        Entry.unset?]
      cases Env.expandField environment (indexed field index) value <;> rfl

theorem ConfigFile.faultOf_expand (file : ConfigFile) :
    faultOf (file.expand environment) = file.entries.findSome? (Entry.unset? environment) := by
  have nodes : faultOf (file.seed.nodes.zipIdx.mapM fun entry =>
      entry.1.expand environment (indexed "seed.nodes" entry.2)) =
        (nodeEntries file.seed.nodes).findSome? (Entry.unset? environment) := by
    simp only [nodeEntries, faultOf_mapM, Seed.faultOf_expand, findSome?_flatMap]
  have rewrites := snd_expandEntries environment "dev.rewrites" 0 file.dev.rewrites
  rw [entries, findSome?_cons_eq_or, List.findSome?_append, findSome?_cons_eq_or, ← nodes,
    ← rewrites]
  refine faultOf_bind fun _ => faultOf_bind fun _ => faultOf_bind fun _ => ?_
  rw [expandAll]
  rcases expandEntries environment "dev.rewrites" 0 file.dev.rewrites with ⟨_, _ | _⟩ <;> rfl

theorem indexed_append_inj {field left right : String} {index other : Nat} :
    indexed field index ++ left = indexed field other ++ right ↔ index = other ∧ left = right := by
  constructor
  · intro same
    have cut (number : Nat) (rest : String) :
        Text.cutAt? ']' ((toString number).toList ++ ']' :: rest.toList) =
          some ((toString number).toList, rest.toList) := by
      refine (Text.cutAt?_eq_some_iff _ _ _ _).mpr ⟨rfl, fun bracket => ?_⟩
      rw [Nat.toString_eq_repr, Nat.toList_repr] at bracket
      exact absurd (Nat.isDigit_of_mem_toDigits (by decide) (by decide) bracket) (by decide)
    have texts : (toString index).toList ++ ']' :: left.toList =
        (toString other).toList ++ ']' :: right.toList := by
      simpa [indexed, ← String.toList_inj] using same
    have parts := cut index left
    rw [texts, cut other right] at parts
    obtain ⟨digits, rests⟩ := Prod.mk.inj (Option.some.inj parts)
    have read := Text.number?_ten_toString other
    rw [digits, Text.number?_ten_toString] at read
    exact ⟨Option.some.inj read, (String.toList_inj.mp rests).symm⟩
  · rintro ⟨rfl, rfl⟩
    rfl

theorem indexed_inj {field : String} {index other : Nat} :
    indexed field index = indexed field other ↔ index = other := by
  simpa using @indexed_append_inj field "" "" index other

theorem Seed.field_of_mem_entries {seed : Seed} {field : String} {entry : Entry}
    (among : entry ∈ seed.entries field) : ∃ name, entry.field = field ++ name := by
  simp only [entries, List.mem_cons, List.not_mem_nil, or_false] at among
  obtain rfl | rfl | rfl | rfl | rfl | rfl := among
  all_goals exact ⟨_, rfl⟩

theorem field_of_mem_nodeEntries {nodes : List Seed} {entry : Entry}
    (among : entry ∈ nodeEntries nodes) :
    ∃ index name, entry.field = indexed "seed.nodes" index ++ name := by
  obtain ⟨node, -, inside⟩ := List.mem_flatMap.mp among
  exact ⟨node.2, Seed.field_of_mem_entries inside⟩

theorem field_of_mem_indexedEntries {field : String} {index : Nat} {values : List String}
    {entry : Entry} (among : entry ∈ indexedEntries field index values) :
    ∃ other, entry.field = indexed field other := by
  obtain ⟨value, -, rfl⟩ := List.mem_map.mp among
  exact ⟨value.2, rfl⟩

theorem pairwise_nodeEntries (nodes : List Seed) :
    (nodeEntries nodes).Pairwise fun left right => left.field ≠ right.field := by
  refine List.pairwise_flatMap.mpr ⟨fun node _ => ?_, ?_⟩
  · simp [Seed.entries, ← String.toList_inj]
  · refine (Config.pairwise_index_lt nodes 0).imp fun less left among right among' => ?_
    obtain ⟨name, first⟩ := Seed.field_of_mem_entries among
    obtain ⟨name', second⟩ := Seed.field_of_mem_entries among'
    rw [first, second, ne_eq, indexed_append_inj]
    omega

theorem pairwise_indexedEntries (field : String) (index : Nat) (values : List String) :
    (indexedEntries field index values).Pairwise fun left right => left.field ≠ right.field := by
  rw [indexedEntries, List.pairwise_map]
  refine (Config.pairwise_index_lt values index).imp fun less => ?_
  rw [ne_eq, indexed_inj]
  omega

theorem ConfigFile.pairwise_entries (file : ConfigFile) :
    file.entries.Pairwise fun left right => left.field ≠ right.field := by
  rw [entries, List.pairwise_cons, List.pairwise_append, List.pairwise_cons]
  refine ⟨?_, pairwise_nodeEntries _, ⟨?_, pairwise_indexedEntries _ _ _⟩, ?_⟩
  · simp only [List.mem_append, List.mem_cons]
    rintro entry (among | rfl | among)
    · obtain ⟨index, name, same⟩ := field_of_mem_nodeEntries among
      simp [same, indexed, ← String.toList_inj]
    · simp
    · obtain ⟨index, same⟩ := field_of_mem_indexedEntries among
      simp [same, indexed, ← String.toList_inj]
  · intro entry among
    obtain ⟨index, same⟩ := field_of_mem_indexedEntries among
    simp [same, indexed, ← String.toList_inj]
  · intro left among right among'
    obtain ⟨index, name, same⟩ := field_of_mem_nodeEntries among
    obtain rfl | behind := List.mem_cons.mp among'
    · simp [same, indexed, ← String.toList_inj]
    · obtain ⟨other, same'⟩ := field_of_mem_indexedEntries behind
      simp [same, same', indexed, ← String.toList_inj]

theorem ConfigFile.expands_iff (file : ConfigFile) :
    (∃ result, file.expand environment = .ok result) ↔ ∀ entry ∈ file.entries,
      ∃ result, Env.expandField environment entry.field entry.text = .ok result := by
  simp only [← faultOf_eq_none_iff, faultOf_expand, List.findSome?_eq_none_iff, Entry.unset?]

theorem ConfigFile.expand_eq_error_iff (file : ConfigFile) (unset : Unset) :
    file.expand environment = .error unset ↔
      ∃ before entry after, file.entries = before ++ entry :: after ∧
        Env.expandField environment entry.field entry.text = .error unset ∧
        ∀ other ∈ before,
          ∃ result, Env.expandField environment other.field other.text = .ok result := by
  simp only [← faultOf_eq_some_iff, faultOf_expand, List.findSome?_eq_some_iff, Entry.unset?,
    faultOf_eq_none_iff]

theorem expandEntries_eq_error_iff (environment : Environment) (field : String) (index : Nat)
    (values results : List String) (unset : Unset) :
    expandEntries environment field index values = (results, some unset) ↔
      ∃ before value after, values = before ++ value :: after ∧
        ∃ done, List.Forall₂ (ExpandsTo environment) before done ∧
          results = done ++ value :: after ∧
          Env.expandField environment (indexed field (index + before.length)) value =
            .error unset := by
  induction values generalizing index results with
  | nil => simp [expandEntries]
  | cons value rest ih =>
      rw [expandEntries, exists_cut_cons]
      cases first : Env.expandField environment (indexed field index) value with
      | error fault =>
          have stuck (result : String) : ¬ ExpandsTo environment value result := by
            rw [← expandField_eq_ok_iff (indexed field index), first]
            simp
          simp [List.forall₂_cons_left_iff, stuck, eq_comm]
      | ok result =>
          have expands : ExpandsTo environment value result :=
            (expandField_eq_ok_iff _ _ _).mp first
          have place (before : List String) :
              index + (value :: before).length = index + 1 + before.length := by
            rw [List.length_cons]
            omega
          simp only [place]
          constructor
          · intro stopped
            obtain ⟨rfl, failed⟩ := Prod.mk.inj stopped
            obtain ⟨before, other, after, split, done, expanded, left, fails⟩ :=
              (ih (index + 1) _).mp (Prod.ext rfl failed)
            exact .inr ⟨before, other, after, split, result :: done, .cons expands expanded,
              congrArg _ left, fails⟩
          · rintro (⟨_, _, _, impossible⟩ | ⟨before, other, after, split, _, expanded, rfl, fails⟩)
            · contradiction
            · obtain ⟨head, done, again, behind, rfl⟩ := List.forall₂_cons_left_iff.mp expanded
              obtain rfl := expands.unique again
              have next := (ih (index + 1) _).mpr
                ⟨before, other, after, split, done, behind, rfl, fails⟩
              rw [next, List.cons_append]

/-- Expansion replaces each text that may name variables by what it expands to and changes nothing
else, or it reports the first of these texts that does not expand. A list at which it stops has been
expanded up to the entry that is reported, and no further. -/
theorem expand_replaces_all_or_reports_first (environment : Environment) :
    (∀ file result : ConfigFile,
      file.expand environment = .ok result ↔ file.ExpandsTo environment result) ∧
    (∀ file : ConfigFile, (∃ result, file.expand environment = .ok result) ↔
      ∀ entry ∈ file.entries,
        ∃ result, Env.expandField environment entry.field entry.text = .ok result) ∧
    (∀ (file : ConfigFile) (unset : Unset), file.expand environment = .error unset ↔
      ∃ before entry after, file.entries = before ++ entry :: after ∧
        Env.expandField environment entry.field entry.text = .error unset ∧
        ∀ other ∈ before,
          ∃ result, Env.expandField environment other.field other.text = .ok result) ∧
    (∀ file : ConfigFile, file.entries.Pairwise fun left right => left.field ≠ right.field) ∧
    (∀ field value unset,
      Env.expandField environment field value = .error unset → unset.field = field) ∧
    ∀ (field : String) (values : List String),
      (∀ results, expandAll environment field values = (results, none) ↔
        List.Forall₂ (ExpandsTo environment) values results) ∧
      ∀ results unset, expandAll environment field values = (results, some unset) ↔
        ∃ before value after, values = before ++ value :: after ∧
          ∃ done, List.Forall₂ (ExpandsTo environment) before done ∧
            results = done ++ value :: after ∧
            Env.expandField environment (indexed field before.length) value = .error unset := by
  refine ⟨ConfigFile.expand_eq_ok_iff, ConfigFile.expands_iff, ConfigFile.expand_eq_error_iff,
    ConfigFile.pairwise_entries, fun _ _ _ => field_of_expandField, fun field values => ?_⟩
  refine ⟨expandEntries_eq_iff field 0 values, fun results unset => ?_⟩
  have stops := expandEntries_eq_error_iff environment field 0 values results unset
  simp only [Nat.zero_add] at stops
  exact stops

example :
    let node : Seed := { Seed.localNode with zone := "$\x7bZONE\x7d" }
    let file : ConfigFile := { seed := { nodes := [Seed.localNode, node, node] } }
    file.expand (fun _ => none) = .error ⟨"seed.nodes[1].zone", "ZONE".toList⟩ := by
  decide +kernel

end Workbench
