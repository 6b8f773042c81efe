import Mathlib.Data.List.Infix
import Mathlib.Data.List.Nodup
import Workbench.Files.Operation
import Workbench.Proofs.Files.Relative

set_option autoImplicit false

namespace Workbench

namespace Place

def IsName (name : List Char) : Prop :=
  name ≠ [] ∧ '/' ∉ name ∧ name ≠ ['.'] ∧ name ≠ ['.', '.']

instance (name : List Char) : Decidable (IsName name) :=
  inferInstanceAs (Decidable (_ ∧ _))

theorem IsName.counts {name : List Char} (valid : IsName name) : Path.counts name = true := by
  simp [Path.counts, valid.1, valid.2.2.1]

def Named (place : Place) : Prop :=
  ∀ name ∈ place, IsName name

instance (place : Place) : Decidable (Named place) :=
  inferInstanceAs (Decidable (∀ name ∈ place, IsName name))

theorem map_componentOf {names : Place} (named : names.Named) :
    (names.filter Path.counts).map Path.componentOf = names.map .name := by
  have counted : names.filter Path.counts = names := by
    rw [List.filter_eq_self]
    exact fun name among => (named name among).counts
  rw [counted]
  apply List.map_congr_left
  intro name among
  exact if_neg (named name among).2.2.2

theorem pieces_path {place : Place} (named : place.Named) (nonempty : place ≠ []) :
    place.path.pieces = [] :: place := by
  have free : ∀ piece ∈ [] :: place, '/' ∉ piece := by
    intro piece among
    obtain rfl | inside := List.mem_cons.mp among
    · exact List.not_mem_nil
    · exact (named piece inside).2.1
  have text : place.path = ⟨Text.joinWith '/' ([] :: place)⟩ := by
    obtain ⟨first, rest, rfl⟩ := List.exists_cons_of_ne_nil nonempty
    rfl
  rw [text]
  exact Text.splitOn_joinWith free (List.cons_ne_nil _ _)

theorem isAbsolute_path (place : Place) : place.path.isAbsolute = true := by
  unfold path
  split <;> rfl

theorem components_path {place : Place} (named : place.Named) :
    place.path.components = .root :: place.map .name := by
  by_cases atRoot : place = []
  · rw [atRoot]
    decide
  · rw [Path.components, pieces_path named atRoot]
    simp only [isAbsolute_path, if_true, map_componentOf named]

theorem components_joinWith {names : Place} (named : names.Named) (nonempty : names ≠ []) :
    Path.components ⟨Text.joinWith '/' names⟩ = names.map .name := by
  obtain ⟨first, rest, rfl⟩ := List.exists_cons_of_ne_nil nonempty
  have free : ∀ name ∈ first :: rest, '/' ∉ name := fun name among => (named name among).2.1
  have counted := (named first List.mem_cons_self).counts
  rw [Path.components_joinWith free counted, map_componentOf named]

theorem name_injective : Function.Injective Path.Component.name :=
  fun _ _ same => Path.Component.name.inj same

theorem components_path_inj {left right : Place} (leftNamed : left.Named)
    (rightNamed : right.Named) :
    left.path.components = right.path.components ↔ left = right := by
  rw [components_path leftNamed, components_path rightNamed, List.cons_inj_right]
  exact (List.map_injective_iff.mpr name_injective).eq_iff

theorem prefix_components_iff {left right : Place} (leftNamed : left.Named)
    (rightNamed : right.Named) :
    left.path.components <+: right.path.components ↔ left <+: right := by
  rw [components_path leftNamed, components_path rightNamed, List.prefix_cons_inj,
    List.prefix_map_iff_of_injective name_injective]

end Place

namespace FileTree

variable {tree : FileTree} {place : Place}

def places (tree : FileTree) : List Place :=
  tree.nodes.map (·.1)

theorem has_iff (tree : FileTree) (place : Place) :
    tree.has place = true ↔ place = [] ∨ place ∈ tree.places := by
  unfold has find?
  cases place with
  | nil => simp
  | cons name rest =>
      rw [← not_iff_not]
      simp [places]

theorem has_root (tree : FileTree) : tree.has [] = true := rfl

theorem mem_under_iff (tree : FileTree) (removed place : Place) :
    place ∈ tree.under removed ↔ place ∈ tree.places ∧ removed <+: place := by
  simp [under, places, and_comm]

theorem nodup_eraseDups {α : Type} [BEq α] [LawfulBEq α] (items : List α) :
    items.eraseDups.Nodup := by
  cases items with
  | nil => simp
  | cons first rest =>
      rw [List.eraseDups_cons, List.nodup_cons, List.mem_eraseDups]
      exact ⟨by simp, nodup_eraseDups _⟩
termination_by items.length
decreasing_by
  have bound := List.length_filter_le (fun other => !other == first) rest
  simp only [List.length_cons]
  omega

theorem nodup_under (tree : FileTree) (removed : Place) : (tree.under removed).Nodup :=
  nodup_eraseDups _

theorem mem_missingDirectories_iff (tree : FileTree) (directory place : Place) :
    place ∈ tree.missingDirectories directory ↔ place <+: directory ∧ tree.has place = false := by
  simp only [missingDirectories, List.mem_filter, List.mem_map, List.mem_range, Bool.not_eq_true']
  constructor
  · rintro ⟨⟨index, _, rfl⟩, absent⟩
    exact ⟨List.take_prefix _ _, absent⟩
  · rintro ⟨begins, absent⟩
    refine ⟨⟨place.length - 1, ?_, ?_⟩, absent⟩
    all_goals
      have positive : 0 < place.length := by
        rw [List.length_pos_iff]
        rintro rfl
        rw [has_root] at absent
        contradiction
      have bound := begins.length_le
    · omega
    · rw [Nat.sub_add_cancel positive]
      exact (List.prefix_iff_eq_take.mp begins).symm

theorem has_foldl_add (directories : List Place) (tree : FileTree) (place : Place) :
    (directories.foldl (fun tree directory => if (tree.find? directory).isSome then tree
      else ⟨(directory, .directory) :: tree.nodes⟩) tree).has place = true ↔
        tree.has place = true ∨ place ∈ directories := by
  induction directories generalizing tree with
  | nil => simp
  | cons directory rest ih =>
      rw [List.foldl_cons, ih, List.mem_cons]
      by_cases present : tree.has directory = true
      · have kept : (tree.find? directory).isSome = true := present
        rw [if_pos kept]
        constructor
        · exact Or.imp_right .inr
        · rintro (before | rfl | behind)
          · exact .inl before
          · exact .inl present
          · exact .inr behind
      · have added : ¬ (tree.find? directory).isSome = true := present
        rw [if_neg added, has_iff, has_iff]
        simp only [places, List.map_cons, List.mem_cons]
        tauto

theorem has_addDirectories (tree : FileTree) (directory place : Place) :
    (tree.addDirectories directory).has place = true ↔
      tree.has place = true ∨ place <+: directory := by
  have added := has_foldl_add ((List.range directory.length).map fun index =>
    directory.take (index + 1)) tree place
  rw [List.foldl_map] at added
  rw [addDirectories, added]
  constructor
  · rintro (before | new)
    · exact .inl before
    · obtain ⟨index, _, rfl⟩ := List.mem_map.mp new
      exact .inr (List.take_prefix _ _)
  · rintro (before | begins)
    · exact .inl before
    · by_cases absent : tree.has place = false
      · have missing := (mem_missingDirectories_iff tree directory place).mpr ⟨begins, absent⟩
        exact .inr (List.mem_of_mem_filter missing)
      · exact .inl (by simpa using absent)

theorem has_addFile (tree : FileTree) (file place : Place) (content : ByteArray) :
    (tree.addFile file content).has place = true ↔ tree.has place = true ∨ place <+: file := by
  have whole : place <+: file ↔ place <+: file.dropLast ∨ place = file := by
    cases file using List.reverseRecOn with
    | nil => simp
    | append_singleton front last => rw [List.dropLast_concat, List.prefix_concat_iff, or_comm]
  have before := has_addDirectories tree file.dropLast place
  rw [has_iff] at before
  rw [addFile, has_iff, whole]
  simp only [places, List.map_cons, List.mem_cons] at before ⊢
  tauto

theorem has_removeUnder (tree : FileTree) (removed place : Place) :
    (tree.removeUnder removed).has place = true ↔
      place = [] ∨ tree.has place = true ∧ ¬ removed <+: place := by
  rw [has_iff, has_iff]
  simp only [places, removeUnder, List.mem_map, List.mem_filter, Bool.not_eq_true',
    List.isPrefixOf_iff_prefix, ← Bool.not_eq_true]
  constructor
  · rintro (root | ⟨node, ⟨kept, apart⟩, rfl⟩)
    · exact .inl root
    · exact .inr ⟨.inr ⟨node, kept, rfl⟩, apart⟩
  · rintro (root | ⟨root | ⟨node, kept, rfl⟩, apart⟩)
    · exact .inl root
    · exact .inl root
    · exact .inr ⟨node, ⟨kept, apart⟩, rfl⟩

theorem has_move (tree : FileTree) (source target place : Place) :
    (tree.move source target).has place = true ↔
      (∃ behind, source ++ behind ∈ tree.places ∧ place = target ++ behind) ∨
        place = [] ∨ tree.has place = true ∧ ¬ source <+: place ∧ ¬ target <+: place := by
  have rest : place = [] ∨ place ∈ ((tree.removeUnder source).removeUnder target).places ↔
      place = [] ∨ tree.has place = true ∧ ¬ source <+: place ∧ ¬ target <+: place := by
    rw [← has_iff, has_removeUnder, has_removeUnder]
    tauto
  rw [move, has_iff]
  have moved : place ∈ ((tree.nodes.filter fun node => source.isPrefixOf node.1).map
      fun node => (target ++ node.1.drop source.length, node.2)).map (·.1) ↔
        ∃ behind, source ++ behind ∈ tree.places ∧ place = target ++ behind := by
    simp only [List.map_map, List.mem_map, List.mem_filter, List.isPrefixOf_iff_prefix, places,
      Function.comp_apply]
    constructor
    · rintro ⟨node, ⟨kept, behind, whole⟩, rfl⟩
      refine ⟨behind, ⟨node, kept, whole.symm⟩, ?_⟩
      rw [← whole, List.drop_left]
    · rintro ⟨behind, ⟨node, kept, whole⟩, rfl⟩
      exact ⟨node, ⟨kept, behind, whole.symm⟩, by rw [whole, List.drop_left]⟩
  simp only [places, List.map_append, List.mem_append] at rest moved ⊢
  rw [moved, or_left_comm, rest]

end FileTree

end Workbench
