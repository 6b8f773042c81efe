import Workbench.Proofs.Files.Reached

set_option autoImplicit false

namespace Workbench

namespace Place

variable {home : Place} {name : List Char}

theorem Named.of_prefix {above place : Place} (named : place.Named) (begins : above <+: place) :
    above.Named :=
  fun other among => named other (begins.subset among)

theorem named_concat (named : home.Named) (valid : IsName name) : Named (home ++ [name]) := by
  intro other among
  obtain before | same := List.mem_append.mp among
  next => exact named other before
  next => exact List.mem_singleton.mp same ▸ valid

theorem text_path_ne_nil (place : Place) : place.path.text ≠ [] := by
  unfold path
  split <;> exact List.cons_ne_nil _ _

theorem getLast?_path (named : home.Named) (nonempty : home ≠ []) :
    home.path.text.getLast? ≠ some '/' := by
  intro ends
  obtain ⟨front, text⟩ := List.getLast?_eq_some_iff.mp ends
  have pieces := pieces_path named nonempty
  have cut : home.path.pieces = Text.splitOn '/' front ++ [[]] := by
    rw [Path.pieces, text, Text.splitOn_eq, List.splitOn_append_cons_self, Text.splitOn_eq]
    rfl
  have last := congrArg List.getLast? (pieces.symm.trans cut)
  rw [List.getLast?_cons_of_ne_nil nonempty, List.getLast?_concat] at last
  exact (named [] (List.mem_of_getLast? last)).1 rfl

theorem path_concat (named : home.Named) (valid : IsName name) :
    Place.path (home ++ [name]) = home.path.join ⟨name⟩ := by
  have relative : Path.isAbsolute ⟨name⟩ = false := by
    simpa [Path.isAbsolute] using Path.slash_not_head valid.2.1
  by_cases root : home = []
  · subst root
    simp [path, Path.join, relative, Text.joinWith]
  · have ends := getLast?_path named root
    have text : home.path.text = '/' :: Text.joinWith '/' home := by simp [path, root]
    rw [text] at ends
    simp [path, Path.join, relative, root, ends, Text.joinWith_concat '/' root]

theorem dropIgnoredEnd_of_named (named : home.Named) : Path.dropIgnoredEnd home = home := by
  rw [Path.dropIgnoredEnd_eq, List.rdropWhile_eq_self_iff]
  intro nonempty
  have counted := (named _ (List.getLast_mem nonempty)).counts
  simp [counted]

theorem parent?_path_nil : (Place.path []).parent? = none := by decide

theorem parent?_path_concat (named : home.Named) (valid : IsName name) :
    (Place.path (home ++ [name])).parent? = some home.path := by
  have whole := named_concat named valid
  have pieces := pieces_path whole (List.concat_ne_nil name home)
  have kept : (Path.dropIgnoredEnd (home ++ [name])).reverse = name :: home.reverse := by
    rw [dropIgnoredEnd_of_named whole, List.reverse_concat]
  simp only [Path.parent?, pieces, kept, List.reverse_reverse, dropIgnoredEnd_of_named named,
    isAbsolute_path, Bool.and_true]
  cases home <;> rfl

end Place

namespace FileTree

variable {tree : FileTree} {start home place reached : Place} {name : List Char}

theorem named_of_walk {components : List Path.Component} (named : place.Named)
    (valid : ∀ text, .name text ∈ components → Place.IsName text)
    (led : tree.walk place components = .ok reached) : reached.Named := by
  induction components generalizing place with
  | nil => exact Except.ok.inj led ▸ named
  | cons component rest ih =>
      have behind : ∀ text, .name text ∈ rest → Place.IsName text :=
        fun text among => valid text (List.mem_cons_of_mem _ among)
      simp only [walk] at led
      split at led
      next => contradiction
      next => contradiction
      next =>
        cases component with
        | root => exact ih (by simp [Place.Named]) behind led
        | current => exact ih named behind led
        | parent => exact ih (named.of_prefix (List.dropLast_prefix place)) behind led
        | name text =>
            dsimp only at led
            split at led
            next => contradiction
            next => exact ih (Place.named_concat named (valid text List.mem_cons_self)) behind led

def Stands (tree : FileTree) (place : Place) : Prop :=
  tree.resolve [] place.path = .ok (place, .directory)

theorem stands_iff : tree.Stands place ↔
    tree.walk [] place.path.components = .ok place ∧ tree.find? place = some .directory := by
  simp [Stands, resolve_eq_ok_iff, Place.text_path_ne_nil]

theorem stands_root (tree : FileTree) : tree.Stands [] := by
  have components : (Place.path []).components = [.root] := by decide
  rw [stands_iff, components]
  exact ⟨rfl, rfl⟩

namespace Stands

theorem find? (stands : tree.Stands place) : tree.find? place = some .directory :=
  (stands_iff.mp stands).2

theorem named (stands : tree.Stands place) : place.Named :=
  named_of_walk (by simp [Place.Named]) (fun _ => Path.isName_of_mem_components)
    (stands_iff.mp stands).1

theorem walk (stands : tree.Stands place) : tree.walk [] (place.map .name) = .ok place :=
  @walk_of_resolve_path tree [] [] place .directory stands.named stands

theorem walk_path (here : tree.Stands start) (stands : tree.Stands place) :
    tree.walk start place.path.components = .ok place := by
  rw [Place.components_path stands.named, FileTree.walk, here.find?]
  exact stands.walk

theorem above (stands : tree.Stands place) (begins : home <+: place) : tree.Stands home := by
  obtain ⟨behind, rfl⟩ := begins
  have named : home.Named := stands.named.of_prefix (List.prefix_append home behind)
  have led := stands.walk
  rw [List.map_append, walk_append] at led
  cases front : tree.walk [] (home.map .name) with
  | error missing => simp [front, Except.bind] at led
  | ok reached =>
      obtain rfl : reached = home := place_of_walk_names front
      rw [front] at led
      have directory : tree.find? reached = some .directory := by
        cases behind with
        | nil => simpa using stands.find?
        | cons name rest =>
            simp only [Except.bind, List.map_cons, FileTree.walk] at led
            split at led
            next => contradiction
            next => contradiction
            next there => exact there
      rw [stands_iff, Place.components_path named, FileTree.walk]
      exact ⟨front, directory⟩

theorem resolve_child (here : tree.Stands start) (stands : tree.Stands home)
    (valid : Place.IsName name) (short : Text.byteLength name ≤ maxName) :
    tree.resolve start (Place.path (home ++ [name])) =
      match tree.find? (home ++ [name]) with
      | none => .error .noEntry
      | some node => .ok (home ++ [name], node) := by
  have nonempty := Place.text_path_ne_nil home
  have joined := Place.path_concat stands.named valid
  have text : (Place.path (home ++ [name])).text.isEmpty = false := by
    simpa using Place.text_path_ne_nil (home ++ [name])
  have led : tree.walk start (Place.path (home ++ [name])).components = .ok (home ++ [name]) := by
    rw [joined, Path.components_join nonempty valid, walk_append, here.walk_path stands]
    simp [Except.bind, FileTree.walk, stands.find?, Nat.not_lt.mpr short]
  have ends : (Place.path (home ++ [name])).namesDirectory = false := by
    rw [joined]
    exact Path.namesDirectory_join nonempty valid
  simp only [resolve, text, led, ends, Bool.false_eq_true, if_false]
  cases tree.find? (home ++ [name]) with
  | none => rfl
  | some node => cases node <;> rfl

end Stands

end FileTree

end Workbench
