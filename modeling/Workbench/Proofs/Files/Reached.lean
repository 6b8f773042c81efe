import Workbench.Proofs.Files.Existing

set_option autoImplicit false

namespace Workbench

namespace Path

def Component.name? : Component -> Option (List Char)
  | .name text => some text
  | .root | .current | .parent => none

theorem names_eq (path : Path) : path.names = path.components.filterMap Component.name? := by
  unfold names
  congr 1
  funext component
  cases component <;> rfl

theorem filterMap_name? (names : List (List Char)) :
    (names.map Component.name).filterMap Component.name? = names := by
  simp [List.filterMap_map, Function.comp_def, Component.name?]

def frontOf (absolute : Bool) (first : List Char) : List Component :=
  if absolute then [.root]
  else if first.isEmpty then []
  else if first = ['.'] then [.current]
  else [componentOf first]

theorem components_eq {path : Path} {first : List Char} {rest : List (List Char)}
    (split : path.pieces = first :: rest) :
    path.components = frontOf path.isAbsolute first ++ (rest.filter counts).map componentOf := by
  unfold components frontOf
  simp only [split]
  split_ifs <;> rfl

theorem mem_frontOf {absolute : Bool} {first : List Char} {component : Component}
    (among : component ∈ frontOf absolute first) :
    component = .root ∨ component = .current ∨
      counts first = true ∧ component = componentOf first := by
  unfold frontOf at among
  split_ifs at among with root blank dot
  next => exact .inl (List.mem_singleton.mp among)
  next => contradiction
  next => exact .inr (.inl (List.mem_singleton.mp among))
  next => exact .inr (.inr ⟨by simp [counts, blank, dot], List.mem_singleton.mp among⟩)

theorem mem_components {path : Path} {component : Component}
    (among : component ∈ path.components) :
    component = .root ∨ component = .current ∨
      ∃ piece ∈ path.pieces, counts piece = true ∧ component = componentOf piece := by
  obtain ⟨first, rest, split⟩ := List.exists_cons_of_ne_nil path.pieces_ne_nil
  rw [components_eq split, List.mem_append] at among
  rw [split]
  obtain front | behind := among
  next =>
    obtain root | current | ⟨counted, named⟩ := mem_frontOf front
    next => exact .inl root
    next => exact .inr (.inl current)
    next => exact .inr (.inr ⟨first, List.mem_cons_self, counted, named⟩)
  next =>
    obtain ⟨piece, kept, rfl⟩ := List.mem_map.mp behind
    obtain ⟨member, counted⟩ := List.mem_filter.mp kept
    exact .inr (.inr ⟨piece, List.mem_cons_of_mem first member, counted, rfl⟩)

theorem isName_of_mem_components {path : Path} {text : List Char}
    (among : .name text ∈ path.components) : Place.IsName text := by
  obtain root | current | ⟨piece, member, counted, named⟩ := mem_components among
  next => contradiction
  next => contradiction
  next =>
    unfold componentOf at named
    split at named
    next => contradiction
    next parent =>
      obtain rfl := Component.name.inj named
      simp only [counts, Bool.and_eq_true, Bool.not_eq_true', List.isEmpty_eq_false_iff,
        decide_eq_true_eq] at counted
      exact ⟨counted.1, slash_not_mem_piece member, counted.2, parent⟩

theorem names_sublist_pieces (path : Path) : path.names.Sublist path.pieces := by
  obtain ⟨first, rest, split⟩ := List.exists_cons_of_ne_nil path.pieces_ne_nil
  have one (piece : List Char) :
      ([componentOf piece].filterMap Component.name?).Sublist [piece] := by
    unfold componentOf
    split <;> simp [Component.name?]
  have all (pieces : List (List Char)) :
      ((pieces.map componentOf).filterMap Component.name?).Sublist pieces := by
    induction pieces with
    | nil => exact List.Sublist.refl _
    | cons piece rest ih =>
        have both := (one piece).append ih
        rw [← List.filterMap_append, ← List.map_singleton, ← List.map_append] at both
        exact both
  have front : ((frontOf path.isAbsolute first).filterMap Component.name?).Sublist [first] := by
    unfold frontOf
    split_ifs
    next => simp [Component.name?]
    next => simp
    next => simp [Component.name?]
    next => exact one first
  rw [names_eq, components_eq split, List.filterMap_append, split]
  exact front.append ((all _).trans List.filter_sublist)

theorem pieces_join {base : Path} {name : List Char} (spelled : base.text ≠ [])
    (valid : Place.IsName name) :
    ∃ front ignored, front ≠ [] ∧ ignored.filter counts = [] ∧ base.pieces = front ++ ignored ∧
      (base.join ⟨name⟩).pieces = front ++ [name] ∧
      (base.join ⟨name⟩).isAbsolute = base.isAbsolute := by
  have relative : isAbsolute ⟨name⟩ = false := by
    simpa [isAbsolute] using slash_not_head valid.2.1
  have nonempty : base.text.isEmpty = false := by
    simpa using spelled
  have alone : Text.splitOn '/' name = [name] := by
    have free : ∀ piece ∈ [name], '/' ∉ piece := by simpa using valid.2.1
    exact Text.splitOn_joinWith free (List.cons_ne_nil _ _)
  have cut (before after : List Char) : Text.splitOn '/' (before ++ '/' :: after) =
      Text.splitOn '/' before ++ Text.splitOn '/' after := by
    simp only [Text.splitOn_eq, List.splitOn_append_cons_self]
  by_cases ends : base.text.getLast? = some '/'
  · obtain ⟨front, text⟩ := List.getLast?_eq_some_iff.mp ends
    have joined : base.join ⟨name⟩ = ⟨front ++ '/' :: name⟩ := by
      simp [join, relative, text]
    refine ⟨Text.splitOn '/' front, [[]], Text.splitOn_ne_nil _ _, rfl, ?_, ?_, ?_⟩
    · rw [pieces, text, cut]
      rfl
    · rw [joined, pieces, cut, alone]
    · rw [joined]
      cases front <;> simp [isAbsolute, text]
  · have joined : base.join ⟨name⟩ = ⟨base.text ++ '/' :: name⟩ := by
      simp [join, relative, nonempty, ends]
    refine ⟨base.pieces, [], base.pieces_ne_nil, rfl, (List.append_nil _).symm, ?_, ?_⟩
    · rw [joined, pieces, cut, alone]
      rfl
    · rw [joined, isAbsolute, isAbsolute, List.head?_append_of_ne_nil _ spelled]

theorem components_join {base : Path} {name : List Char} (spelled : base.text ≠ [])
    (valid : Place.IsName name) :
    (base.join ⟨name⟩).components = base.components ++ [.name name] := by
  obtain ⟨front, ignored, nonempty, passed, before, after, rooted⟩ := pieces_join spelled valid
  obtain ⟨first, rest, rfl⟩ := List.exists_cons_of_ne_nil nonempty
  have counted := valid.counts
  rw [List.cons_append] at before after
  rw [components_eq before, components_eq after, rooted, List.filter_append, List.filter_append,
    passed, List.append_nil, List.map_append, List.append_assoc]
  simp [counted, componentOf, valid.2.2.2]

theorem namesDirectory_join {base : Path} {name : List Char} (spelled : base.text ≠ [])
    (valid : Place.IsName name) : (base.join ⟨name⟩).namesDirectory = false := by
  obtain ⟨front, ignored, nonempty, _, _, after, _⟩ := pieces_join spelled valid
  have counted := valid.counts
  rw [namesDirectory, after, List.reverse_append]
  cases behind : front.reverse with
  | nil => simp at behind; contradiction
  | cons last before => simp [counted]

theorem text_join_ne_nil {base : Path} (spelled : base.text ≠ []) (path : Path) :
    (base.join path).text ≠ [] := by
  unfold join
  split_ifs with whole slash
  next =>
    simp only [Bool.or_eq_true, List.isEmpty_iff, spelled, or_false, isAbsolute,
      decide_eq_true_eq] at whole
    exact List.ne_nil_of_mem (List.mem_of_head? whole)
  next => simp [spelled]
  next => simp

theorem mem_text_join {base path : Path} {char : Char} (mem : char ∈ (base.join path).text) :
    char ∈ base.text ∨ char = '/' ∨ char ∈ path.text := by
  unfold join at mem
  split_ifs at mem
  next => exact .inr (.inr mem)
  next => exact (List.mem_append.mp mem).imp_right .inr
  next => simpa using mem

def joinAll (base : Path) (names : List (List Char)) : Path :=
  names.foldl (fun path name => path.join ⟨name⟩) base

theorem joinAll_concat (base : Path) (names : List (List Char)) (name : List Char) :
    base.joinAll (names ++ [name]) = (base.joinAll names).join ⟨name⟩ := by
  rw [joinAll, List.foldl_append]
  rfl

section
variable {base : Path} {names : List (List Char)}

theorem text_joinAll_ne_nil (spelled : base.text ≠ []) : (base.joinAll names).text ≠ [] := by
  induction names generalizing base with
  | nil => exact spelled
  | cons name rest ih => exact ih (text_join_ne_nil spelled ⟨name⟩)

theorem components_joinAll (spelled : base.text ≠ []) (named : Place.Named names) :
    (base.joinAll names).components = base.components ++ names.map .name := by
  induction names generalizing base with
  | nil => exact (List.append_nil _).symm
  | cons name rest ih =>
      have here := components_join spelled (named name List.mem_cons_self)
      have behind := ih (text_join_ne_nil spelled ⟨name⟩) fun other among =>
        named other (List.mem_cons_of_mem _ among)
      rw [here, List.append_assoc] at behind
      exact behind

theorem namesDirectory_joinAll (spelled : base.text ≠ []) (named : Place.Named names)
    (behind : names ≠ []) : (base.joinAll names).namesDirectory = false := by
  obtain ⟨front, last, rfl⟩ := List.eq_nil_or_concat names |>.resolve_left behind
  rw [List.concat_eq_append] at named ⊢
  rw [joinAll_concat]
  exact namesDirectory_join (text_joinAll_ne_nil spelled) (named last List.mem_concat_self)

theorem mem_text_joinAll {char : Char} (mem : char ∈ (base.joinAll names).text) :
    char ∈ base.text ∨ char = '/' ∨ ∃ name ∈ names, char ∈ name := by
  induction names generalizing base with
  | nil => exact .inl mem
  | cons name rest ih =>
      obtain before | slash | ⟨other, among, inside⟩ := ih mem
      next =>
        obtain inBase | slash | here := mem_text_join before
        next => exact .inl inBase
        next => exact .inr (.inl slash)
        next => exact .inr (.inr ⟨name, List.mem_cons_self, here⟩)
      next => exact .inr (.inl slash)
      next => exact .inr (.inr ⟨other, List.mem_cons_of_mem _ among, inside⟩)

end

end Path

namespace FileTree

variable {tree : FileTree} {directory home place : Place} {path base : Path}
  {names : List (List Char)}

theorem walk_append (tree : FileTree) (place : Place) (front behind : List Path.Component) :
    tree.walk place (front ++ behind) =
      (tree.walk place front).bind fun reached => tree.walk reached behind := by
  induction front generalizing place with
  | nil => rfl
  | cons component rest ih =>
      simp only [List.cons_append, walk]
      cases tree.find? place with
      | none => rfl
      | some node =>
          cases node with
          | file content => rfl
          | directory =>
              cases component with
              | root | current | parent => exact ih _
              | name text =>
                  dsimp only
                  split
                  next => rfl
                  next => exact ih _

theorem place_of_walk_names (led : tree.walk home (names.map .name) = .ok place) :
    place = home ++ names := by
  induction names generalizing home with
  | nil => simpa using (Except.ok.inj led).symm
  | cons name rest ih =>
      rw [List.map_cons, walk] at led
      split at led
      next => contradiction
      next => contradiction
      next =>
        split at led
        next => contradiction
        next => simpa using ih led

theorem resolve_eq_ok_iff {node : FileNode} :
    tree.resolve directory path = .ok (place, node) ↔ path.text ≠ [] ∧
      tree.walk directory path.components = .ok place ∧ tree.find? place = some node ∧
      (node ≠ .directory → path.namesDirectory = false) := by
  unfold resolve
  by_cases empty : path.text = []
  · simp [empty]
  · cases led : tree.walk directory path.components with
    | error missing => simp [empty]
    | ok reached =>
        have blank : path.text.isEmpty = false := by simpa using empty
        simp only [blank, Bool.false_eq_true, if_false, empty, not_false_eq_true, ne_eq, true_and,
          Except.ok.injEq]
        constructor
        · intro found
          split at found
          next => contradiction
          next content stored =>
            split at found
            next => contradiction
            next ends =>
              obtain ⟨rfl, rfl⟩ := Prod.mk.inj (Except.ok.inj found)
              exact ⟨rfl, stored, fun _ => by simpa using ends⟩
          next stored =>
            obtain ⟨rfl, rfl⟩ := Prod.mk.inj (Except.ok.inj found)
            exact ⟨rfl, stored, fun other => absurd rfl other⟩
        · rintro ⟨rfl, stored, ends⟩
          rw [stored]
          cases node with
          | directory => rfl
          | file content => simp [ends (by simp)]

theorem resolve_joinAll_iff {content : ByteArray}
    (based : tree.resolve directory base = .ok (home, .directory)) (named : Place.Named names)
    (nonempty : names ≠ []) :
    tree.resolve directory (base.joinAll names) = .ok (place, .file content) ↔
      tree.walk home (names.map .name) = .ok place ∧ tree.find? place = some (.file content) := by
  obtain ⟨text, led, _, _⟩ := resolve_eq_ok_iff.mp based
  have ends := Path.namesDirectory_joinAll text named nonempty
  rw [resolve_eq_ok_iff, Path.components_joinAll text named, walk_append, led, ends]
  simp [Path.text_joinAll_ne_nil text, Except.bind]

theorem walk_of_resolve_path {node : FileNode} (named : Place.Named (home ++ names))
    (stored : tree.resolve directory (home ++ names : Place).path = .ok (home ++ names, node)) :
    tree.walk home (names.map .name) = .ok (home ++ names) := by
  obtain ⟨_, led, _, _⟩ := resolve_eq_ok_iff.mp stored
  rw [Place.components_path named, walk] at led
  split at led
  next => contradiction
  next => contradiction
  next =>
    rw [List.map_append, walk_append] at led
    cases front : tree.walk [] (home.map .name) with
    | error missing => simp [front, Except.bind] at led
    | ok reached =>
        obtain rfl := place_of_walk_names front
        rw [front] at led
        exact led

end FileTree

end Workbench
