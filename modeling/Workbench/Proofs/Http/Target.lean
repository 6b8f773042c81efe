import Workbench.Http.Uri
import Workbench.Proofs.Text.Split
import Mathlib.Data.List.TakeWhile

set_option autoImplicit false

namespace Workbench.Http.Uri

open Text (markedBy)

structure Holds (path : List Char) (query : Option (List Char)) : Prop where
  path : ∀ char ∈ path, isPathChar char = true
  query : ∀ text, query = some text → ∀ char ∈ text, isQueryChar char = true

theorem holds_of_pathAndQuery? {text path : List Char} {query : Option (List Char)}
    (read : pathAndQuery? text = some (path, query)) : Holds path query := by
  unfold pathAndQuery? at read
  dsimp only at read
  split at read
  next => contradiction
  next inPath =>
    rw [Bool.not_eq_true', Bool.not_eq_false, List.all_eq_true] at inPath
    split at read
    next =>
      obtain ⟨rfl, rfl⟩ := Prod.mk.inj (Option.some.inj read)
      exact ⟨inPath, by simp⟩
    next mark rest _ =>
      split at read
      next inQuery =>
        obtain ⟨rfl, rfl⟩ := Prod.mk.inj (Option.some.inj read)
        rw [List.all_eq_true] at inQuery
        refine ⟨inPath, ?_⟩
        intro text same
        rw [← Option.some.inj same]
        exact inQuery
      next => contradiction

theorem holds_of_absolute? {text : List Char} {uri : Uri} (read : absolute? text = some uri) :
    Holds uri.path uri.query := by
  unfold absolute? at read
  split at read
  next scheme rest _ =>
    simp only [Option.bind_eq_bind, Option.bind_eq_some_iff, Option.ite_none_left_eq_some] at read
    obtain ⟨_, ⟨authority, behind⟩, _, ⟨path, query⟩, found, _, made⟩ := read
    rw [← Option.some.inj made]
    exact holds_of_pathAndQuery? found
  next =>
    simp only [Option.bind_eq_bind, Option.bind_eq_some_iff, Option.ite_none_left_eq_some] at read
    obtain ⟨⟨authority, behind⟩, _, _, made⟩ := read
    rw [← Option.some.inj made]
    exact ⟨by simp, by simp⟩

theorem holds_of_parse? {text : List Char} {uri : Uri} (read : parse? text = some uri) :
    Holds uri.path uri.query := by
  unfold parse? at read
  split at read
  next => contradiction
  next =>
    split at read
    next => contradiction
    next =>
      rw [← Option.some.inj read]
      exact ⟨List.all_eq_true.mp (by decide), by simp⟩
    next =>
      obtain ⟨parts, found, rfl⟩ := Option.map_eq_some_iff.mp read
      exact holds_of_pathAndQuery? found
    next => exact holds_of_absolute? read

theorem holds_pathText {text : List Char} {uri : Uri} (read : parse? text = some uri) :
    Holds uri.pathText uri.query := by
  have holds := holds_of_parse? read
  refine ⟨?_, holds.query⟩
  rw [pathText]
  split
  next => simp
  next =>
    split
    next => exact List.all_eq_true.mp (by decide)
    next => exact holds.path

theorem exists_rest_of_pathAndQuery? {text path : List Char} {query : Option (List Char)}
    (read : pathAndQuery? text = some (path, query)) :
    ∃ rest, text = path ++ rest ∧ ∀ mark ∈ rest.head?, isPathChar mark = false := by
  have cut : path = (text.takeWhile (· ≠ '#')).takeWhile (· ≠ '?') := by
    unfold pathAndQuery? at read
    dsimp only at read
    split at read
    next => contradiction
    next =>
      split at read
      next => exact (Prod.mk.inj (Option.some.inj read)).1.symm
      next =>
        split at read
        next => exact (Prod.mk.inj (Option.some.inj read)).1.symm
        next => contradiction
  refine ⟨(text.takeWhile (· ≠ '#')).dropWhile (· ≠ '?') ++ text.dropWhile (· ≠ '#'), ?_, ?_⟩
  · rw [cut, ← List.append_assoc, List.takeWhile_append_dropWhile, List.takeWhile_append_dropWhile]
  · intro mark head
    rw [List.head?_append] at head
    have marks : mark = '?' ∨ mark = '#' := by
      cases query : ((text.takeWhile (· ≠ '#')).dropWhile (· ≠ '?')).head? with
      | some first =>
          rw [query] at head
          have stops := Text.head?_dropWhile query
          simp at head stops
          exact .inl (head ▸ stops)
      | none =>
          rw [query] at head
          have stops := Text.head?_dropWhile head
          simp at stops
          exact .inr stops
    obtain rfl | rfl := marks
    next => decide
    next => decide

theorem exists_rest_of_rooted {text : List Char} {uri : Uri}
    (read : parse? ('/' :: text) = some uri) :
    ∃ path rest, text = path ++ rest ∧ uri.pathText = '/' :: path ∧
      ∀ mark ∈ rest.head?, isPathChar mark = false := by
  rw [parse?, Option.ite_none_left_eq_some, Option.map_eq_some_iff] at read
  obtain ⟨_, ⟨whole, query⟩, found, rfl⟩ := read
  obtain ⟨rest, cut, stops⟩ := exists_rest_of_pathAndQuery? found
  cases whole with
  | nil =>
      rw [List.nil_append] at cut
      have slash := stops '/' (cut ▸ rfl)
      contradiction
  | cons first path =>
      obtain ⟨rfl, rfl⟩ := List.cons.inj cut
      exact ⟨path, rest, rfl, rfl, stops⟩

theorem short_of_parse? {text : List Char} {uri : Uri} (read : parse? text = some uri) :
    Text.byteLength text ≤ maxLength := by
  unfold parse? at read
  split at read
  next => contradiction
  next short => exact Nat.le_of_not_lt short

section
variable {path : List Char} {query : Option (List Char)}

theorem Holds.not_mem_path (holds : Holds path query) {mark : Char}
    (foreign : isPathChar mark = false) : mark ∉ path := by
  intro mem
  rw [holds.path mark mem] at foreign
  contradiction

theorem Holds.not_mem_markedBy (holds : Holds path query) {mark : Char} (other : mark ≠ '?')
    (foreign : isQueryChar mark = false) : mark ∉ markedBy '?' query := by
  cases query with
  | none => exact List.not_mem_nil
  | some text =>
      rw [markedBy, List.mem_cons, not_or]
      refine ⟨other, ?_⟩
      intro mem
      rw [holds.query text rfl mark mem] at foreign
      contradiction

theorem Holds.cut (holds : Holds path query) :
    (path ++ markedBy '?' query).takeWhile (· ≠ '?') = path ∧
      (path ++ markedBy '?' query).dropWhile (· ≠ '?') = markedBy '?' query := by
  have inside : ∀ char ∈ path, decide (char ≠ '?') = true := by
    intro char mem
    rw [decide_eq_true_eq]
    rintro rfl
    exact holds.not_mem_path (by decide) mem
  have stops : ∀ char ∈ (markedBy '?' query).head?, decide (char ≠ '?') = false := by
    cases query <;> simp [markedBy]
  exact ⟨Text.takeWhile_append_of_stops inside stops, Text.dropWhile_append_of_stops inside stops⟩

theorem Holds.unique {path' : List Char} {query' : Option (List Char)} (holds : Holds path query)
    (holds' : Holds path' query')
    (same : path ++ markedBy '?' query = path' ++ markedBy '?' query') :
    path = path' ∧ query = query' := by
  have cut := holds.cut
  rw [same, holds'.cut.1, holds'.cut.2] at cut
  exact ⟨cut.1.symm, Text.markedBy_inj cut.2.symm⟩

theorem pathAndQuery?_of_holds (holds : Holds path query) :
    pathAndQuery? (path ++ markedBy '?' query) = some (path, query) := by
  have noFragment : (path ++ markedBy '?' query).takeWhile (· ≠ '#') =
      path ++ markedBy '?' query := by
    rw [List.takeWhile_eq_self_iff]
    intro char mem
    rw [decide_eq_true_eq]
    rintro rfl
    obtain mem | mem := List.mem_append.mp mem
    next => exact holds.not_mem_path (by decide) mem
    next => exact holds.not_mem_markedBy (by decide) (by decide) mem
  unfold pathAndQuery?
  dsimp only
  rw [noFragment, holds.cut.1, holds.cut.2, List.all_eq_true.mpr holds.path]
  cases query with
  | none => rfl
  | some text => simp [markedBy, List.all_eq_true.mpr (holds.query text rfl)]

theorem parse?_rooted {text : List Char} (plain : ∀ char ∈ '/' :: text, isPathChar char = true)
    (short : Text.byteLength ('/' :: text) ≤ maxLength) :
    parse? ('/' :: text) = some { path := '/' :: text } := by
  have holds : Holds ('/' :: text) none := ⟨plain, by simp⟩
  have read := pathAndQuery?_of_holds holds
  rw [markedBy, List.append_nil] at read
  rw [parse?, if_neg (Nat.not_lt.mpr short), read]
  rfl

theorem authority?_append {authority rest : List Char}
    (alone : authority? authority = some (authority, []))
    (stops : ∀ char ∈ rest.head?, endsAuthority char = true) :
    authority? (authority ++ rest) = some (authority, rest) := by
  simp only [authority?, Option.bind_eq_bind, Option.bind_eq_some_iff,
    Option.ite_none_right_eq_some, Option.pure_def, Option.some.injEq, Prod.mk.injEq] at alone
  obtain ⟨state, folded, accepted, whole, _⟩ := alone
  have inside : ∀ char ∈ authority, (!endsAuthority char) = true :=
    List.takeWhile_eq_self_iff.mp whole
  have ends : ∀ char ∈ rest.head?, (!endsAuthority char) = false := by
    simpa using stops
  -- Reading stops at the same place, so the same characters are folded.
  rw [whole] at folded accepted
  rw [authority?]
  simp only [Text.takeWhile_append_of_stops inside ends,
    Text.dropWhile_append_of_stops inside ends, folded]
  exact if_pos accepted

theorem parse?_http {authority : List Char} (nonempty : authority ≠ [])
    (alone : authority? authority = some (authority, [])) (rooted : path.head? = some '/')
    (holds : Holds path query) :
    parse? ("http://".toList ++ (authority ++ (path ++ markedBy '?' query))) =
      if maxLength <
          Text.byteLength ("http://".toList ++ (authority ++ (path ++ markedBy '?' query)))
      then none
      else some { scheme := some "http".toList, authority, path, query } := by
  have stops : ∀ char ∈ (path ++ markedBy '?' query).head?, endsAuthority char = true := by
    cases path with
    | nil => contradiction
    | cons first rest =>
        cases rooted
        simp [endsAuthority]
  have cut : scheme? ("http://".toList ++ (authority ++ (path ++ markedBy '?' query))) =
      some ("http".toList, authority ++ (path ++ markedBy '?' query)) := rfl
  have read : absolute? ("http://".toList ++ (authority ++ (path ++ markedBy '?' query))) =
      some { scheme := some "http".toList, authority, path, query } := by
    unfold absolute?
    rw [cut]
    dsimp only
    rw [authority?_append alone stops]
    have short : ¬ maxSchemeLength < "http".toList.length := by decide
    rw [if_neg short]
    change (pathAndQuery? (path ++ markedBy '?' query)).bind _ = _
    rw [pathAndQuery?_of_holds holds]
    have named : authority.isEmpty = false := by
      rw [List.isEmpty_eq_false_iff]
      exact nonempty
    change (if authority.isEmpty = true then _ else _) = _
    rw [named]
    rfl
  unfold parse?
  split
  next => rfl
  next => exact read

end

end Workbench.Http.Uri
