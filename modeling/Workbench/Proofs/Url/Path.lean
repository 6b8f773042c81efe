import Workbench.Proofs.Text.Split
import Workbench.Proofs.Url.Dots

set_option autoImplicit false

namespace Workbench.Url

open Text.Percent (encode marks)

theorem path_keeps_marks : ∀ mark ∈ marks, keptInPath mark = true :=
  List.all_eq_true.mp (by decide)

theorem query_keeps_marks : ∀ mark ∈ marks, keptInQuery mark = true :=
  List.all_eq_true.mp (by decide)

def namesOf (path : List Char) : List (List Char) :=
  (Text.splitOn '/' (path.map asSlash)).map (encode keptInPath)

theorem readPath_slash (path : List Char) :
    readPath ('/' :: path) = resolveDots [] (namesOf path) :=
  rfl

def StaysInPath (char : Char) : Prop :=
  keptInPath char = true ∧ char ≠ '\\'

theorem asSlash_ne_backslash (char : Char) : asSlash char ≠ '\\' := by
  rw [asSlash]
  split
  next => decide
  next other => exact other

theorem namesOf_of_stays {path : List Char} (stays : ∀ char ∈ path, StaysInPath char) :
    namesOf path = Text.splitOn '/' path := by
  have slashes : ∀ char ∈ path, asSlash char = id char := by
    intro char mem
    exact if_neg (stays char mem).2
  have kept : ∀ name ∈ Text.splitOn '/' path, encode keptInPath name = id name := by
    intro name among
    apply Text.Percent.encode_of_kept
    intro char mem
    exact (stays char (Text.mem_of_mem_splitOn among mem)).1
  rw [namesOf, List.map_congr_left slashes, List.map_id, List.map_congr_left kept, List.map_id]

theorem stays_of_mem_namesOf {path name : List Char} (among : name ∈ namesOf path) {char : Char}
    (mem : char ∈ name) : StaysInPath char := by
  obtain ⟨raw, split, rfl⟩ := List.mem_map.mp among
  refine ⟨Text.Percent.kept_of_mem_encode path_keeps_marks mem, ?_⟩
  obtain ⟨written, _⟩ | mark := Text.Percent.mem_encode mem
  next =>
    obtain ⟨source, _, rfl⟩ := List.mem_map.mp (Text.mem_of_mem_splitOn split written)
    exact asSlash_ne_backslash source
  next =>
    rintro rfl
    exact absurd mark (by decide)

theorem slash_not_mem_of_mem_namesOf {path name : List Char} (among : name ∈ namesOf path) :
    '/' ∉ name := by
  obtain ⟨raw, split, rfl⟩ := List.mem_map.mp among
  intro mem
  obtain ⟨written, _⟩ | mark := Text.Percent.mem_encode mem
  next => exact Text.not_mem_of_mem_splitOn split written
  next => exact absurd mark (by decide)

theorem namesOf_ne_nil (path : List Char) : namesOf path ≠ [] := by
  rw [namesOf, ne_eq, List.map_eq_nil_iff]
  exact Text.splitOn_ne_nil '/' _

theorem stays_of_mem_readPath {path name : List Char} (among : name ∈ readPath ('/' :: path))
    {char : Char} (mem : char ∈ name) : StaysInPath char ∧ char ≠ '/' := by
  rw [readPath_slash] at among
  obtain old | rfl | ⟨new, _⟩ := mem_resolveDots among
  next => contradiction
  next => contradiction
  next =>
    refine ⟨stays_of_mem_namesOf new mem, ?_⟩
    rintro rfl
    exact slash_not_mem_of_mem_namesOf new mem

theorem plain_of_mem_readPath {path name : List Char} (among : name ∈ readPath ('/' :: path)) :
    isDots name = false := by
  rw [readPath_slash] at among
  obtain old | rfl | ⟨_, plain⟩ := mem_resolveDots among
  next => contradiction
  next => decide
  next => exact plain

theorem splitOn_joinWith_readPath (path : List Char) :
    Text.splitOn '/' (Text.joinWith '/' (readPath ('/' :: path))) = readPath ('/' :: path) := by
  apply Text.splitOn_joinWith
  · intro name among mem
    exact (stays_of_mem_readPath among mem).2 rfl
  · rw [readPath_slash]
    exact resolveDots_ne_nil [] (namesOf_ne_nil path)

theorem joinWith_readPath_eq_iff (path : List Char) :
    Text.joinWith '/' (readPath ('/' :: path)) = path ↔
      (∀ char ∈ path, StaysInPath char) ∧
        ∀ name ∈ Text.splitOn '/' path, isDots name = false := by
  constructor
  · intro same
    have split := splitOn_joinWith_readPath path
    rw [same] at split
    constructor
    · intro char mem
      rw [← same] at mem
      obtain rfl | ⟨name, among, mem⟩ := Text.mem_joinWith mem
      next => exact ⟨by decide, by decide⟩
      next => exact (stays_of_mem_readPath among mem).1
    · intro name among
      rw [split] at among
      exact plain_of_mem_readPath among
  · rintro ⟨stays, plain⟩
    rw [readPath_slash, namesOf_of_stays stays, resolveDots_of_plain plain]
    exact Text.joinWith_splitOn '/' path

end Workbench.Url
