import Workbench.Proofs.Http.Target
import Workbench.Proofs.Url.Path

set_option autoImplicit false

namespace Workbench.Url

open Http.Uri (Holds isPathChar isQueryChar)
open Text (markedBy)
open Text.Percent (encode)

theorem eq_iff_code (char other : Char) : char = other ↔ char.toNat = other.toNat :=
  Char.toNat_inj.symm

section
variable (char : Char)

theorem keptInPath_iff : keptInPath char = true ↔
    0x21 ≤ char.toNat ∧ char.toNat ≤ 0x7E ∧
      char.toNat ∉ [0x22, 0x23, 0x3C, 0x3E, 0x3F, 0x60, 0x7B, 0x7D] := by
  simp [keptInPath, keptInFragment, isPlain, eq_iff_code]
  omega

theorem keptInQuery_iff : keptInQuery char = true ↔
    0x21 ≤ char.toNat ∧ char.toNat ≤ 0x7E ∧ char.toNat ∉ [0x22, 0x23, 0x27, 0x3C, 0x3E] := by
  simp [keptInQuery, isPlain, eq_iff_code]
  omega

theorem isPathChar_iff : isPathChar char = true ↔
    0x21 ≤ char.toNat ∧ char.toNat ∉ [0x23, 0x3C, 0x3E, 0x3F, 0x60, 0x7F] := by
  simp [isPathChar, eq_iff_code]
  omega

theorem isQueryChar_iff : isQueryChar char = true ↔
    0x21 ≤ char.toNat ∧ char.toNat ∉ [0x22, 0x23, 0x3C, 0x3E, 0x7F] := by
  simp [isQueryChar]
  omega

end

theorem visible_of_holds {path : List Char} {query : Option (List Char)}
    (holds : Holds path query) :
    ∀ char ∈ path ++ markedBy '?' query, 0x20 < char.toNat := by
  intro char mem
  obtain mem | mem := List.mem_append.mp mem
  next => exact ((isPathChar_iff char).mp (holds.path char mem)).1
  next =>
    cases query with
    | none => contradiction
    | some text =>
        obtain rfl | mem := List.mem_cons.mp mem
        next => decide
        next => exact ((isQueryChar_iff char).mp (holds.query text rfl char mem)).1

theorem isPathChar_of_keptInPath {char : Char} (kept : keptInPath char = true) :
    isPathChar char = true := by
  rw [keptInPath_iff] at kept
  rw [isPathChar_iff]
  grind

theorem isQueryChar_of_keptInQuery {char : Char} (kept : keptInQuery char = true) :
    isQueryChar char = true := by
  rw [keptInQuery_iff] at kept
  rw [isQueryChar_iff]
  grind

def changedInPath : List Char := ['"', '\\', '\x7b', '\x7d']

theorem staysInPath_iff {char : Char} (inPath : isPathChar char = true) :
    StaysInPath char ↔ char ∉ changedInPath ∧ char.toNat < 0x7F := by
  have codes : char ∉ changedInPath ↔ char.toNat ∉ [0x22, 0x5C, 0x7B, 0x7D] := by
    simp [changedInPath, eq_iff_code]
  have backslash : char ≠ '\\' ↔ char.toNat ≠ 0x5C := not_congr (eq_iff_code char '\\')
  rw [isPathChar_iff] at inPath
  rw [StaysInPath, keptInPath_iff, codes, backslash]
  grind

theorem keptInQuery_iff_of_isQueryChar {char : Char} (inQuery : isQueryChar char = true) :
    keptInQuery char = true ↔ char ≠ '\'' ∧ char.toNat < 0x7F := by
  have apostrophe : char ≠ '\'' ↔ char.toNat ≠ 0x27 := not_congr (eq_iff_code char '\'')
  rw [isQueryChar_iff] at inQuery
  rw [keptInQuery_iff, apostrophe]
  grind

theorem holds_of_read (path : List Char) (query : Option (List Char)) :
    Holds ('/' :: Text.joinWith '/' (readPath ('/' :: path))) (query.map (encode keptInQuery)) := by
  constructor
  · intro char mem
    obtain rfl | mem := List.mem_cons.mp mem
    next => decide
    next =>
      obtain rfl | ⟨name, among, mem⟩ := Text.mem_joinWith mem
      next => decide
      next => exact isPathChar_of_keptInPath (stays_of_mem_readPath among mem).1.1
  · intro text same char mem
    obtain ⟨raw, _, rfl⟩ := Option.map_eq_some_iff.mp same
    exact isQueryChar_of_keptInQuery
      (Text.Percent.kept_of_mem_encode query_keeps_marks mem)

end Workbench.Url
