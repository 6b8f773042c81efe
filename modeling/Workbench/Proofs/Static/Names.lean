import Workbench.Proofs.Files.Reached
import Workbench.Proofs.Static.Part
import Workbench.Proofs.Text.Decoded

set_option autoImplicit false

namespace Workbench.Assets

open Text (byteLength byteLength_eq joinWith)
open Text.Percent (bytesOf decode decodeText? text?_eq_some_iff)

theorem names?_eq_some_iff (path : Path) (names : List (List Char)) :
    names? path = some names ↔ path.components.filter (· ≠ .current) = names.map .name := by
  unfold names?
  generalize path.components = components
  induction components generalizing names with
  | nil => cases names <;> simp
  | cons component rest ih =>
      rw [List.foldr_cons]
      generalize List.foldr _ (some []) rest = read at ih ⊢
      cases component with
      | root | parent => cases names <;> simp
      | current => simpa using ih names
      | name text => cases names <;> simp [Option.bind_eq_some_iff, ih, and_comm]

theorem names_of_names? {path : Path} {names : List (List Char)}
    (read : names? path = some names) : path.names = names := by
  rw [names?_eq_some_iff] at read
  have kept : (path.components.filter (· ≠ .current)).filterMap Path.Component.name? =
      path.components.filterMap Path.Component.name? := by
    rw [List.filterMap_filter]
    congr 1
    funext component
    cases component <;> rfl
  rw [Path.names_eq, ← kept, read, Path.filterMap_name?]

theorem named_of_names? {path : Path} {names : Place} (read : names? path = some names) :
    names.Named := by
  intro name among
  have written : .name name ∈ names.map Path.Component.name := List.mem_map_of_mem among
  rw [← (names?_eq_some_iff path names).mp read] at written
  exact Path.isName_of_mem_components (List.mem_of_mem_filter written)

theorem names?_joinWith {names : Place} (named : names.Named) (nonempty : names ≠ []) :
    names? ⟨joinWith '/' names⟩ = some names := by
  rw [names?_eq_some_iff, Place.components_joinWith named nonempty, List.filter_eq_self]
  simp

theorem byteLength_names_le {text decoded : List Char} {names : List (List Char)}
    (read : decodeText? text = some decoded) (named : names? ⟨decoded⟩ = some names) :
    byteLength (joinWith '/' names) ≤ (decode (bytesOf text)).length := by
  have pieces := Path.names_sublist_pieces ⟨decoded⟩
  have part := Text.joinWith_sublist '/' pieces
  rw [names_of_names? named, Path.pieces, Text.joinWith_splitOn] at part
  rw [decodeText?, text?_eq_some_iff] at read
  rw [read, ← byteLength_eq]
  exact Text.byteLength_le_of_sublist part

variable {assets : Assets} {path file : Path} {content : ByteArray}

theorem filePath?_eq_some_iff (assets : Assets) (text : List Char) (path : Path) :
    assets.filePath? text = some path ↔
      ∃ decoded names, decodeText? (text.dropWhile (· = '/')) = some decoded ∧
        names? ⟨decoded⟩ = some names ∧ assets.base.joinAll names = path := by
  simp only [filePath?, Option.bind_eq_bind, Option.bind_eq_some_iff, Option.pure_def,
    Option.some.injEq]
  constructor
  · rintro ⟨decoded, read, names, named, whole⟩
    exact ⟨decoded, names, read, named, whole⟩
  · rintro ⟨decoded, names, read, named, whole⟩
    exact ⟨decoded, read, names, named, whole⟩

theorem find_eq_file_iff :
    assets.find path = .file file content ↔ Char.ofNat 0 ∉ path.text ∧ file = path ∧
      ∃ place, assets.tree.resolve assets.directory path = .ok (place, .file content) := by
  unfold find
  by_cases nul : Char.ofNat 0 ∈ path.text
  · simp [nul]
  · cases led : assets.tree.resolve assets.directory path with
    | error missing => cases missing <;> simp [nul]
    | ok found =>
        obtain ⟨place, node⟩ := found
        cases node with
        | directory => simp [nul]
        | file stored => simp [nul, eq_comm]

theorem leads_eq_file_iff (text : List Char) :
    assets.leads text = .file file content ↔ ∃ path, assets.filePath? text = some path ∧
      (assets.find path = .file file content ∨
        assets.find path = .directory ∧ text.getLast? = some '/' ∧
          assets.find (path.join ⟨indexPage⟩) = .file file content) := by
  unfold leads
  cases named : assets.filePath? text with
  | none => simp
  | some path =>
      cases found : assets.find path with
      | directory =>
          by_cases slash : text.getLast? = some '/'
          · have index : assets.findIndex path = .file file content ↔
                assets.find (path.join ⟨indexPage⟩) = .file file content := by
              unfold findIndex
              split
              next found => simp [found]
              next => rfl
            simp [found, slash, index]
          · simp [found, slash]
      | file _ _ | nothing | tooLong => simp [found]

end Workbench.Assets
