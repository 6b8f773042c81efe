import Mathlib.Data.FinEnum
import Mathlib.Data.List.DropRight
import Workbench.Http.Forwardable
import Workbench.Proofs.Http.Header
import Workbench.Proofs.Text.Split

set_option autoImplicit false

namespace Workbench.Http

def comma : UInt8 := 0x2C

def isBlankByte (byte : UInt8) : Bool := byte = 0x20 || byte = 0x09

def itemsIn (value : List UInt8) : List (List UInt8) :=
  (value.splitOn comma).map fun item => (item.dropWhile isBlankByte).rdropWhile isBlankByte

def Lists (value : List UInt8) (name : String) : Prop :=
  ∃ item ∈ itemsIn value, alike item name = true

instance (value : List UInt8) (name : String) : Decidable (Lists value name) :=
  inferInstanceAs (Decidable (∃ item ∈ itemsIn value, alike item name = true))

def IsVisible (value : List UInt8) : Prop := ∀ byte ∈ value, isVisibleByte byte = true

instance (value : List UInt8) : Decidable (IsVisible value) :=
  inferInstanceAs (Decidable (∀ byte ∈ value, isVisibleByte byte = true))

def IsName (name : String) : Prop := headerName? name.toList = some name

instance (name : String) : Decidable (IsName name) :=
  inferInstanceAs (Decidable (headerName? name.toList = some name))

namespace Headers

-- Is a name listed by some value of `Connection`?
def Listed (headers : Headers) (name : String) : Prop :=
  ∃ value ∈ headers.values "connection", Lists value name

-- As `Listed`, by a value of visible characters.
def ListedVisibly (headers : Headers) (name : String) : Prop :=
  ∃ value ∈ headers.values "connection", IsVisible value ∧ Lists value name

instance (headers : Headers) (name : String) : Decidable (headers.Listed name) :=
  inferInstanceAs (Decidable (∃ value ∈ headers.values "connection", Lists value name))

instance (headers : Headers) (name : String) : Decidable (headers.ListedVisibly name) :=
  inferInstanceAs
    (Decidable (∃ value ∈ headers.values "connection", IsVisible value ∧ Lists value name))

end Headers

def charOf (byte : UInt8) : Char := Char.ofNat byte.toNat

theorem charOf_eq_iff (left right : UInt8) : charOf left = charOf right ↔ left = right :=
  ⟨fun same => char_of_byte_injective same, congrArg charOf⟩

theorem splitOn_map_charOf (value : List UInt8) :
    Text.splitOn ',' (value.map charOf) = (value.splitOn comma).map (List.map charOf) := by
  rw [Text.splitOn_eq]
  induction value with
  | nil => rfl
  | cons byte rest ih =>
      have mark : charOf comma = ',' := by decide
      rw [List.map_cons, List.splitOn_cons_eq_if_modifyHead, List.splitOn_cons_eq_if_modifyHead,
        ih]
      simp only [beq_iff_eq, ← mark, charOf_eq_iff]
      split
      next => rfl
      next =>
        cases List.splitOn comma rest <;> rfl

theorem isBlank_charOf {byte : UInt8} (visible : isVisibleByte byte = true) :
    Text.isBlank (charOf byte) = isBlankByte byte := by
  have all : ∀ byte : UInt8, isVisibleByte byte = true →
      Text.isBlank (charOf byte) = isBlankByte byte := by decide +kernel
  exact all byte visible

theorem dropWhile_map_charOf {item : List UInt8} (visible : IsVisible item) :
    (item.map charOf).dropWhile Text.isBlank = (item.dropWhile isBlankByte).map charOf := by
  induction item with
  | nil => rfl
  | cons byte rest ih =>
      obtain ⟨first, others⟩ := List.forall_mem_cons.mp visible
      rw [List.map_cons, List.dropWhile_cons, List.dropWhile_cons, isBlank_charOf first, ih others]
      split <;> rfl

theorem trim_map_charOf {item : List UInt8} (visible : IsVisible item) :
    Text.trim (item.map charOf) =
      ((item.dropWhile isBlankByte).rdropWhile isBlankByte).map charOf := by
  have behind : IsVisible (item.dropWhile isBlankByte).reverse := by
    intro byte inside
    exact visible byte ((List.dropWhile_suffix _).subset (List.mem_reverse.mp inside))
  rw [Text.trim, Text.trimStart, Text.trimEnd, dropWhile_map_charOf visible, ← List.map_reverse,
    dropWhile_map_charOf behind, List.rdropWhile, List.map_reverse]

theorem toLower_charOf : ∀ byte : UInt8, (charOf byte).toLower = charOf (lowerByte byte) := by
  decide +kernel

theorem isNameChar_charOf : ∀ byte : UInt8,
    isNameChar (charOf (lowerByte byte)) = isNameChar (charOf byte) := by
  decide +kernel

theorem isVisible_of_isNameChar {char : Char} (named : isNameChar char = true) :
    isVisible char = true := by
  have marks : ∀ mark ∈ "!#$%&'*+-.^_`|~".toList, isVisible mark = true := by
    simp [isVisible]
  rw [isNameChar, Bool.or_eq_true, List.contains_iff_mem] at named
  obtain alphanum | mark := named
  next =>
    have first : '0'.val.toNat = 48 ∧ 'A'.val.toNat = 65 ∧ 'a'.val.toNat = 97 := by decide
    have last : '9'.val.toNat = 57 ∧ 'Z'.val.toNat = 90 ∧ 'z'.val.toNat = 122 := by decide
    have code : char.toNat = char.val.toNat := rfl
    delta Char.isAlphanum Char.isAlpha Char.isUpper Char.isLower Char.isDigit at alphanum
    simp only [Bool.or_eq_true, Bool.and_eq_true, decide_eq_true_eq, ge_iff_le,
      UInt32.le_iff_toNat_le] at alphanum
    simp only [isVisible, Bool.and_eq_true, decide_eq_true_eq]
    omega
  next => exact marks char mark

structure SpellsName (text : List Char) : Prop where
  nonempty : text ≠ []
  length_le : text.length ≤ maxNameLength
  named : ∀ char ∈ text, isNameChar char = true

theorem headerName?_eq_some_iff (text : List Char) (name : String) :
    headerName? text = some name ↔
      SpellsName text ∧ text.map Char.toLower = name.toList := by
  have spells : (!text.isEmpty && text.length ≤ maxNameLength && text.all isNameChar) = true ↔
      SpellsName text := by
    simp only [Bool.and_eq_true, Bool.not_eq_true', List.isEmpty_eq_false_iff, decide_eq_true_eq,
      List.all_eq_true, and_assoc]
    exact ⟨fun ⟨nonempty, length, named⟩ => ⟨nonempty, length, named⟩,
      fun ⟨nonempty, length, named⟩ => ⟨nonempty, length, named⟩⟩
  rw [headerName?, ← spells]
  split
  next holds =>
    rw [Option.some.injEq, ← String.toList_inj, String.toList_ofList]
    simp [holds]
  next fails => simp [fails]

theorem map_charOf_of_isName {name : String} (valid : IsName name) :
    name.toUTF8.toList.map charOf = name.toList := by
  obtain ⟨spells, _⟩ := (headerName?_eq_some_iff _ _).mp valid
  have visible : ∀ char ∈ name.toList, isVisible char = true := fun char inside =>
    isVisible_of_isNameChar (spells.named char inside)
  have read := visibleText?_bytesOf visible
  rw [Text.Percent.bytesOf, String.ofList_toList, visibleText?] at read
  split at read
  next => exact Option.some.inj read
  next => contradiction

theorem alike_iff {name : String} (valid : IsName name) (item : List UInt8) :
    alike item name = true ↔ (item.map charOf).map Char.toLower = name.toList := by
  obtain ⟨_, lower⟩ := (headerName?_eq_some_iff _ _).mp valid
  have lowered (bytes : List UInt8) :
      (bytes.map charOf).map Char.toLower = (bytes.map lowerByte).map charOf := by
    simp only [List.map_map]
    exact List.map_congr_left fun byte _ => toLower_charOf byte
  have injective : Function.Injective (List.map charOf) :=
    List.map_injective_iff.mpr char_of_byte_injective
  rw [alike, decide_eq_true_eq, ← injective.eq_iff, ← lowered, ← lowered,
    map_charOf_of_isName valid, lower]

theorem headerName?_charOf_iff {name : String} (valid : IsName name) (item : List UInt8) :
    headerName? (item.map charOf) = some name ↔ alike item name = true := by
  obtain ⟨spells, _⟩ := (headerName?_eq_some_iff _ _).mp valid
  rw [alike_iff valid, headerName?_eq_some_iff, and_iff_right_iff_imp]
  intro same
  rw [← same] at spells
  refine ⟨by simpa using spells.nonempty, by simpa using spells.length_le, ?_⟩
  intro char inside
  obtain ⟨byte, _, rfl⟩ := List.mem_map.mp inside
  rw [← isNameChar_charOf, ← toLower_charOf]
  exact spells.named _ (List.mem_map_of_mem inside)

theorem namesIn_of_not_visible {value : List UInt8} (other : ¬ IsVisible value) :
    namesIn value = [] := by
  have unread : visibleText? value = none := by
    rw [visibleText?, if_neg]
    rwa [List.all_eq_true]
  rw [namesIn, unread]

theorem IsVisible.of_mem_splitOn {value item : List UInt8} (visible : IsVisible value)
    (among : item ∈ value.splitOn comma) : IsVisible item := by
  intro byte inside
  have piece : item.map charOf ∈ Text.splitOn ',' (value.map charOf) := by
    rw [splitOn_map_charOf]
    exact List.mem_map_of_mem among
  have char := Text.mem_of_mem_splitOn piece (List.mem_map_of_mem inside)
  exact visible byte ((List.mem_map_of_injective char_of_byte_injective).mp char)

theorem mem_namesIn_iff {name : String} (valid : IsName name) (value : List UInt8) :
    name ∈ namesIn value ↔ IsVisible value ∧ Lists value name := by
  by_cases visible : IsVisible value
  next =>
    have read : visibleText? value = some (value.map charOf) := by
      rw [visibleText?, if_pos (List.all_eq_true.mpr visible)]
      rfl
    have item (piece : List UInt8) (among : piece ∈ value.splitOn comma) :
        headerName? (Text.trim (piece.map charOf)) = some name ↔
          alike ((piece.dropWhile isBlankByte).rdropWhile isBlankByte) name = true := by
      rw [trim_map_charOf (visible.of_mem_splitOn among), headerName?_charOf_iff valid]
    rw [namesIn, read]
    simp only [splitOn_map_charOf, List.mem_filterMap, Lists, itemsIn, List.mem_map,
      exists_exists_and_eq_and, visible, true_and]
    exact exists_congr fun piece => and_congr_right fun among => item piece among
  next => simp [namesIn_of_not_visible visible, visible]

namespace Headers

variable {headers : Headers} {name : String}

theorem mem_connectionNames_iff (valid : IsName name) (headers : Headers) :
    name ∈ headers.connectionNames ↔ headers.ListedVisibly name := by
  simp only [connectionNames, List.mem_flatMap, mem_namesIn_iff valid, ListedVisibly]

theorem forwardable_eq_filter (valid : ∀ header ∈ headers, IsName header.name) :
    headers.forwardable = headers.filter fun header =>
      header.name ∉ hopByHop ∧ ¬ headers.ListedVisibly header.name := by
  apply List.filter_congr
  intro header among
  simp [mem_connectionNames_iff (valid header among)]

theorem connectionNames_forwardable (headers : Headers) :
    headers.forwardable.connectionNames = [] := by
  have stopped : headers.forwardable.values "connection" = [] := by
    have stops : hopByHop.contains "connection" = true := by decide
    rw [values, List.map_eq_nil_iff, List.filter_eq_nil_iff]
    intro header among named
    have passed := (List.mem_filter.mp among).2
    rw [of_decide_eq_true named, stops] at passed
    contradiction
  rw [connectionNames, stopped, List.flatMap_nil]

theorem forwardable_forwardable (headers : Headers) :
    headers.forwardable.forwardable = headers.forwardable := by
  rw [forwardable, connectionNames_forwardable, List.filter_eq_self]
  intro header among
  have passed := (List.mem_filter.mp among).2
  rw [Bool.and_eq_true] at passed
  simpa using passed.1

theorem filter_eq_filter_iff {keep other : Header -> Bool} :
    headers.filter keep = headers.filter other ↔
      ∀ header ∈ headers, keep header = other header := by
  constructor
  · intro same header among
    have kept : header ∈ headers.filter keep ↔ header ∈ headers.filter other := by rw [same]
    simpa only [List.mem_filter, among, true_and, ← Bool.eq_iff_iff] using kept
  · exact List.filter_congr

/-- Passed on are the headers that are neither of the connection by their name nor listed in a
`Connection` value of visible characters, as they are and in their order. These are the headers
that are not listed at all exactly if each listed one is also kept back for another reason. -/
theorem forwardable_leaves_out_visibly_listed {headers : Headers}
    (valid : ∀ header ∈ headers, IsName header.name) :
    headers.forwardable =
        headers.filter (fun header =>
          header.name ∉ hopByHop ∧ ¬ headers.ListedVisibly header.name) ∧
      (headers.forwardable =
          headers.filter (fun header => header.name ∉ hopByHop ∧ ¬ headers.Listed header.name) ↔
        ∀ header ∈ headers, headers.Listed header.name →
          header.name ∈ hopByHop ∨ headers.ListedVisibly header.name) ∧
      headers.forwardable.forwardable = headers.forwardable := by
  have passed := forwardable_eq_filter valid
  refine ⟨passed, ?_, forwardable_forwardable headers⟩
  rw [passed, filter_eq_filter_iff]
  refine forall₂_congr fun header _ => ?_
  have weaker : headers.ListedVisibly header.name → headers.Listed header.name := by
    rintro ⟨value, among, _, lists⟩
    exact ⟨value, among, lists⟩
  rw [decide_eq_decide]
  tauto

def mixed : Headers :=
  [⟨"connection", [0x2C, 0x20, 0x58, 0x2D, 0x41, 0x09, 0x2C, 0x2C, 0x74, 0x65]⟩,
    ⟨"x-a", [0x31]⟩, ⟨"x-b", [0x32]⟩, ⟨"te", [0x33]⟩, ⟨"connection", [0x78, 0x2D, 0x63, 0xE9]⟩,
    ⟨"x-b", [0x34]⟩, ⟨"x-a", [0x35]⟩]

theorem mixed_leaves_repeated_name :
    (∀ header ∈ mixed, IsName header.name) ∧ mixed.ListedVisibly "x-a" ∧
      mixed.forwardable = [⟨"x-b", [0x32]⟩, ⟨"x-b", [0x34]⟩] ∧
      mixed.forwardable.forwardable = mixed.forwardable := by
  have valid : ∀ header ∈ mixed, IsName header.name := by decide +kernel
  obtain ⟨passed, _, again⟩ := forwardable_leaves_out_visibly_listed valid
  refine ⟨valid, by decide +kernel, ?_, again⟩
  rw [passed]
  decide +kernel

def accented : Headers :=
  [⟨"connection", [0x78, 0x2D, 0x73, 0x69, 0x64, 0x2C, 0x20, 0xE9]⟩, ⟨"x-sid", [0x31]⟩,
    ⟨"accept", [0x2A]⟩]

theorem accented_list_is_passed_over :
    (∀ header ∈ accented, IsName header.name) ∧ accented.Listed "x-sid" ∧
      ⟨"x-sid", [0x31]⟩ ∈ accented.forwardable ∧
      accented.forwardable ≠ accented.filter (fun header =>
        header.name ∉ hopByHop ∧ ¬ accented.Listed header.name) := by
  decide +kernel

end Headers

end Workbench.Http
