import Workbench.Http.Message
import Workbench.Proofs.Text.Utf8

set_option autoImplicit false

namespace Workbench.Http

open Text.Percent (bytesOf bytesOf_eq_flatMap)

def isVisible (char : Char) : Bool :=
  0x20 ≤ char.toNat && char.toNat < 0x7F

theorem utf8EncodeChar_of_visible {char : Char} (visible : isVisible char = true) :
    String.utf8EncodeChar char = [char.toNat.toUInt8] := by
  simp only [isVisible, Bool.and_eq_true, decide_eq_true_eq] at visible
  exact Text.utf8EncodeChar_of_ascii (by omega)

theorem bytesOf_of_visible {text : List Char} (visible : ∀ char ∈ text, isVisible char = true) :
    bytesOf text = text.map fun char => char.toNat.toUInt8 := by
  rw [bytesOf_eq_flatMap]
  induction text with
  | nil => rfl
  | cons char rest ih =>
      rw [List.forall_mem_cons] at visible
      rw [List.flatMap_cons, utf8EncodeChar_of_visible visible.1, ih visible.2]
      rfl

theorem visibleText?_bytesOf {text : List Char} (visible : ∀ char ∈ text, isVisible char = true) :
    visibleText? (bytesOf text) = some text := by
  have byte : ∀ char ∈ text, isVisibleByte char.toNat.toUInt8 = true ∧
      Char.ofNat char.toNat.toUInt8.toNat = char := by
    intro char member
    have bounds := visible char member
    simp only [isVisible, Bool.and_eq_true, decide_eq_true_eq] at bounds
    have code := Text.toNat_toUInt8_of_ascii (show char.toNat < 0x80 by omega)
    constructor
    next =>
      simp only [isVisibleByte, Bool.or_eq_true, Bool.and_eq_true, decide_eq_true_eq,
        UInt8.le_iff_toNat_le, UInt8.lt_iff_toNat_lt, code]
      exact .inl bounds
    next => rw [code, Char.ofNat_toNat]
  rw [bytesOf_of_visible visible, visibleText?, if_pos, List.map_map]
  next =>
    exact congrArg some
      ((List.map_congr_left fun char member => (byte char member).2).trans (List.map_id text))
  next =>
    rw [List.all_map, List.all_eq_true]
    exact fun char member => (byte char member).1

theorem value_ofText (name text : String) :
    (Header.ofText name text).value = bytesOf text.toList := by
  rw [bytesOf, String.ofList_toList]
  rfl

theorem char_of_byte_injective : Function.Injective fun byte : UInt8 => Char.ofNat byte.toNat := by
  intro left right same
  have code : ∀ byte : UInt8, (Char.ofNat byte.toNat).toNat = byte.toNat := by
    intro byte
    have small := byte.toNat_lt
    rw [Char.ofNat, dif_pos (.inl (by omega))]
    rfl
  rw [← UInt8.toNat_inj, ← code left, ← code right]
  exact congrArg Char.toNat same

theorem isPrefixOf_visibleText?_iff {value : List UInt8} {text : List Char}
    (read : visibleText? value = some text) (front : List UInt8) :
    (front.map fun byte => Char.ofNat byte.toNat).isPrefixOf text = true ↔ front <+: value := by
  unfold visibleText? at read
  split at read
  next =>
    rw [← Option.some.inj read, List.isPrefixOf_iff_prefix,
      List.prefix_map_iff_of_injective char_of_byte_injective]
  next => contradiction

namespace Headers

variable {headers : Headers} {header : Header} {name : String}

theorem has_eq_false_iff : headers.has name = false ↔ headers.values name = [] := by
  simp [has, values]

theorem without_addMissing_same (headers : Headers) (header : Header) :
    (headers.addMissing header).without header.name = headers.without header.name := by
  unfold addMissing
  split
  next => rfl
  next => simp [without]

theorem values_without_same (headers : Headers) (name : String) :
    (headers.without name).values name = [] := by
  simp [values, without]

theorem without_without_same (headers : Headers) (name : String) :
    (headers.without name).without name = headers.without name := by
  simp [without, List.filter_filter]

theorem values_without_of_ne {other : String} (differs : other ≠ name) (headers : Headers) :
    (headers.without other).values name = headers.values name := by
  simp only [values, without, List.filter_filter]
  congr 2
  funext header
  grind

theorem values_addMissing_of_ne (differs : header.name ≠ name) (headers : Headers) :
    (headers.addMissing header).values name = headers.values name := by
  unfold addMissing
  split
  next => rfl
  next => simp [values, differs]

theorem values_addMissing_same (missing : headers.values header.name = []) :
    (headers.addMissing header).values header.name = [header.value] := by
  rw [addMissing, has_eq_false_iff.mpr missing]
  simp [values] at missing ⊢
  exact missing

theorem without_addMissing_of_ne (differs : header.name ≠ name) (headers : Headers) :
    (headers.addMissing header).without name = (headers.without name).addMissing header := by
  have same : (headers.without name).has header.name = headers.has header.name := by
    rw [Bool.eq_iff_iff, ← not_iff_not, Bool.not_eq_true, Bool.not_eq_true, has_eq_false_iff,
      has_eq_false_iff, values_without_of_ne differs.symm]
  unfold addMissing
  rw [same]
  split
  next => rfl
  next => simp [without, differs]

end Headers

namespace Response

theorem status_sealed (response : Response) (method : String) :
    (response.sealed method).status = response.status := by
  unfold sealed measured
  dsimp only
  split_ifs <;> rfl

theorem body_sealed_get (response : Response) : (response.sealed "GET").body = response.body := by
  simp only [sealed, measured]
  split_ifs <;> first | rfl | contradiction

theorem without_sealed (response : Response) (method : String) :
    (response.sealed method).headers.without contentLength =
      response.headers.without contentLength := by
  have length := Headers.without_addMissing_same response.headers
    (.ofText contentLength (toString response.body.size))
  unfold sealed measured
  dsimp only
  split_ifs
  all_goals first | rfl | exact length

theorem values_sealed {name : String} (other : name ≠ contentLength) (response : Response)
    (method : String) :
    (response.sealed method).headers.values name = response.headers.values name := by
  rw [← Headers.values_without_of_ne other.symm, without_sealed,
    Headers.values_without_of_ne other.symm]

theorem length_sealed_get {response : Response} (known : response.streamed = false)
    (missing : response.headers.values contentLength = []) :
    (response.sealed "GET").headers.values contentLength =
      [(Header.ofText contentLength (toString response.body.size)).value] := by
  have stated : (response.headers.addMissing
      (.ofText contentLength (toString response.body.size))).values contentLength =
        [(Header.ofText contentLength (toString response.body.size)).value] :=
    Headers.values_addMissing_same missing
  simpa [sealed, measured, known] using stated

end Response

end Workbench.Http
