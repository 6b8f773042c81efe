import Mathlib.Data.List.Infix
import Workbench.Proofs.Text.Percent
import Workbench.Url.Parser

set_option autoImplicit false

namespace Workbench.Url

open Text.Percent (encode hexDigit)

def doubleDots : List (List Char) :=
  ["..", ".%2e", "%2e.", "%2e%2e"].map String.toList

def dotNames : List (List Char) :=
  [".", "%2e"].map String.toList ++ doubleDots

def isDots (name : List Char) : Bool :=
  isDoubleDot name || isDot name

theorem contains_ofList_iff (names : List String) (name : List Char) :
    names.contains (String.ofList name) = true ↔ name ∈ names.map String.toList := by
  rw [List.contains_iff_mem, List.mem_map]
  constructor
  · intro among
    exact ⟨_, among, String.toList_ofList⟩
  · rintro ⟨text, among, rfl⟩
    rwa [String.ofList_toList]

theorem isDoubleDot_iff (name : List Char) :
    isDoubleDot name = true ↔ name.map Char.toLower ∈ doubleDots := by
  rw [isDoubleDot, contains_ofList_iff, doubleDots]
  simp only [List.map_cons, List.map_nil, List.mem_cons, List.not_mem_nil, or_false]
  tauto

theorem isDots_iff (name : List Char) :
    isDots name = true ↔ name.map Char.toLower ∈ dotNames := by
  rw [isDots, Bool.or_eq_true, isDoubleDot_iff, isDot, contains_ofList_iff, dotNames,
    List.mem_append, or_comm]

theorem byte_eq_dot {byte : UInt8} (high : (hexDigit (byte.toNat / 16)).toLower = '2')
    (low : (hexDigit (byte.toNat % 16)).toLower = 'e') : byte.toNat = '.'.toNat := by
  have two : ∀ value < 16, (hexDigit value).toLower = '2' → value = 2 := by decide
  have fourteen : ∀ value < 16, (hexDigit value).toLower = 'e' → value = 14 := by decide
  have size := byte.toNat_lt
  have first := two _ (by omega) high
  have second := fourteen _ (by omega) low
  have dot : '.'.toNat = 46 := rfl
  omega

theorem isDoubleDot_of_encode {name : List Char}
    (double : isDoubleDot (encode keptInPath name) = true) : isDoubleDot name = true := by
  by_cases kept : ∀ char ∈ name, keptInPath char = true
  next => rwa [Text.Percent.encode_of_kept kept] at double
  next =>
    simp only [not_forall, Bool.not_eq_true] at kept
    obtain ⟨char, mem, encoded⟩ := kept
    obtain ⟨before, after, rfl⟩ := List.append_of_mem mem
    obtain ⟨byte, rest, among, begins⟩ := Text.Percent.encodeChar_of_not_kept encoded
    have percents : ∀ text ∈ doubleDots, ∀ tail ∈ text.tails, tail.head? = some '%' →
        tail.take 3 = "%2e".toList := by decide
    rw [isDoubleDot_iff, Text.Percent.encode_append, Text.Percent.encode_cons, begins] at double
    simp only [List.map_append] at double
    have tail := percents _ double _ ((List.mem_tails _ _).mpr (List.suffix_append _ _)) rfl
    obtain ⟨_, digits⟩ := List.cons.inj tail
    obtain ⟨high, digits⟩ := List.cons.inj digits
    obtain ⟨low, _⟩ := List.cons.inj digits
    have dot := byte_eq_dot high low
    have ascii : byte.toNat < 0x80 := by
      rw [dot]
      decide
    have same : char = '.' := by
      rw [← Char.toNat_inj, Text.Percent.code_of_mem_utf8EncodeChar among ascii, dot]
    rw [same] at encoded
    exact absurd encoded (by decide)

def passName (above : List (List Char)) (name : List Char) : List (List Char) :=
  if isDoubleDot name then goUp above
  else if isDot name then above
  else name :: above

theorem resolveDots_cons (above rest : List (List Char)) (name : List Char) :
    resolveDots above (name :: rest) =
      if rest = [] ∧ isDots name = true then ([] :: passName above name).reverse
      else resolveDots (passName above name) rest := by
  rw [resolveDots]
  exact if_congr (by simp [isDots]) rfl rfl

theorem passName_of_plain {name : List Char} (plain : isDots name = false)
    (above : List (List Char)) : passName above name = name :: above := by
  rw [isDots, Bool.or_eq_false_iff] at plain
  simp [passName, plain.1, plain.2]

theorem passName_of_not_doubleDot {name : List Char} (stays : isDoubleDot name = false)
    (above : List (List Char)) :
    passName above name = if isDot name then above else name :: above := by
  simp [passName, stays]

theorem goUp_subset (above : List (List Char)) : goUp above ⊆ above := by
  cases above with
  | nil => exact List.Subset.refl _
  | cons name rest =>
      rw [goUp]
      split
      next => exact List.Subset.refl _
      next => exact List.subset_cons_self name rest

theorem mem_passName {above : List (List Char)} {name other : List Char}
    (mem : other ∈ passName above name) :
    other ∈ above ∨ other = name ∧ isDots name = false := by
  rw [passName] at mem
  split at mem
  next => exact .inl (goUp_subset above mem)
  next noDouble =>
    split at mem
    next => exact .inl mem
    next noDot =>
      obtain rfl | old := List.mem_cons.mp mem
      next => exact .inr ⟨rfl, by simp [isDots, noDouble, noDot]⟩
      next => exact .inl old

theorem resolveDots_of_plain {above names : List (List Char)}
    (plain : ∀ name ∈ names, isDots name = false) :
    resolveDots above names = above.reverse ++ names := by
  induction names generalizing above with
  | nil => simp [resolveDots]
  | cons name rest ih =>
      rw [List.forall_mem_cons] at plain
      rw [resolveDots_cons, passName_of_plain plain.1, ih plain.2]
      simp [plain.1]

theorem mem_resolveDots {above names : List (List Char)} {name : List Char}
    (mem : name ∈ resolveDots above names) :
    name ∈ above ∨ name = [] ∨ name ∈ names ∧ isDots name = false := by
  induction names generalizing above with
  | nil =>
      rw [resolveDots, List.mem_reverse] at mem
      exact .inl mem
  | cons first rest ih =>
      rw [resolveDots_cons] at mem
      have passed : name ∈ passName above first →
          name ∈ above ∨ name = [] ∨ name ∈ first :: rest ∧ isDots name = false := by
        intro left
        obtain old | ⟨rfl, plain⟩ := mem_passName left
        next => exact .inl old
        next => exact .inr (.inr ⟨List.mem_cons_self, plain⟩)
      split at mem
      next =>
        rw [List.mem_reverse, List.mem_cons] at mem
        obtain empty | left := mem
        next => exact .inr (.inl empty)
        next => exact passed left
      next =>
        obtain left | empty | ⟨behind, plain⟩ := ih mem
        next => exact passed left
        next => exact .inr (.inl empty)
        next => exact .inr (.inr ⟨List.mem_cons_of_mem _ behind, plain⟩)

-- Without a step up nothing that is there is lost, and a path goes on behind it.
theorem resolveDots_of_no_doubleDot {names : List (List Char)} (above : List (List Char))
    (stays : ∀ name ∈ names, isDoubleDot name = false) :
    ∃ behind, resolveDots above names = above.reverse ++ behind ∧ (names ≠ [] → behind ≠ []) := by
  induction names generalizing above with
  | nil => exact ⟨[], by simp [resolveDots], fun impossible => impossible⟩
  | cons name rest ih =>
      rw [List.forall_mem_cons] at stays
      rw [resolveDots_cons, passName_of_not_doubleDot stays.1]
      by_cases dot : isDot name = true
      next =>
        rw [if_pos dot]
        split
        next => exact ⟨[[]], by simp, by simp⟩
        next more =>
          obtain ⟨behind, found, goesOn⟩ := ih above stays.2
          have remaining : rest ≠ [] := by
            intro empty
            exact more ⟨empty, by simp [isDots, dot]⟩
          exact ⟨behind, found, fun _ => goesOn remaining⟩
      next =>
        rw [if_neg dot, if_neg (by simp [isDots, stays.1, dot])]
        obtain ⟨behind, found, _⟩ := ih (name :: above) stays.2
        exact ⟨name :: behind, by simp [found], by simp⟩

theorem resolveDots_ne_nil (above : List (List Char)) {names : List (List Char)}
    (nonempty : names ≠ []) : resolveDots above names ≠ [] := by
  induction names generalizing above with
  | nil => contradiction
  | cons name rest ih =>
      rw [resolveDots_cons]
      split
      next => simp
      next more =>
        by_cases empty : rest = []
        next =>
          have plain : isDots name = false := by
            rw [← Bool.not_eq_true]
            exact fun dots => more ⟨empty, dots⟩
          rw [empty, resolveDots, passName_of_plain plain]
          simp
        next => exact ih _ empty

end Workbench.Url
