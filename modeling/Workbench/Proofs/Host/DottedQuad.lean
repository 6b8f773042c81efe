import Workbench.Host.Ipv4
import Workbench.Proofs.Text.Decimal
import Workbench.Proofs.Text.Split

set_option autoImplicit false

namespace Workbench.Ipv4

theorem octet?_eq_some_iff (text : List Char) (octet : UInt8) :
    octet? text = some octet ↔ text = octetText octet := by
  simp only [octet?, Option.map_eq_some_iff, Option.filter_eq_some_iff, decide_eq_true_eq,
    Text.plainNumber?_ten_eq_some_iff]
  constructor
  · rintro ⟨number, ⟨rfl, small⟩, rfl⟩
    rw [octetText, Nat.toUInt8_eq, UInt8.toNat_ofNat_of_lt' small]
  · rintro rfl
    exact ⟨octet.toNat, ⟨rfl, octet.toNat_lt⟩, by simp⟩

theorem dot_not_mem_octetText (octet : UInt8) : '.' ∉ octetText octet := by
  intro dot
  have digit := Nat.isDigit_of_mem_toDigits (by decide) (by decide) dot
  contradiction

theorem mapM_octet?_eq_some_iff (pieces : List (List Char)) (octets : List UInt8) :
    pieces.mapM octet? = some octets ↔ pieces = octets.map octetText := by
  induction pieces generalizing octets with
  | nil => cases octets <;> simp
  | cons piece rest ih =>
      cases octets with
      | nil => simp [List.mapM_cons, Option.bind_eq_some_iff]
      | cons octet others =>
          simp [List.mapM_cons, Option.bind_eq_some_iff, octet?_eq_some_iff, ih]

theorem splitOn_text (address : Ipv4) :
    Text.splitOn '.' address.text = address.octets.map octetText := by
  refine Text.splitOn_joinWith ?_ (by simp [octets])
  intro piece member
  obtain ⟨octet, -, rfl⟩ := List.mem_map.mp member
  exact dot_not_mem_octetText octet

theorem parse?_eq_some_iff (text : List Char) (address : Ipv4) :
    parse? text = some address ↔ text = address.text := by
  have read (octets : List UInt8) := mapM_octet?_eq_some_iff (Text.splitOn '.' text) octets
  constructor
  · intro parsed
    unfold parse? at parsed
    split at parsed
    next first second third fourth found =>
      obtain rfl := Option.some.inj parsed
      rw [read] at found
      rw [← Text.joinWith_splitOn '.' text, found]
      rfl
    next => contradiction
  · rintro rfl
    unfold parse?
    rw [(read address.octets).mpr (splitOn_text address)]
    rfl

theorem parse?_eq_none_iff (text : List Char) :
    parse? text = none ↔ ∀ address : Ipv4, text ≠ address.text := by
  simp [Option.eq_none_iff_forall_ne_some, parse?_eq_some_iff]

end Workbench.Ipv4
