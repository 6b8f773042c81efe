import Workbench.Dev.Injection
import Workbench.Proofs.Http.Header
import Workbench.Proofs.Static.Whole
import Workbench.Proofs.Text.Letter

set_option autoImplicit false

namespace Workbench.Injection

open Http (Header Response contentLength contentType visibleText?)
open Text.Percent (bytesOf)

def Spells (text : List Char) (number : Nat) : Prop :=
  ∃ digits, (text = digits ∨ text = '+' :: digits) ∧ digits ≠ [] ∧
    (∀ digit ∈ digits, digit.isDigit = true) ∧
      Nat.ofDigits 10 (digits.reverse.map fun digit => digit.toNat - 48) = number

theorem Spells.visible {text : List Char} {number : Nat} (spells : Spells text number) :
    ∀ char ∈ text, Http.isVisible char = true := by
  obtain ⟨digits, written, -, all, -⟩ := spells
  have plain : ∀ char ∈ digits, Http.isVisible char = true := by
    intro char member
    have bounds := (Text.isDigit_iff char).mp (all char member)
    simp only [Http.isVisible, Bool.and_eq_true, decide_eq_true_eq]
    omega
  cases written with
  | inl bare => exact bare ▸ plain
  | inr signed => exact signed ▸ List.forall_mem_cons.mpr ⟨by decide, plain⟩

theorem spells_toString (number : Nat) : Spells (toString number).toList number :=
  ⟨_, .inl rfl, (Text.number?_ten_eq_some_iff _ _).mp (Text.number?_ten_toString number)⟩

theorem length?_eq_some_iff (text : List Char) (number : Nat) :
    length? text = some number ↔ Spells text number ∧ number < UInt64.size := by
  have bounded : number ≤ maxLength ↔ number < UInt64.size :=
    (Nat.lt_iff_le_pred (by decide)).symm
  simp only [length?, Option.filter_eq_some_iff, Text.number?_ten_eq_some_iff, decide_eq_true_eq,
    bounded]
  refine and_congr_left' ?_
  split
  next rest =>
    constructor
    next => exact fun read => ⟨rest, .inr rfl, read⟩
    next =>
      intro spells
      obtain ⟨digits, written, read⟩ := spells
      cases written with
      | inl bare =>
          have sign := read.2.1 '+' (bare ▸ List.mem_cons_self)
          exact absurd sign (by decide)
      | inr signed => exact (List.cons_inj_right '+').mp signed ▸ read
  next unsigned =>
    constructor
    next => exact fun read => ⟨text, .inl rfl, read⟩
    next =>
      intro spells
      obtain ⟨digits, written, read⟩ := spells
      cases written with
      | inl bare => exact bare ▸ read
      | inr signed => exact absurd signed (unsigned digits)

-- A length that a response states is that of its body.
def StatesLength (response : Response) : Prop :=
  ∀ value, response.headers.first? contentLength = some value →
    ∃ text, value = bytesOf text ∧ Spells text response.body.size

variable {response : Response}

theorem isSmall_iff (stated : StatesLength response) (sized : response.body.size < UInt64.size) :
    isSmall response = true ↔
      response.headers.first? contentLength = none ∨ response.body.size ≤ maxPage := by
  cases length : response.headers.first? contentLength with
  | none => simp [isSmall, length]
  | some value =>
      obtain ⟨text, rfl, spells⟩ := stated value length
      have read : length? text = some response.body.size :=
        (length?_eq_some_iff _ _).mpr ⟨spells, sized⟩
      simp [isSmall, length, Http.visibleText?_bytesOf spells.visible, read]

/-- A page survives in an answer of the same status: as it was, or with the script in it. Too
large a page, and one that is not text, has to stay as it was. -/
structure Survives (response answer : Response) : Prop where
  status : answer.status = response.status
  page : answer.body = response.body ∨ answer.body = inject response.body
  untouched : maxPage < response.body.size ∨ response.body.validateUTF8 = false →
    answer.body = response.body

-- A page that is lost, whose length nobody has stated before it is read.
def Overlooked (response : Response) : Prop :=
  response.headers.first? contentLength = none ∧ maxPage < response.body.size

theorem apply_of_fits (fits : response.body.size ≤ maxPage) :
    (apply response).status = response.status ∧
      (apply response).headers.without contentLength = response.headers.without contentLength ∧
      (apply response).body =
        if response.body.validateUTF8 then inject response.body else response.body := by
  unfold apply
  rw [if_neg (Nat.not_lt.mpr fits)]
  cases text : response.body.validateUTF8 with
  | false => exact ⟨rfl, rfl, rfl⟩
  | true => exact ⟨rfl, Http.Headers.without_without_same _ _, rfl⟩

theorem survives_of_fits (fits : response.body.size ≤ maxPage) :
    Survives response (apply response) := by
  obtain ⟨status, -, page⟩ := apply_of_fits fits
  cases text : response.body.validateUTF8 with
  | false =>
      have same : (apply response).body = response.body := by simpa [text] using page
      exact ⟨status, .inl same, fun _ => same⟩
  | true =>
      have scripted : (apply response).body = inject response.body := by simpa [text] using page
      exact ⟨status, .inr scripted, by simp [text, fits]⟩

theorem fits_of_wanted (taken : wanted response = true) (stated : StatesLength response)
    (sized : response.body.size < UInt64.size) (noticed : ¬ Overlooked response) :
    response.body.size ≤ maxPage := by
  simp only [wanted, Bool.and_eq_true] at taken
  obtain unstated | fits := (isSmall_iff stated sized).mp taken.2
  next => exact Nat.le_of_not_lt fun large => noticed ⟨unstated, large⟩
  next => exact fits

theorem first?_wholeFile (path : Path) (content : ByteArray) :
    (Assets.wholeFile path content).headers.first? contentLength =
      some (bytesOf (toString content.size).toList) := by
  rw [Http.Headers.first?, Assets.contentLength_wholeFile, List.head?_cons, Http.value_ofText]

theorem statesLength_wholeFile (path : Path) (content : ByteArray) :
    StatesLength (Assets.wholeFile path content) := by
  intro value stated
  rw [first?_wholeFile, Option.some_inj] at stated
  exact ⟨_, stated.symm, spells_toString content.size⟩

theorem not_overlooked_wholeFile (path : Path) (content : ByteArray) :
    ¬ Overlooked (Assets.wholeFile path content) := by
  intro overlooked
  have stated := first?_wholeFile path content
  rw [overlooked.1] at stated
  contradiction

/-- Whatever is taken for a page survives, unless it is too large and nobody has said so. What has
been found among the files says so. No body is so long that its length is not a number of 64
bits. -/
theorem taken_page_survives :
    (∀ response, wanted response = true → StatesLength response →
      response.body.size < UInt64.size → ¬ Overlooked response →
        Survives response (apply response) ∧ (apply response).status = 200 ∧
        response.body.size ≤ maxPage ∧
        (apply response).headers.without contentLength =
          response.headers.without contentLength ∧
        (apply response).body =
          if response.body.validateUTF8 then inject response.body else response.body) ∧
    ∀ (assets : Assets) (request : Http.Request), assets.tree.Sized →
      (assets.serve request).status = 200 →
        StatesLength (assets.serve request) ∧ (assets.serve request).body.size < UInt64.size ∧
        ¬ Overlooked (assets.serve request) := by
  constructor
  · intro response taken stated sized noticed
    have fits := fits_of_wanted taken stated sized noticed
    obtain ⟨status, kept⟩ := apply_of_fits fits
    simp only [wanted, Bool.and_eq_true, decide_eq_true_eq] at taken
    exact ⟨survives_of_fits fits, status.trans taken.1.1, fits, kept⟩
  · intro assets request sized success
    obtain ⟨_, place, path, content, stored, whole⟩ := Assets.serve_of_success success
    rw [whole]
    exact ⟨statesLength_wholeFile path content, sized place content stored,
      not_overlooked_wholeFile path content⟩

def measuredPage : Response where
  status := 200
  headers := [.ofText contentType "text/html", .ofText contentLength "+09"]
  body := "<p>hi</p>".toUTF8

def greeting : Assets where
  tree := ⟨[(["hi.html".toList], .file "<p>hi</p>".toUTF8)]⟩
  directory := []
  base := .ofString "/"
  modified := 0

theorem sized_greeting : greeting.tree.Sized := by
  intro place content stored
  have member := FileTree.mem_nodes_of_find? stored
  rw [greeting, List.mem_singleton, Prod.mk.injEq, FileNode.file.injEq] at member
  rw [member.2]
  decide +kernel

theorem measured_page_survives :
    (apply measuredPage).body = inject "<p>hi</p>".toUTF8 ∧
      ¬ Overlooked (greeting.serve { uri := { path := "/hi.html".toList } }) := by
  have stated : StatesLength measuredPage := by
    intro value length
    have written : measuredPage.headers.first? contentLength =
        some (bytesOf "+09".toList) := by decide +kernel
    exact ⟨"+09".toList, Option.some.inj (length.symm.trans written), "09".toList, .inr rfl,
      by decide, by simp, by decide +kernel⟩
  have noticed : ¬ Overlooked measuredPage := fun overlooked =>
    absurd overlooked.2 (by decide +kernel)
  have survives := taken_page_survives.1 measuredPage (by decide +kernel) stated
    (by decide +kernel) noticed
  have found := taken_page_survives.2 greeting { uri := { path := "/hi.html".toList } }
    sized_greeting (by decide +kernel)
  refine ⟨?_, found.2.2⟩
  rw [survives.2.2.2.2]
  decide +kernel

def longLine : Response where
  status := 200
  headers := [.ofText contentType "text/html"]
  body := ⟨Array.replicate (maxPage + 1) 0x61⟩

theorem long_line_is_lost :
    wanted longLine = true ∧ StatesLength longLine ∧ longLine.body.size < UInt64.size ∧
      ¬ Survives longLine (apply longLine) := by
  have size : longLine.body.size = maxPage + 1 := Array.size_replicate
  have unstated : longLine.headers.first? contentLength = none := by decide +kernel
  refine ⟨by decide +kernel, ?_, by rw [size]; decide, ?_⟩
  next =>
    intro value length
    exact absurd (unstated.symm.trans length) (by simp)
  next =>
    intro survives
    have same := survives.status
    rw [apply, if_pos (by omega)] at same
    exact absurd same (by decide)

end Workbench.Injection
