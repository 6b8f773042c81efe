import Workbench.Proofs.Static.Whole

set_option autoImplicit false

namespace Workbench

open Http (Header Request Response contentLength contentType)

namespace ByteRange

-- The range lies in a file of some size; an empty file has only the range that begins there.
def Inside (range : ByteRange) (size : Nat) : Prop :=
  range.first ≤ range.last ∧ range.last ≤ size - 1

theorem inside_of_within? {written : Written} {size : Nat} {range : ByteRange}
    (within : written.within? size = some range) : range.Inside size := by
  have ordered {first last : Nat} (bounded : last ≤ size - 1)
      (chosen : Written.within?.ordered? first last = some range) : range.Inside size := by
    unfold Written.within?.ordered? at chosen
    split at chosen
    next => contradiction
    next order =>
      obtain rfl := Option.some.inj chosen
      exact ⟨Nat.le_of_not_lt order, bounded⟩
  cases written with
  | between first last => exact ordered (Nat.min_le_right _ _) within
  | since first => exact ordered (Nat.le_refl _) within
  | ending count =>
      rw [Written.within?] at within
      split at within
      next => contradiction
      next => exact ordered (Nat.le_refl _) within

theorem inside_of_requested? {value : List Char} {size : Nat} {ranges : List ByteRange}
    (requested : requested? value size = some ranges) : ∀ range ∈ ranges, range.Inside size := by
  have named (written : List Written) (ranges : List ByteRange)
      (within : written.mapM (·.within? size) = some ranges) :
      ∀ range ∈ ranges, range.Inside size := by
    induction written generalizing ranges with
    | nil =>
        obtain rfl := Option.some.inj within
        exact List.forall_mem_nil _
    | cons first rest ih =>
        simp only [List.mapM_cons, Option.bind_eq_bind, Option.bind_eq_some_iff] at within
        obtain ⟨range, one, others, behind, whole⟩ := within
        obtain rfl := Option.some.inj whole
        exact List.forall_mem_cons.mpr ⟨inside_of_within? one, ih others behind⟩
  simp only [requested?, Option.bind_eq_bind, Option.bind_eq_some_iff] at requested
  obtain ⟨written, _, others, within, chosen⟩ := requested
  split at chosen
  next => contradiction
  next =>
    obtain rfl := Option.some.inj chosen
    exact named written others within

end ByteRange

namespace Assets

variable {assets : Assets} {request : Request}

def leads (assets : Assets) (path : List Char) : Found :=
  match assets.filePath? path with
  | none => .nothing
  | some file =>
      match assets.find file with
      | .directory => if path.getLast? = some '/' then assets.findIndex file else .directory
      | found => found

theorem status_redirect (request : Request) :
    (redirect request).status = 500 ∨ (redirect request).status = 307 := by
  unfold redirect
  split
  next => exact .inl rfl
  next => exact .inr rfl

theorem lookup_cases (assets : Assets) (request : Request) :
    assets.lookup request = assets.serveFound request (assets.leads request.uri.pathText) ∨
      assets.leads request.uri.pathText = .directory ∧
        assets.lookup request = redirect request := by
  unfold lookup leads
  cases named : assets.filePath? request.uri.pathText with
  | none => exact .inl rfl
  | some path =>
      cases found : assets.find path with
      | directory =>
          by_cases slash : request.uri.pathText.getLast? = some '/'
          · simp only [found, if_pos slash, true_or]
          · simp only [found, if_neg slash, true_and, or_true]
      | file path content => simp only [found, true_or]
      | nothing | tooLong => simp only [found, true_or]

theorem lookup_of_content (content : (assets.lookup request).status = 200 ∨
    (assets.lookup request).status = 206) :
    assets.lookup request = assets.serveFound request (assets.leads request.uri.pathText) := by
  obtain served | ⟨_, elsewhere⟩ := assets.lookup_cases request
  next => exact served
  next =>
    rw [elsewhere] at content
    obtain status | status := status_redirect request <;> simp [status] at content

theorem serveFile_of_part {path : Path} {content : ByteArray}
    (part : (serveFile request path content).status = 206) :
    ∃ range : ByteRange, range.Inside content.size ∧
      serveFile request path content = partOfFile path content range := by
  unfold serveFile at part ⊢
  split at part
  next => simp [wholeFile] at part
  next value asked =>
    split at part
    next => simp [unsatisfied] at part
    next range requested =>
      exact ⟨range, ByteRange.inside_of_requested? requested range List.mem_cons_self, rfl⟩
    next => simp [unsatisfied] at part

theorem serveFound_of_part {found : Found}
    (part : (assets.serveFound request found).status = 206) :
    ∃ path content range, found = .file path content ∧ range.Inside content.size ∧
      assets.serveFound request found = partOfFile path content range := by
  cases found with
  | file path content =>
      unfold serveFound at part ⊢
      dsimp only at part ⊢
      cases refused : assets.refusal? request with
      | some response =>
          rw [refused, Option.getD_some] at part
          simpa [part] using status_of_refusal? refused
      | none =>
          rw [refused, Option.getD_none] at part
          obtain ⟨range, inside, parted⟩ := serveFile_of_part part
          exact ⟨path, content, range, rfl, inside, parted⟩
  | directory | nothing | tooLong => simp [serveFound] at part

end Assets

end Workbench
