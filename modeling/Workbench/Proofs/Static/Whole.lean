import Workbench.Proofs.Http.Header
import Workbench.Static.Serve

set_option autoImplicit false

namespace Workbench

open Http (Header Headers Request Response contentLength)

theorem MediaType.visible_ofPath (path : Path) :
    (ofPath path).toUTF8.toList.all Http.isVisibleByte = true := by
  have listed : ofPath path ∈ unknown :: table.map Prod.snd := by
    unfold ofPath
    split
    next => exact List.mem_cons_self
    next extension _ =>
      cases kind : table.lookup (String.ofList (extension.map Char.toLower)) with
      | none => exact List.mem_cons_self
      | some listedKind =>
          obtain ⟨before, after, split, _⟩ := List.lookup_eq_some_iff.mp kind
          rw [split]
          simp
  have visible : (unknown :: table.map Prod.snd).all fun kind =>
      kind.toUTF8.data.toList.all Http.isVisibleByte := by decide +kernel
  rw [Text.Percent.toList_eq_data]
  exact List.all_eq_true.mp visible _ listed

def FileTree.Sized (tree : FileTree) : Prop :=
  ∀ place content, tree.find? place = some (.file content) → content.size < UInt64.size

theorem FileTree.mem_nodes_of_find? {tree : FileTree} {place : Place} {content : ByteArray}
    (stored : tree.find? place = some (.file content)) :
    (place, .file content) ∈ tree.nodes := by
  unfold find? at stored
  split at stored
  next => cases stored
  next =>
    obtain ⟨before, after, split, _⟩ := List.lookup_eq_some_iff.mp stored
    rw [split]
    simp

theorem FileTree.find?_of_resolve {tree : FileTree} {directory place : Place} {path : Path}
    {node : FileNode} (leads : tree.resolve directory path = .ok (place, node)) :
    tree.find? place = some node := by
  unfold resolve at leads
  split at leads
  next => contradiction
  next =>
    split at leads
    next => contradiction
    next reached _ =>
      split at leads
      next => contradiction
      next found =>
        split at leads
        next => contradiction
        next =>
          obtain ⟨rfl, rfl⟩ := Prod.mk.inj (Except.ok.inj leads)
          exact found
      next found =>
        obtain ⟨rfl, rfl⟩ := Prod.mk.inj (Except.ok.inj leads)
        exact found

namespace Assets

variable {assets : Assets} {request : Request}

theorem contentLength_wholeFile (path : Path) (content : ByteArray) :
    (wholeFile path content).headers.values contentLength =
      [(Header.ofText contentLength (toString content.size)).value] := by
  simp [Headers.values, wholeFile, fileHeaders, Header.ofText, Http.contentType, contentLength]

theorem stored_of_find {path named : Path} {content : ByteArray}
    (found : assets.find path = .file named content) :
    ∃ place, assets.tree.find? place = some (.file content) := by
  unfold find at found
  split at found
  next => contradiction
  next =>
    split at found
    next place _ leads =>
      obtain ⟨_, rfl⟩ := Found.file.inj found
      exact ⟨place, FileTree.find?_of_resolve leads⟩
    all_goals contradiction

theorem stored_of_findIndex {path named : Path} {content : ByteArray}
    (found : assets.findIndex path = .file named content) :
    ∃ place, assets.tree.find? place = some (.file content) := by
  unfold findIndex at found
  split at found
  next => contradiction
  next => exact stored_of_find found

theorem status_of_refusal? {response : Response}
    (refused : assets.refusal? request = some response) :
    response.status = 412 ∨ response.status = 304 := by
  unfold refusal? at refused
  dsimp only at refused
  rw [ite_eq_iff, ite_eq_iff] at refused
  obtain ⟨_, expired⟩ | ⟨_, ⟨_, fresh⟩ | ⟨_, served⟩⟩ := refused
  next =>
    obtain rfl := Option.some.inj expired
    exact .inl rfl
  next =>
    obtain rfl := Option.some.inj fresh
    exact .inr rfl
  next => contradiction

theorem serveFile_of_success {path : Path} {content : ByteArray}
    (success : (serveFile request path content).status = 200) :
    serveFile request path content = wholeFile path content := by
  unfold serveFile at success ⊢
  split at success
  next => rfl
  next =>
    split at success
    all_goals simp [unsatisfied, partOfFile] at success

theorem serveFound_of_success {found : Found}
    (success : (assets.serveFound request found).status = 200) :
    ∃ path content, found = .file path content ∧
      assets.serveFound request found = wholeFile path content := by
  cases found with
  | file path content =>
      refine ⟨path, content, rfl, ?_⟩
      unfold serveFound at success ⊢
      dsimp only at success ⊢
      cases refused : assets.refusal? request with
      | some response =>
          rw [refused, Option.getD_some] at success
          simpa [success] using status_of_refusal? refused
      | none =>
          rw [refused] at success
          exact serveFile_of_success success
  | directory | nothing | tooLong => simp [serveFound] at success

theorem lookup_of_success (success : (assets.lookup request).status = 200) :
    ∃ place path content, assets.tree.find? place = some (.file content) ∧
      assets.lookup request = wholeFile path content := by
  unfold lookup at success ⊢
  split at success
  next => exact absurd success (by decide)
  next path _ =>
    split at success
    next =>
      split at success
      next slash =>
        obtain ⟨named, content, found, whole⟩ := serveFound_of_success success
        obtain ⟨place, stored⟩ := stored_of_findIndex found
        rw [if_pos slash]
        exact ⟨place, named, content, stored, whole⟩
      next =>
        unfold redirect at success
        split at success
        all_goals simp at success
    next =>
      obtain ⟨named, content, found, whole⟩ := serveFound_of_success success
      obtain ⟨place, stored⟩ := stored_of_find found
      exact ⟨place, named, content, stored, whole⟩

theorem serve_of_success (success : (assets.serve request).status = 200) :
    (request.method = "GET" ∨ request.method = "HEAD") ∧
      ∃ place path content, assets.tree.find? place = some (.file content) ∧
        assets.serve request = wholeFile path content := by
  unfold serve at success ⊢
  split at success
  next allowed =>
    rw [if_pos allowed]
    simp only [Bool.or_eq_true, decide_eq_true_eq] at allowed
    exact ⟨allowed, lookup_of_success success⟩
  next => exact absurd success (by decide)

end Assets

end Workbench
