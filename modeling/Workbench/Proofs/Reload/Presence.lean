import Workbench.Proofs.Reload.Window

set_option autoImplicit false

namespace Workbench

open ChangeKind (allOnto allOnto_append)

def FileTree.after (tree : FileTree) (operations : List FileOperation) : FileTree :=
  operations.foldl FileTree.perform tree

namespace FileOperation

variable {tree : FileTree} {place : Place} {operation : FileOperation}
  {pending : Option ChangeKind}

theorem reportsAt_write (tree : FileTree) (file place : Place) (content : ByteArray) :
    (write file content).reportsAt tree place =
      List.replicate ((tree.missingDirectories file).count place) .created ++
        if file = place then [.modified] else [] := by
  rw [reportsAt, reports, List.filter_append, List.map_append, reportsAt_map]
  by_cases same : file = place <;> simp [same]

theorem reportsAt_remove (tree : FileTree) (removed place : Place) :
    (remove removed).reportsAt tree place =
      List.replicate ((tree.under removed).count place) .removed :=
  reportsAt_map _ place .removed

theorem reportsAt_makeDirectory (tree : FileTree) (directory place : Place) :
    (makeDirectory directory).reportsAt tree place =
      List.replicate ((tree.missingDirectories directory).count place) .created :=
  reportsAt_map _ place .created

theorem reportsAt_rename_of_apart (tree : FileTree) {source target place : Place}
    (notSource : ¬ source <+: place) (notTarget : ¬ target <+: place) :
    (rename source target).reportsAt tree place = [] := by
  have neSource : source ≠ place := by
    rintro rfl
    exact notSource List.prefix_rfl
  have neTarget : target ≠ place := by
    rintro rfl
    exact notTarget List.prefix_rfl
  by_cases present : tree.has source = true <;>
    simp [reportsAt, reports, present, neSource, neTarget]

theorem reportsAt_rename_source {source target : Place} (present : tree.has source = true)
    (apart : ¬ target <+: source) :
    (rename source target).reportsAt tree source = [.modified, .modified] := by
  have moved : target ≠ source := by
    rintro rfl
    exact apart List.prefix_rfl
  simp [reportsAt, reports, present, moved]

theorem has_rename_of_apart (tree : FileTree) {source target place : Place} (nonempty : place ≠ [])
    (notSource : ¬ source <+: place) (notTarget : ¬ target <+: place) :
    (tree.perform (.rename source target)).has place = tree.has place := by
  simp only [FileTree.perform]
  split
  · have other : ¬ ∃ behind, source ++ behind ∈ tree.places ∧ place = target ++ behind := by
      rintro ⟨behind, _, rfl⟩
      exact notTarget (List.prefix_append _ _)
    simpa [other, nonempty, notSource, notTarget] using tree.has_move source target place
  · rfl

theorem allOnto_created (count : Nat) :
    allOnto (List.replicate (count + 1) .created) none = some .created := by
  induction count with
  | zero => rfl
  | succ count ih => rw [List.replicate_succ', allOnto_append, ih]; rfl

theorem count_missingDirectories_eq_zero {directory : Place}
    (known : ¬ (place <+: directory ∧ tree.has place = false)) :
    (tree.missingDirectories directory).count place = 0 := by
  rw [List.count_eq_zero, tree.mem_missingDirectories_iff]
  exact known

theorem exists_count_missingDirectories {directory : Place} (begins : place <+: directory)
    (absent : tree.has place = false) :
    ∃ count, (tree.missingDirectories directory).count place = count + 1 := by
  apply Nat.exists_eq_succ_of_ne_zero
  rw [← Nat.pos_iff_ne_zero, List.count_pos_iff, tree.mem_missingDirectories_iff]
  exact ⟨begins, absent⟩

theorem count_under (tree : FileTree) (removed : Place) (nonempty : place ≠ []) :
    (tree.under removed).count place =
      if tree.has place = true ∧ removed <+: place then 1 else 0 := by
  have among := tree.mem_under_iff removed place
  have listed := tree.has_iff place
  simp only [nonempty, false_or] at listed
  rw [← listed] at among
  split
  next inside => exact List.count_eq_one_of_mem (tree.nodup_under removed) (among.mpr inside)
  next outside => exact List.count_eq_zero.mpr fun inside => outside (among.mp inside)

/-- There was nothing at a place at first: a creation is pending while there is something. -/
def Fresh (tree : FileTree) (place : Place) (pending : Option ChangeKind) : Prop :=
  pending = none ∧ tree.has place = false ∨ pending = some .created ∧ tree.has place = true

/-- What would be announced as being there, is there. -/
def Backed (tree : FileTree) (place : Place) (pending : Option ChangeKind) : Prop :=
  pending = some .created ∨ pending = some .modified → tree.has place = true

theorem Fresh.made {after : FileTree} {made : Place} {changes : List ChangeKind}
    (fresh : Fresh tree place pending)
    (has : after.has place = true ↔ tree.has place = true ∨ place <+: made)
    (there : changes ≠ [] → place <+: made)
    (onto : allOnto changes (some .created) = some .created) :
    Fresh after place (allOnto
      (List.replicate ((tree.missingDirectories made).count place) .created ++ changes)
        pending) := by
  rw [allOnto_append]
  obtain ⟨rfl, absent⟩ | ⟨rfl, present⟩ := fresh
  · by_cases begins : place <+: made
    · obtain ⟨count, counted⟩ := exists_count_missingDirectories begins absent
      rw [counted, allOnto_created, onto]
      exact .inr ⟨rfl, has.mpr (.inr begins)⟩
    · have unchanged : changes = [] := by
        by_contra changed
        exact begins (there changed)
      rw [count_missingDirectories_eq_zero fun missing => begins missing.1, unchanged]
      refine .inl ⟨rfl, ?_⟩
      rw [← Bool.not_eq_true, has]
      simp [absent, begins]
  · rw [count_missingDirectories_eq_zero (by simp [present])]
    exact .inr ⟨onto, has.mpr (.inl present)⟩

theorem Fresh.perform (fresh : Fresh tree place pending) (nonempty : place ≠ [])
    (apart : ¬ operation.Renames place) :
    Fresh (tree.perform operation) place (allOnto (operation.reportsAt tree place) pending) := by
  cases operation with
  | write file content =>
      rw [reportsAt_write]
      refine fresh.made (tree.has_addFile file place content) ?_ ?_
      · split
        next same => simp [same]
        next => simp
      · split <;> rfl
  | remove removed =>
      have after := tree.has_removeUnder removed place
      simp only [nonempty, false_or] at after
      rw [reportsAt_remove, count_under tree removed nonempty]
      obtain ⟨rfl, absent⟩ | ⟨rfl, present⟩ := fresh
      · refine .inl ⟨by simp [absent, allOnto], ?_⟩
        simpa [FileTree.perform, absent] using after
      · by_cases under : removed <+: place
        · exact .inl ⟨by simp [present, under, allOnto, ChangeKind.onto, ChangeKind.merge],
            by simpa [FileTree.perform, under] using after⟩
        · exact .inr ⟨by simp [under, allOnto],
            by simpa [FileTree.perform, present, under] using after⟩
  | rename source target =>
      simp only [Renames, not_or] at apart
      rw [reportsAt_rename_of_apart tree apart.1 apart.2]
      unfold Fresh
      rw [has_rename_of_apart tree nonempty apart.1 apart.2]
      exact fresh
  | makeDirectory directory =>
      rw [reportsAt_makeDirectory]
      have made := fresh.made (tree.has_addDirectories directory place)
        (fun changed : ([] : List ChangeKind) ≠ [] => absurd rfl changed) rfl
      rwa [List.append_nil] at made

theorem Backed.made {after : FileTree} {made : Place} {changes : List ChangeKind}
    (backed : Backed tree place pending)
    (has : after.has place = true ↔ tree.has place = true ∨ place <+: made)
    (there : changes ≠ [] → place <+: made) :
    Backed after place (allOnto
      (List.replicate ((tree.missingDirectories made).count place) .created ++ changes)
        pending) := by
  intro announced
  rw [has]
  by_cases begins : place <+: made
  · exact .inr begins
  · have unchanged : changes = [] := by
      by_contra changed
      exact begins (there changed)
    rw [count_missingDirectories_eq_zero fun missing => begins missing.1, unchanged] at announced
    exact .inl (backed announced)

theorem Backed.perform (backed : Backed tree place pending) (nonempty : place ≠ [])
    (kept : ¬ operation.TakesAway place) :
    Backed (tree.perform operation) place (allOnto (operation.reportsAt tree place) pending) := by
  cases operation with
  | write file content =>
      rw [reportsAt_write]
      refine backed.made (tree.has_addFile file place content) ?_
      split
      next same => simp [same]
      next => simp
  | remove removed =>
      have after := tree.has_removeUnder removed place
      simp only [nonempty, false_or] at after
      rw [reportsAt_remove, count_under tree removed nonempty]
      intro announced
      split at announced
      next => cases pending with
        | none => simp [allOnto, ChangeKind.onto] at announced
        | some kind => cases kind <;> simp [allOnto, ChangeKind.onto, ChangeKind.merge] at announced
      next outside =>
        have before := backed announced
        exact after.mpr ⟨before, fun under => outside ⟨before, under⟩⟩
  | rename source target =>
      simp only [TakesAway, not_or, not_and, not_not] at kept
      by_cases same : place = target
      · subst same
        by_cases present : tree.has source = true
        · intro _
          have inside : source ∈ tree.places := by
            obtain rfl | inside := (tree.has_iff source).mp present
            · exact absurd List.nil_prefix kept.1
            · exact inside
          rw [FileTree.perform, if_pos present, tree.has_move]
          exact .inl ⟨[], by simpa using inside, by simp⟩
        · have unreported : (rename source place).reportsAt tree place = [] := by
            simp [reportsAt, reports, present]
          rw [unreported, FileTree.perform, if_neg present]
          exact backed
      · have notTarget : ¬ target <+: place := fun begins => same (kept.2 begins)
        rw [reportsAt_rename_of_apart tree kept.1 notTarget]
        unfold Backed
        rw [has_rename_of_apart tree nonempty kept.1 notTarget]
        exact backed
  | makeDirectory directory =>
      rw [reportsAt_makeDirectory]
      have made := backed.made (tree.has_addDirectories directory place)
        (fun changed : ([] : List ChangeKind) ≠ [] => absurd rfl changed)
      rwa [List.append_nil] at made

end FileOperation

namespace FileTree

variable {tree : FileTree} {place : Place} {operations : List FileOperation}

def kindsAt (tree : FileTree) (place : Place) : List FileOperation -> List ChangeKind
  | [] => []
  | operation :: rest =>
      operation.reportsAt tree place ++ (tree.perform operation).kindsAt place rest

theorem kinds_events {watch : Watch} (treeNamed : tree.Named)
    (named : ∀ operation ∈ operations, operation.Named) (placeNamed : place.Named)
    (covered : watch.covers place.path = true) :
    (((tree.events operations).flatMap watch.changes).filter (·.path.sameAs place.path)).map
      (·.kind) = tree.kindsAt place operations := by
  induction operations generalizing tree with
  | nil => rfl
  | cons operation rest ih =>
      rw [List.forall_mem_cons] at named
      rw [events, List.flatMap_append, List.filter_append, List.map_append, kindsAt,
        FileOperation.kinds_changes treeNamed named.1 placeNamed covered,
        ih (FileOperation.named_perform treeNamed named.1) named.2]

theorem kindsAt_induction {motive : FileTree → Option ChangeKind → Prop}
    {pending : Option ChangeKind} (start : motive tree pending)
    (step : ∀ before pending, ∀ operation ∈ operations, motive before pending →
      motive (before.perform operation) (allOnto (operation.reportsAt before place) pending)) :
    motive (tree.after operations) (allOnto (tree.kindsAt place operations) pending) := by
  induction operations generalizing tree pending with
  | nil => exact start
  | cons operation rest ih =>
      rw [kindsAt, allOnto_append]
      apply ih
      · exact step tree pending operation List.mem_cons_self start
      · exact fun before pending other among =>
          step before pending other (List.mem_cons_of_mem _ among)

theorem exists_place_of_mem_events {watch : Watch} {change : Change} (treeNamed : tree.Named)
    (named : ∀ operation ∈ operations, operation.Named)
    (among : change ∈ (tree.events operations).flatMap watch.changes) :
    ∃ place : Place, place.Named ∧ watch.covers place.path = true ∧ change.path = place.path := by
  induction operations generalizing tree with
  | nil => simp [events] at among
  | cons operation rest ih =>
      rw [List.forall_mem_cons] at named
      rw [events, List.flatMap_append, List.mem_append] at among
      obtain here | behind := among
      · rw [FileOperation.changes_events] at here
        obtain ⟨report, kept, rfl⟩ := List.mem_map.mp here
        obtain ⟨member, covered⟩ := List.mem_filter.mp kept
        exact ⟨report.1, FileOperation.named_of_mem_reports treeNamed named.1 member, covered, rfl⟩
      · exact ih (FileOperation.named_perform treeNamed named.1) named.2 behind

end FileTree

end Workbench
