import Workbench.Proofs.Files.Existing
import Workbench.Proofs.Reload.Session
import Workbench.Reload.Window

set_option autoImplicit false

namespace Workbench

def ChangeKind.onto (kind : ChangeKind) : Option ChangeKind -> Option ChangeKind
  | none => some kind
  | some pending => pending.merge kind

def ChangeKind.allOnto (kinds : List ChangeKind) (pending : Option ChangeKind) :
    Option ChangeKind :=
  kinds.foldl (fun pending kind => kind.onto pending) pending

theorem ChangeKind.allOnto_append (before after : List ChangeKind)
    (pending : Option ChangeKind) :
    allOnto (before ++ after) pending = allOnto after (allOnto before pending) :=
  List.foldl_append

theorem Pending.kind_after? (change : Change) (deadline : Nat) (pending : Option Pending) :
    (after? change deadline pending).map (·.kind) = change.kind.onto (pending.map (·.kind)) := by
  cases pending with
  | none => rfl
  | some pending => simp [after?, ChangeKind.onto, Function.comp_def]

theorem Pending.deadline_le_of_mem_record {change : Change} {deadline bound : Nat}
    {pendings : List Pending} (soon : deadline ≤ bound)
    (before : ∀ pending ∈ pendings, pending.deadline ≤ bound) :
    ∀ pending ∈ record change deadline pendings, pending.deadline ≤ bound := by
  induction pendings with
  | nil => simpa [record] using soon
  | cons head rest ih =>
      rw [List.forall_mem_cons] at before
      by_cases same : head.path.sameAs change.path = true
      · cases merged : head.kind.merge change.kind with
        | none => simpa [record, same, merged] using before.2
        | some kind => simpa [record, same, merged, soon] using before.2
      · simpa [record, same, before.1] using ih before.2

namespace Debouncer

variable {debouncer : Debouncer}

def kindAt? (debouncer : Debouncer) (path : Path) : Option ChangeKind :=
  (debouncer.find? path).map (·.kind)

def window (debouncer : Debouncer) (watch : Watch) (timed : List (Nat × FileEvent)) : Debouncer :=
  timed.foldl (fun debouncer moment => debouncer.recordEvent watch moment.1 moment.2) debouncer

theorem window_induction {motive : Debouncer -> Prop} (watch : Watch)
    (timed : List (Nat × FileEvent)) (start : motive debouncer)
    (step : ∀ before, ∀ moment ∈ timed, ∀ change ∈ watch.changes moment.2, motive before →
      motive (before.record moment.1 change)) :
    motive (debouncer.window watch timed) := by
  unfold window
  induction timed generalizing debouncer with
  | nil => exact start
  | cons moment rest ih =>
      apply ih
      · exact recordEvent_induction watch moment.1 moment.2 start fun before change among =>
          step before moment List.mem_cons_self change among
      · exact fun before other among => step before other (List.mem_cons_of_mem _ among)

theorem distinct_window (debouncer : Debouncer) (watch : Watch)
    (timed : List (Nat × FileEvent))
    (distinct : Pending.Distinct debouncer.pending) :
    Pending.Distinct (debouncer.window watch timed).pending :=
  window_induction (motive := fun after => Pending.Distinct after.pending) watch timed distinct
    fun _ _ _ change _ before => before.record change _

theorem kindAt?_recordEvent (watch : Watch) (now : Nat) (event : FileEvent) (path : Path)
    (distinct : Pending.Distinct debouncer.pending) :
    (debouncer.recordEvent watch now event).kindAt? path =
      ChangeKind.allOnto (((watch.changes event).filter (·.path.sameAs path)).map (·.kind))
        (debouncer.kindAt? path) := by
  unfold ChangeKind.allOnto
  rw [kindAt?, kindAt?, find?_recordEvent watch now event path distinct]
  generalize (watch.changes event).filter (·.path.sameAs path) = changes
  generalize debouncer.find? path = pending
  induction changes generalizing pending with
  | nil => rfl
  | cons change rest ih =>
      rw [List.foldl_cons, ih, Pending.kind_after?, List.map_cons, List.foldl_cons]

theorem kindAt?_window (debouncer : Debouncer) (watch : Watch)
    (timed : List (Nat × FileEvent)) (path : Path)
    (distinct : Pending.Distinct debouncer.pending) :
    (debouncer.window watch timed).kindAt? path =
      ChangeKind.allOnto ((((timed.map Prod.snd).flatMap watch.changes).filter
        (·.path.sameAs path)).map (·.kind)) (debouncer.kindAt? path) := by
  induction timed generalizing debouncer with
  | nil => rfl
  | cons moment rest ih =>
      have next := ih _ (distinct_recordEvent watch moment.1 moment.2 distinct)
      rw [kindAt?_recordEvent watch moment.1 moment.2 path distinct] at next
      rw [List.map_cons, List.flatMap_cons, List.filter_append, List.map_append,
        ChangeKind.allOnto_append]
      exact next

end Debouncer

def FileTree.Named (tree : FileTree) : Prop :=
  ∀ place, tree.has place = true → place.Named

namespace FileOperation

variable {tree : FileTree} {place : Place} {operation : FileOperation}

def Named : FileOperation -> Prop
  | .write place _ | .remove place | .makeDirectory place => place.Named
  | .rename source target => source.Named ∧ target.Named

-- Is a place, or a directory around it, given another name or put in place of another one?
def Renames (place : Place) : FileOperation -> Prop
  | .rename source target => source <+: place ∨ target <+: place
  | .write _ _ | .remove _ | .makeDirectory _ => False

-- As above, but something that gets the name of the place itself stays there.
def TakesAway (place : Place) : FileOperation -> Prop
  | .rename source target => source <+: place ∨ target <+: place ∧ place ≠ target
  | .write _ _ | .remove _ | .makeDirectory _ => False

def reports (tree : FileTree) : FileOperation -> List (Place × ChangeKind)
  | .write place _ =>
      (tree.missingDirectories place).map (·, .created) ++ [(place, .modified)]
  | .remove place => (tree.under place).map (·, .removed)
  | .rename source target =>
      if tree.has source then
        [(source, .modified), (target, .modified), (source, .modified), (target, .modified)]
      else []
  | .makeDirectory place => (tree.missingDirectories place).map (·, .created)

def reportsAt (tree : FileTree) (place : Place) (operation : FileOperation) : List ChangeKind :=
  ((operation.reports tree).filter (·.1 = place)).map (·.2)

theorem changes_events (watch : Watch) (tree : FileTree) (operation : FileOperation) :
    (operation.events tree).flatMap watch.changes =
      ((operation.reports tree).filter fun report => watch.covers report.1.path).map
        fun report => ⟨report.1.path, report.2⟩ := by
  have one (kind : FileEventKind) (change : ChangeKind) (known : kind.change? = some change)
      (places : List Place) : (places.map (FileEvent.one kind)).flatMap watch.changes =
        ((places.map (·, change)).filter fun report => watch.covers report.1.path).map
          fun report => ⟨report.1.path, report.2⟩ := by
    induction places with
    | nil => rfl
    | cons place rest ih =>
        rw [List.map_cons, List.flatMap_cons, ih]
        by_cases covered : watch.covers place.path = true <;>
          simp [FileEvent.one, Watch.changes, known, covered]
  cases operation with
  | write place content =>
      have last := one .modified .modified rfl [place]
      simp only [List.map_singleton, List.flatMap_singleton] at last
      simp [events, reports, one .created .created rfl, last]
  | remove place => exact one .removed .removed rfl _
  | rename source target =>
      by_cases present : tree.has source = true
      · by_cases left : watch.covers source.path = true <;>
          by_cases right : watch.covers target.path = true <;>
          simp [events, reports, present, FileEvent.one, Watch.changes, FileEventKind.change?, left,
            right]
      · simp [events, reports, present]
  | makeDirectory place => exact one .created .created rfl _

theorem named_of_mem_reports (treeNamed : tree.Named) (named : operation.Named)
    {report : Place × ChangeKind} (among : report ∈ operation.reports tree) :
    report.1.Named := by
  have missing {directory : Place} (whole : directory.Named)
      (member : report ∈ (tree.missingDirectories directory).map (·, ChangeKind.created)) :
      report.1.Named := by
    obtain ⟨other, missing, rfl⟩ := List.mem_map.mp member
    have begins := ((tree.mem_missingDirectories_iff directory other).mp missing).1
    exact fun name inside => whole name (begins.subset inside)
  cases operation with
  | write place content =>
      obtain before | last := List.mem_append.mp among
      · exact missing named before
      · rw [List.mem_singleton.mp last]
        exact named
  | remove place =>
      obtain ⟨other, under, rfl⟩ := List.mem_map.mp among
      exact treeNamed other ((tree.has_iff other).mpr (.inr
        ((tree.mem_under_iff place other).mp under).1))
  | rename source target =>
      rw [reports] at among
      split at among
      · simp only [List.mem_cons, List.not_mem_nil, or_false] at among
        obtain rfl | rfl | rfl | rfl := among
        · exact named.1
        · exact named.2
        · exact named.1
        · exact named.2
      · contradiction
  | makeDirectory place => exact missing named among

theorem named_perform (treeNamed : tree.Named) (named : operation.Named) :
    (tree.perform operation).Named := by
  have begins {front whole : Place} (named : whole.Named) (begins : front <+: whole) :
      front.Named := fun name inside => named name (begins.subset inside)
  intro place present
  cases operation with
  | write file content =>
      exact ((tree.has_addFile file place content).mp present).elim (treeNamed place) (begins named)
  | remove removed =>
      obtain rfl | ⟨before, _⟩ := (tree.has_removeUnder removed place).mp present
      · exact List.forall_mem_nil _
      · exact treeNamed place before
  | rename source target =>
      simp only [FileTree.perform] at present
      split at present
      · obtain ⟨behind, inside, rfl⟩ | rfl | ⟨before, _⟩ :=
          (tree.has_move source target place).mp present
        · have moved := treeNamed _ ((tree.has_iff _).mpr (.inr inside))
          intro name among
          obtain front | among := List.mem_append.mp among
          · exact named.2 name front
          · exact moved name (List.mem_append_right _ among)
        · exact List.forall_mem_nil _
        · exact treeNamed place before
      · exact treeNamed place present
  | makeDirectory directory =>
      exact ((tree.has_addDirectories directory place).mp present).elim (treeNamed place)
        (begins named)

theorem kinds_changes {watch : Watch} (treeNamed : tree.Named) (named : operation.Named)
    (placeNamed : place.Named) (covered : watch.covers place.path = true) :
    (((operation.events tree).flatMap watch.changes).filter (·.path.sameAs place.path)).map
      (·.kind) = operation.reportsAt tree place := by
  have heard : ∀ report ∈ operation.reports tree,
      (watch.covers report.1.path && report.1.path.sameAs place.path) =
        decide (report.1 = place) := by
    intro report among
    have same := Place.components_path_inj (named_of_mem_reports treeNamed named among) placeNamed
    rw [← Path.sameAs_iff] at same
    by_cases here : report.1 = place
    · simp [here, covered]
    · simpa [here] using fun _ => by simpa [here] using same
  rw [changes_events, List.filter_map, List.filter_filter, List.map_map, reportsAt]
  congr 1
  apply List.filter_congr
  intro report among
  rw [← heard report among, Bool.and_comm]
  rfl

theorem reportsAt_map (places : List Place) (place : Place) (kind : ChangeKind) :
    ((places.map (·, kind)).filter (·.1 = place)).map (·.2) =
      List.replicate (places.count place) kind := by
  rw [List.filter_map, List.map_map, List.count, List.countP_eq_length_filter,
    ← List.map_const']
  congr 1
  apply List.filter_congr
  intro other _
  simp [Bool.beq_eq_decide_eq]

end FileOperation

end Workbench
