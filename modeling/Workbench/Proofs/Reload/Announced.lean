import Workbench.Proofs.Reload.Presence

set_option autoImplicit false

namespace Workbench

open ChangeKind (allOnto allOnto_append)

namespace Debouncer

variable {debouncer : Debouncer}

theorem kindAt?_of_mem {pending : Pending} (distinct : Pending.Distinct debouncer.pending)
    (among : pending ∈ debouncer.pending) : debouncer.kindAt? pending.path = some pending.kind := by
  have found := (distinct.find?_eq_some_iff pending.path pending).mpr
    ⟨among, Path.sameAs_refl pending.path⟩
  rw [kindAt?, find?, found, Option.map_some]

theorem exists_change_of_mem_window (watch : Watch) (timed : List (Nat × FileEvent))
    (quiet : Nat) :
    ∀ pending ∈ (window { quiet } watch timed).pending,
      ∃ change ∈ (timed.map Prod.snd).flatMap watch.changes, pending.path = change.path := by
  refine window_induction (motive := fun after => ∀ pending ∈ after.pending,
    ∃ change ∈ (timed.map Prod.snd).flatMap watch.changes, pending.path = change.path)
    watch timed (by simp) ?_
  intro before moment inside change heard known pending member
  obtain spelled | ⟨other, earlier, spelled⟩ := Pending.path_of_mem_record member
  · exact ⟨change, List.mem_flatMap.mpr ⟨moment.2, List.mem_map_of_mem inside, heard⟩, spelled⟩
  · obtain ⟨change, heard, same⟩ := known other earlier
    exact ⟨change, heard, spelled.trans same⟩

theorem deadline_le_of_mem_window {watch : Watch} {timed : List (Nat × FileEvent)}
    (last quiet : Nat) (times : ∀ moment ∈ timed, moment.1 ≤ last) :
    ∀ pending ∈ (window { quiet } watch timed).pending, pending.deadline ≤ last + quiet := by
  have kept : (window { quiet } watch timed).quiet = quiet ∧
      ∀ pending ∈ (window { quiet } watch timed).pending, pending.deadline ≤ last + quiet := by
    refine window_induction (motive := fun after => after.quiet = quiet ∧
      ∀ pending ∈ after.pending, pending.deadline ≤ last + quiet) watch timed ⟨rfl, by simp⟩ ?_
    rintro before moment inside change _ ⟨same, soon⟩
    refine ⟨same, Pending.deadline_le_of_mem_record ?_ soon⟩
    have early := times moment inside
    omega
  exact kept.2

end Debouncer

namespace Watch

theorem report_eq (watch : Watch) (quiet : Nat) (tree : FileTree)
    (operations : List FileOperation) :
    watch.report quiet tree operations =
      watch.announce ((Debouncer.window { quiet } watch
        ((tree.events operations).map (0, ·))).ready quiet) := by
  rw [report, settled, Debouncer.window, List.foldl_map]

variable {home : Place} {patterns : List String} {tree : FileTree} {place : Place}
  {operations : List FileOperation}

theorem kindAt?_of_events {watch : Watch} {timed : List (Nat × FileEvent)} (quiet : Nat)
    (treeNamed : tree.Named) (named : ∀ operation ∈ operations, operation.Named)
    (reported : timed.map Prod.snd = tree.events operations) (placeNamed : place.Named)
    (covered : watch.covers place.path = true) :
    (Debouncer.window { quiet } watch timed).kindAt? place.path =
      allOnto (tree.kindsAt place operations) none := by
  have pending := Debouncer.kindAt?_window { quiet } watch timed place.path
    List.nodup_nil
  rw [reported, FileTree.kinds_events treeNamed named placeNamed covered] at pending
  exact pending

theorem exists_behind (homeNamed : home.Named) (placeNamed : place.Named)
    (under : home.path.components <+: place.path.components) :
    ∃ names : List (List Char),
      place.path.components = home.path.components ++ names.map .name := by
  rw [Place.prefix_components_iff homeNamed placeNamed] at under
  obtain ⟨names, rfl⟩ := under
  refine ⟨names, ?_⟩
  rw [Place.components_path placeNamed, Place.components_path homeNamed, List.map_append,
    List.cons_append]

theorem place_of_frame {left right : Place} (homeNamed : home.Named) (leftNamed : left.Named)
    (rightNamed : right.Named) (covered : Covers ⟨home.path, patterns⟩ left.path)
    (same : urlPath? home.path right.path = urlPath? home.path left.path) : right = left := by
  obtain ⟨leftNames, leftUnder⟩ := exists_behind homeNamed leftNamed covered.under
  have under : home.path.components <+: right.path.components := by
    by_contra apart
    rw [← urlPath?_eq_none_iff, same, urlPath?_eq_none_iff] at apart
    exact apart covered.under
  obtain ⟨rightNames, rightUnder⟩ := exists_behind homeNamed rightNamed under
  have spelled := urlPath?_inj rightUnder leftUnder same
  rw [Path.sameAs_iff] at spelled
  exact (Place.components_path_inj rightNamed leftNamed).mp spelled

theorem exists_place_of_frame {timed : List (Nat × FileEvent)} {quiet now : Nat}
    {frame : ReloadEvent} (homeNamed : home.Named) (treeNamed : tree.Named)
    (named : ∀ operation ∈ operations, operation.Named)
    (reported : timed.map Prod.snd = tree.events operations)
    (sent : frame ∈ announce ⟨home.path, patterns⟩
      ((Debouncer.window { quiet } ⟨home.path, patterns⟩ timed).ready now)) :
    ∃ place kind, place.Named ∧
      (∀ other : Place, other.Named →
        (urlPath? home.path other.path = some frame.path ↔ other = place)) ∧
      allOnto (tree.kindsAt place operations) none = some kind ∧
      (frame.kind = .styles → kind ≠ .removed) := by
  obtain ⟨change, settled, framed⟩ := List.mem_filterMap.mp sent
  obtain ⟨pending, kept, rfl⟩ := List.mem_map.mp settled
  have among := List.mem_of_mem_filter kept
  obtain ⟨heard, told, spelled⟩ := Debouncer.exists_change_of_mem_window _ timed quiet pending among
  rw [reported] at told
  obtain ⟨place, placeNamed, covered, whole⟩ :=
    FileTree.exists_place_of_mem_events treeNamed named told
  have path : pending.path = place.path := spelled.trans whole
  have kind := Debouncer.kindAt?_of_mem
    (Debouncer.distinct_window { quiet } _ timed List.nodup_nil) among
  rw [path, kindAt?_of_events quiet treeNamed named reported placeNamed covered] at kind
  rw [Change.event?, Option.map_eq_some_iff] at framed
  obtain ⟨text, found, rfl⟩ := framed
  rw [path] at found
  refine ⟨place, pending.kind, placeNamed, ?_, kind, ?_⟩
  · intro other otherNamed
    constructor
    · intro same
      exact place_of_frame homeNamed placeNamed otherNamed ((covers_iff _ _).mp covered)
        (same.trans found.symm)
    · rintro rfl
      exact found
  · exact fun styles => ((Change.reloadKind_eq_styles_iff _).mp styles).1

theorem mem_report_of_kindAt? (quiet : Nat) {kind : ChangeKind} {watch : Watch}
    (treeNamed : tree.Named) (named : ∀ operation ∈ operations, operation.Named)
    (placeNamed : place.Named) (covered : watch.covers place.path = true)
    (waits : allOnto (tree.kindsAt place operations) none = some kind) :
    ∃ path, urlPath? watch.directory place.path = some path ∧
      ⟨Change.reloadKind ⟨place.path, kind⟩, path⟩ ∈ watch.report quiet tree operations := by
  have reported : ((tree.events operations).map (0, ·)).map Prod.snd = tree.events operations := by
    simp [Function.comp_def]
  rw [← kindAt?_of_events quiet treeNamed named reported placeNamed covered] at waits
  obtain ⟨pending, found, rfl⟩ := Option.map_eq_some_iff.mp waits
  obtain ⟨among, same⟩ := (Pending.Distinct.find?_eq_some_iff
    (Debouncer.distinct_window { quiet } watch _ List.nodup_nil)
    place.path pending).mp found
  have soon := Debouncer.deadline_le_of_mem_window 0 quiet (by simp) pending among
  have ready : pending.toChange ∈ (Debouncer.window { quiet } watch
      ((tree.events operations).map (0, ·))).ready quiet :=
    List.mem_map_of_mem (List.mem_filter.mpr ⟨among, by simpa [Pending.isReady] using soon⟩)
  obtain ⟨behind, under⟩ := ((watch.covers_iff place.path).mp covered).under
  have framed := Change.event?_of_under ⟨place.path, pending.kind⟩ under.symm
  obtain ⟨path, mapped, built⟩ := Option.map_eq_some_iff.mp framed
  refine ⟨path, mapped, ?_⟩
  rw [report_eq]
  refine List.mem_filterMap.mpr ⟨pending.toChange, ready, ?_⟩
  rw [built, ← framed]
  exact Change.event?_congr ((Path.sameAs_iff _ _).mp same)

end Watch

namespace FileTree

theorem has_rename_source {tree : FileTree} {source target : Place} (nonempty : source ≠ [])
    (apart : ¬ target <+: source) : (tree.perform (.rename source target)).has source = false := by
  by_cases present : tree.has source = true
  · rw [perform, if_pos present, ← Bool.not_eq_true, has_move]
    rintro (⟨behind, _, whole⟩ | root | ⟨_, outside, _⟩)
    · exact apart ⟨behind, whole.symm⟩
    · exact nonempty root
    · exact outside List.prefix_rfl
  · simp [perform, present]

section Pending

variable {tree : FileTree} {place target : Place} {operations : List FileOperation}
  {kind : ChangeKind}

theorem has_or_has_after_of_pending (apart : ∀ operation ∈ operations, ¬ operation.Renames place)
    (waits : allOnto (tree.kindsAt place operations) none = some kind) :
    tree.has place = true ∨ (tree.after operations).has place = true := by
  by_cases present : tree.has place = true
  · exact .inl present
  · -- A place that was absent stays fresh as long as nothing is renamed onto it or away from it.
    have fresh := kindsAt_induction (motive := (FileOperation.Fresh · place ·))
      (.inl ⟨rfl, by simpa using present⟩) fun before pending operation among fresh =>
        fresh.perform (fun root => present (root ▸ tree.has_root)) (apart operation among)
    rw [waits] at fresh
    obtain ⟨idle, _⟩ | ⟨_, there⟩ := fresh
    · contradiction
    · exact .inr there

theorem has_after_of_pending (kept : ∀ operation ∈ operations, ¬ operation.TakesAway place)
    (waits : allOnto (tree.kindsAt place operations) none = some kind)
    (there : kind ≠ .removed) : (tree.after operations).has place = true := by
  by_cases root : place = []
  · exact root ▸ (tree.after operations).has_root
  · have start : FileOperation.Backed tree place none := by simp [FileOperation.Backed]
    have backed := kindsAt_induction (motive := (FileOperation.Backed · place ·)) start
      fun before pending operation among backed => backed.perform root (kept operation among)
    rw [waits] at backed
    apply backed
    cases kind with
    | created => exact .inl rfl
    | modified => exact .inr rfl
    | removed => exact absurd rfl there

theorem pending_rename_source (present : tree.has place = true) (apart : ¬ target <+: place) :
    allOnto (tree.kindsAt place [.rename place target]) none = some .modified := by
  rw [kindsAt, kindsAt, List.append_nil, FileOperation.reportsAt_rename_source present apart]
  rfl

theorem pending_moved_draft (content : ByteArray) (absent : tree.has place = false)
    (apart : ¬ target <+: place) :
    allOnto (tree.kindsAt place [.write place content, .rename place target]) none =
      some .created := by
  have written : (tree.perform (.write place content)).has place = true :=
    (tree.has_addFile place place content).mpr (.inr List.prefix_rfl)
  obtain ⟨count, counted⟩ := FileOperation.exists_count_missingDirectories List.prefix_rfl absent
  rw [kindsAt, kindsAt, kindsAt, List.append_nil, FileOperation.reportsAt_write,
    FileOperation.reportsAt_rename_source written apart, counted, if_pos rfl, allOnto_append,
    allOnto_append, FileOperation.allOnto_created]
  rfl

end Pending

/-- A window of operations, at whatever times they come and whenever it is drained, announces only
places that were there before it or are there after it, and exchanges only styles that are there,
as far as nothing is renamed. A style sheet that gets another name is announced under the old one
as if it were there, and a draft that is moved to its place is announced by the draft's name. -/
theorem frames_follow_existence_but_for_renames (home : Place) (patterns : List String)
    (tree : FileTree) (homeNamed : home.Named) (treeNamed : tree.Named) :
    (∀ (operations : List FileOperation) (timed : List (Nat × FileEvent)) (quiet now : Nat)
        (frame : ReloadEvent), (∀ operation ∈ operations, operation.Named) →
      timed.map Prod.snd = tree.events operations →
      frame ∈ Watch.announce ⟨home.path, patterns⟩
        ((Debouncer.window { quiet } ⟨home.path, patterns⟩ timed).ready now) →
      ∃ place : Place, place.Named ∧
        (∀ other : Place, other.Named →
          (urlPath? home.path other.path = some frame.path ↔ other = place)) ∧
        ((∀ operation ∈ operations, ¬ operation.Renames place) →
          tree.has place = true ∨ (tree.after operations).has place = true) ∧
        (frame.kind = .styles → (∀ operation ∈ operations, ¬ operation.TakesAway place) →
          (tree.after operations).has place = true)) ∧
    (∀ (sheet target : Place) (quiet : Nat), sheet.Named → target.Named → tree.has sheet = true →
      sheet.path.extension? = some "css".toList → ¬ target <+: sheet →
      Watch.covers ⟨home.path, patterns⟩ sheet.path = true →
      (tree.after [.rename sheet target]).has sheet = false ∧
        ∃ path, urlPath? home.path sheet.path = some path ∧
          ⟨.styles, path⟩ ∈ Watch.report ⟨home.path, patterns⟩ quiet tree [.rename sheet target]) ∧
    (∀ (draft target : Place) (content : ByteArray) (quiet : Nat), draft.Named → target.Named →
      tree.has draft = false → ¬ target <+: draft →
      Watch.covers ⟨home.path, patterns⟩ draft.path = true →
      (tree.after [.write draft content, .rename draft target]).has draft = false ∧
        ∃ kind path, urlPath? home.path draft.path = some path ∧
          ⟨kind, path⟩ ∈ Watch.report ⟨home.path, patterns⟩ quiet tree
            [.write draft content, .rename draft target]) := by
  refine ⟨?_, ?_, ?_⟩
  · intro operations timed quiet now frame named reported sent
    obtain ⟨place, kind, placeNamed, single, waits, styles⟩ :=
      Watch.exists_place_of_frame homeNamed treeNamed named reported sent
    refine ⟨place, placeNamed, single, ?_, ?_⟩
    · intro apart
      exact has_or_has_after_of_pending apart waits
    · intro asStyles kept
      exact has_after_of_pending kept waits (styles asStyles)
  · intro sheet target quiet sheetNamed targetNamed present extension apart covered
    have nonempty : sheet ≠ [] := by
      rintro rfl
      contradiction
    refine ⟨has_rename_source nonempty apart, ?_⟩
    obtain ⟨path, mapped, sent⟩ := Watch.mem_report_of_kindAt? quiet treeNamed
      (by simpa [FileOperation.Named] using ⟨sheetNamed, targetNamed⟩) sheetNamed covered
      (pending_rename_source present apart)
    refine ⟨path, mapped, ?_⟩
    simpa [Change.reloadKind, extension] using sent
  · intro draft target content quiet draftNamed targetNamed absent apart covered
    have nonempty : draft ≠ [] := by
      rintro rfl
      contradiction
    refine ⟨has_rename_source nonempty apart, ?_⟩
    obtain ⟨path, mapped, sent⟩ := Watch.mem_report_of_kindAt? quiet treeNamed
      (by simpa [FileOperation.Named] using ⟨draftNamed, targetNamed⟩) draftNamed covered
      (pending_moved_draft content absent apart)
    exact ⟨_, path, mapped, sent⟩

def website : FileTree where
  nodes := [
    (["site".toList], .directory),
    (["site".toList, "index.html".toList], .file .empty),
    (["site".toList, "old.css".toList], .file .empty)]

theorem named_website : website.Named := by
  intro place present
  obtain rfl | among := (website.has_iff place).mp present
  · exact List.forall_mem_nil _
  · exact (by decide : ∀ place ∈ website.places, place.Named) place among

theorem website_renames_announce_old_names :
    Place.Named ["site".toList] ∧ website.Named ∧
    (website.after
      [.rename ["site".toList, "old.css".toList] ["site".toList, "new.css".toList]]).has
        ["site".toList, "old.css".toList] = false ∧
    ⟨.styles, "/old.css"⟩ ∈ Watch.report ⟨Place.path ["site".toList], ["**/*"]⟩ 100 website
      [.rename ["site".toList, "old.css".toList] ["site".toList, "new.css".toList]] ∧
    (website.after [.write ["site".toList, "a.css".toList] .empty]).has
      ["site".toList, "a.css".toList] = true := by
  obtain ⟨followed, sheets, _⟩ := frames_follow_existence_but_for_renames ["site".toList] ["**/*"]
    website (by decide) named_website
  obtain ⟨gone, path, mapped, sent⟩ := sheets ["site".toList, "old.css".toList]
    ["site".toList, "new.css".toList] 100 (by decide) (by decide) (by decide) (by decide)
    (by decide) (by decide +kernel)
  obtain ⟨place, _, single, _, styles⟩ := followed
    [.write ["site".toList, "a.css".toList] .empty]
    [(3, ⟨.created, [Place.path ["site".toList, "a.css".toList]]⟩),
      (5, ⟨.modified, [Place.path ["site".toList, "a.css".toList]]⟩)] 100 105
    ⟨.styles, "/a.css"⟩
    (List.forall_mem_singleton.mpr (by decide : Place.Named ["site".toList, "a.css".toList]))
    (by decide) (by decide +kernel)
  have here := (single ["site".toList, "a.css".toList] (by decide)).mp (by decide +kernel)
  have named : urlPath? (Place.path ["site".toList])
      (Place.path ["site".toList, "old.css".toList]) = some "/old.css" := by decide +kernel
  rw [named, Option.some.injEq] at mapped
  subst mapped here
  exact ⟨by decide, named_website, gone, sent, styles rfl (by simp [FileOperation.TakesAway])⟩

theorem moved_draft_has_frame :
    let draft : Place := ["site".toList, "index.html.tmp".toList]
    let operations : List FileOperation :=
      [.write draft .empty, .rename draft ["site".toList, "index.html".toList]]
    website.has draft = false ∧ (website.after operations).has draft = false ∧
      Watch.report ⟨Place.path ["site".toList], ["**/*"]⟩ 100 website operations =
        [⟨.page, "/index.html.tmp"⟩, ⟨.page, "/index.html"⟩] := by
  decide +kernel

end FileTree

end Workbench
