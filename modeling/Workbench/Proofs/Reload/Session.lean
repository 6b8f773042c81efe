import Mathlib.Logic.Relation
import Workbench.Proofs.Reload.Frame
import Workbench.Proofs.Reload.Pending

set_option autoImplicit false

namespace Workbench

namespace Watch

structure Covers (watch : Watch) (path : Path) : Prop where
  under : watch.directory.components <+: path.components
  matched : ∃ relative, path.relativeTo? watch.directory = some relative ∧
    ∃ text ∈ watch.patterns, ∃ glob, Glob.parse? text.toList = some glob ∧
      glob.accepts relative.text = true

theorem covers_iff (watch : Watch) (path : Path) :
    watch.covers path = true ↔ watch.Covers path := by
  cases found : path.relativeTo? watch.directory with
  | none =>
      have apart := (Path.relativeTo?_eq_none_iff path watch.directory).mp found
      simp only [covers, found, Bool.false_eq_true, false_iff]
      exact fun covered => apart covered.under
  | some relative =>
      have under : watch.directory.components <+: path.components :=
        ⟨relative.components, (Path.components_of_relativeTo? found).symm⟩
      simp only [covers, found, globs, List.any_eq_true, List.mem_filterMap]
      constructor
      · rintro ⟨glob, ⟨text, listed, parsed⟩, accepted⟩
        exact ⟨under, relative, found, text, listed, glob, parsed, accepted⟩
      · rintro ⟨_, other, found', text, listed, glob, parsed, accepted⟩
        obtain rfl := Option.some.inj (found.symm.trans found')
        exact ⟨glob, ⟨text, listed, parsed⟩, accepted⟩

theorem mem_changes_iff (watch : Watch) (event : FileEvent) (change : Change) :
    change ∈ watch.changes event ↔ event.kind.change? = some change.kind ∧
      change.path ∈ event.paths ∧ watch.Covers change.path := by
  rw [← covers_iff]
  unfold changes
  split
  next untold => simp [untold]
  next kind told =>
    simp only [told, List.mem_map, List.mem_filter, Option.some.injEq]
    constructor
    · rintro ⟨path, inside, rfl⟩
      exact ⟨rfl, inside⟩
    · rintro ⟨rfl, inside⟩
      exact ⟨change.path, inside, rfl⟩

end Watch

theorem Pending.path_of_mem_record {change : Change} {deadline : Nat} {pendings : List Pending}
    {pending : Pending} (member : pending ∈ record change deadline pendings) :
    pending.path = change.path ∨ ∃ before ∈ pendings, pending.path = before.path := by
  induction pendings with
  | nil => simp_all [record]
  | cons head rest ih =>
      by_cases same : head.path.sameAs change.path = true
      · cases merged : head.kind.merge change.kind with
        | none =>
            rw [record, if_pos same, merged] at member
            exact .inr ⟨pending, List.mem_cons_of_mem _ member, rfl⟩
        | some kind =>
            rw [record, if_pos same, merged] at member
            obtain rfl | behind := List.mem_cons.mp member
            · exact .inr ⟨head, List.mem_cons_self, rfl⟩
            · exact .inr ⟨pending, List.mem_cons_of_mem _ behind, rfl⟩
      · rw [record, if_neg same] at member
        obtain rfl | behind := List.mem_cons.mp member
        · exact .inr ⟨pending, List.mem_cons_self, rfl⟩
        · obtain new | ⟨before, inside, spelled⟩ := ih behind
          · exact .inl new
          · exact .inr ⟨before, List.mem_cons_of_mem _ inside, spelled⟩

namespace Debouncer

variable {watch : Watch} {debouncer : Debouncer}

theorem recordEvent_induction {motive : Debouncer -> Prop} (watch : Watch) (now : Nat)
    (event : FileEvent) (start : motive debouncer)
    (step : ∀ before change, change ∈ watch.changes event → motive before →
      motive (before.record now change)) :
    motive (debouncer.recordEvent watch now event) := by
  unfold recordEvent
  generalize watch.changes event = changes at step
  induction changes generalizing debouncer with
  | nil => exact start
  | cons change rest ih =>
      exact ih (step debouncer change List.mem_cons_self start) fun before other among =>
        step before other (List.mem_cons_of_mem _ among)

theorem quiet_recordEvent (watch : Watch) (now : Nat) (event : FileEvent) :
    (debouncer.recordEvent watch now event).quiet = debouncer.quiet :=
  recordEvent_induction (motive := fun after => after.quiet = debouncer.quiet) watch now event rfl
    fun _ _ _ same => same

theorem distinct_recordEvent (watch : Watch) (now : Nat) (event : FileEvent)
    (distinct : Pending.Distinct debouncer.pending) :
    Pending.Distinct (debouncer.recordEvent watch now event).pending :=
  recordEvent_induction (motive := fun after => Pending.Distinct after.pending) watch now event
    distinct fun _ change _ before => before.record change _

theorem paths_recordEvent {kept : Path -> Prop} (now : Nat) (event : FileEvent)
    (before : ∀ pending ∈ debouncer.pending, kept pending.path)
    (fresh : ∀ change ∈ watch.changes event, kept change.path) :
    ∀ pending ∈ (debouncer.recordEvent watch now event).pending, kept pending.path := by
  refine recordEvent_induction (motive := fun after =>
    ∀ pending ∈ after.pending, kept pending.path) watch now event before ?_
  intro earlier change among held pending member
  obtain spelled | ⟨other, inside, spelled⟩ := Pending.path_of_mem_record member
  · exact spelled ▸ fresh change among
  · exact spelled ▸ held other inside

theorem find?_recordEvent (watch : Watch) (now : Nat) (event : FileEvent) (path : Path)
    (distinct : Pending.Distinct debouncer.pending) :
    (debouncer.recordEvent watch now event).find? path =
      ((watch.changes event).filter (·.path.sameAs path)).foldl
        (fun pending change => Pending.after? change (now + debouncer.quiet) pending)
        (debouncer.find? path) := by
  unfold recordEvent
  generalize watch.changes event = changes
  induction changes generalizing debouncer with
  | nil => rfl
  | cons change rest ih =>
      rw [List.foldl_cons, ih (distinct.record change _), find?_record _ _ _ _ distinct]
      by_cases same : change.path.sameAs path = true
      · simp [same, record]
      · simp [same, record]

end Debouncer

-- What is found while a directory is watched has names alone behind the directory.
def FileEvent.Found (directory : Path) (event : FileEvent) : Prop :=
  ∀ path ∈ event.paths, ∀ behind, path.components = directory.components ++ behind →
    ∃ names : List (List Char), behind = names.map .name

structure Session where
  debouncer : Debouncer
  now : Nat
  drained : List Change := []
  frames : List ReloadEvent := []

namespace Session

-- Which of the changes that are drained together comes first, is left open.
inductive Step (watch : Watch) (reported : FileEvent -> Prop) : Session -> Session -> Prop
  | event (session : Session) (event : FileEvent) (told : reported event) :
      Step watch reported session
        { session with debouncer := session.debouncer.recordEvent watch session.now event }
  | advance (session : Session) (elapsed : Nat) :
      Step watch reported session { session with now := session.now + elapsed }
  | drain (session : Session) (changes : List Change)
      (order : changes.Perm (session.debouncer.ready session.now)) :
      Step watch reported session
        { session with
          debouncer := session.debouncer.drain session.now
          drained := session.drained ++ changes
          frames := session.frames ++ watch.announce changes }

def started (quiet start : Nat) : Session where
  debouncer := { quiet }
  now := start

def Reaches (watch : Watch) (reported : FileEvent -> Prop) : Session -> Session -> Prop :=
  Relation.ReflTransGen (Step watch reported)

structure Admitted (watch : Watch) (reported : FileEvent -> Prop) (path : Path) : Prop where
  covered : watch.Covers path
  named : ∃ event, reported event ∧ path ∈ event.paths

/-- Everything that waits is a path that the watch is for, and so was everything that has been
drained, of which each has its frame. -/
structure Sound (watch : Watch) (reported : FileEvent -> Prop) (quiet : Nat)
    (session : Session) : Prop where
  quiet_eq : session.debouncer.quiet = quiet
  distinct : Pending.Distinct session.debouncer.pending
  waiting : ∀ pending ∈ session.debouncer.pending, Admitted watch reported pending.path
  settled : ∀ change ∈ session.drained, Admitted watch reported change.path
  announced : session.drained.map (·.event? watch.directory) = session.frames.map some

variable {watch : Watch} {reported : FileEvent -> Prop} {quiet start : Nat} {session : Session}

theorem sound_started (watch : Watch) (reported : FileEvent -> Prop) (quiet start : Nat) :
    (started quiet start).Sound watch reported quiet where
  quiet_eq := rfl
  distinct := List.nodup_nil
  waiting := by simp [started]
  settled := by simp [started]
  announced := rfl

-- The second look at the directory never drops what the first one has let in.
theorem announce_of_covered {changes : List Change}
    (covered : ∀ change ∈ changes, watch.Covers change.path) :
    changes.map (·.event? watch.directory) = (watch.announce changes).map some := by
  induction changes with
  | nil => rfl
  | cons change rest ih =>
      obtain ⟨behind, under⟩ := (covered change List.mem_cons_self).under
      have next := ih fun other among => covered other (List.mem_cons_of_mem _ among)
      unfold Watch.announce at next ⊢
      simp [Change.event?_of_under change under.symm, next]

theorem Sound.step {before after : Session} (sound : before.Sound watch reported quiet)
    (step : Step watch reported before after) : after.Sound watch reported quiet := by
  cases step with
  | event event told =>
      have fresh : ∀ change ∈ watch.changes event, Admitted watch reported change.path := by
        intro change among
        obtain ⟨_, named, covered⟩ := (watch.mem_changes_iff event change).mp among
        exact ⟨covered, event, told, named⟩
      exact {
        quiet_eq := (Debouncer.quiet_recordEvent watch before.now event).trans sound.quiet_eq
        distinct := Debouncer.distinct_recordEvent watch before.now event sound.distinct
        waiting := Debouncer.paths_recordEvent before.now event sound.waiting fresh
        settled := sound.settled
        announced := sound.announced }
  | advance elapsed => exact { sound with }
  | drain changes order =>
      have fresh : ∀ change ∈ changes, Admitted watch reported change.path := by
        intro change among
        obtain ⟨pending, kept, rfl⟩ := List.mem_map.mp (order.subset among)
        exact sound.waiting pending (List.mem_of_mem_filter kept)
      exact {
        quiet_eq := sound.quiet_eq
        distinct := sound.distinct.filter _
        waiting := fun pending member => sound.waiting pending (List.mem_of_mem_filter member)
        settled := fun change among =>
          (List.mem_append.mp among).elim (sound.settled change) (fresh change)
        announced := by
          rw [List.map_append, List.map_append, sound.announced,
            announce_of_covered fun change among => (fresh change among).covered] }

theorem sound_of_reaches (reached : Reaches watch reported (started quiet start) session) :
    session.Sound watch reported quiet := by
  induction reached with
  | refl => exact sound_started watch reported quiet start
  | tail _ step ih => exact ih.step step

theorem Admitted.exists_names {path : Path} (admitted : Admitted watch reported path)
    (found : ∀ event, reported event → event.Found watch.directory) :
    ∃ names : List (List Char),
      path.components = watch.directory.components ++ names.map .name := by
  obtain ⟨behind, under⟩ := admitted.covered.under
  obtain ⟨event, told, named⟩ := admitted.named
  obtain ⟨names, rfl⟩ := found event told path named behind under.symm
  exact ⟨names, under.symm⟩

/-- However a session has gone so far, only what creates, changes or removes a path that the watch
is for has an effect, and every change that was drained has exactly one frame, in the order of the
changes. The frame has what lies behind the directory, and asks for styles alone if a style sheet
is still there. Spellings of one path share their frames, and ordinary paths do not. -/
theorem announces_each_settled_change (watch : Watch) (reported : FileEvent -> Prop)
    (quiet start : Nat) (session : Session)
    (reached : Reaches watch reported (started quiet start) session) :
    (∀ event, event.kind = .other →
      session.debouncer.recordEvent watch session.now event = session.debouncer) ∧
    (∀ event change, change ∈ watch.changes event ↔ event.kind.change? = some change.kind ∧
      change.path ∈ event.paths ∧ watch.Covers change.path) ∧
    (∀ event path, (session.debouncer.recordEvent watch session.now event).find? path =
      ((watch.changes event).filter (·.path.sameAs path)).foldl
        (fun pending change => Pending.after? change (session.now + quiet) pending)
        (session.debouncer.find? path)) ∧
    (∀ pending ∈ session.debouncer.pending, watch.Covers pending.path) ∧
    session.drained.map (·.event? watch.directory) = session.frames.map some ∧
    (∀ change ∈ session.drained, ∃ behind,
      change.path.components = watch.directory.components ++ behind ∧
      change.event? watch.directory = some ⟨change.reloadKind,
        String.ofList ('/' :: Text.joinWith '/' (behind.filterMap Path.Component.name?))⟩) ∧
    ((∀ event, reported event → event.Found watch.directory) →
      ∀ change ∈ session.drained, ∃ names : List (List Char),
        change.path.components = watch.directory.components ++ names.map .name ∧
        change.event? watch.directory =
          some ⟨change.reloadKind, String.ofList ('/' :: Text.joinWith '/' names)⟩) ∧
    (∀ change : Change, change.reloadKind.name = "css" ↔
      change.kind ≠ .removed ∧ ∃ stem, stem ≠ [] ∧
        change.path.components.getLast? = some (.name (stem ++ ".css".toList))) ∧
    (∀ (left right : Path) (kind : ChangeKind), left.sameAs right = true →
      Change.event? ⟨left, kind⟩ watch.directory = Change.event? ⟨right, kind⟩ watch.directory) ∧
    (∀ (left right : Path) (leftNames rightNames : List (List Char)),
      left.components = watch.directory.components ++ leftNames.map .name →
      right.components = watch.directory.components ++ rightNames.map .name →
      urlPath? watch.directory left = urlPath? watch.directory right →
        left.sameAs right = true) := by
  have sound := sound_of_reaches reached
  refine ⟨?_, watch.mem_changes_iff, ?_, fun pending among => (sound.waiting pending among).covered,
    sound.announced, ?_, ?_, ?_, ?_, ?_⟩
  · intro event other
    simp [Debouncer.recordEvent, Watch.changes, FileEventKind.change?, other]
  · intro event path
    rw [Debouncer.find?_recordEvent watch session.now event path sound.distinct, sound.quiet_eq]
  · intro change among
    obtain ⟨behind, under⟩ := (sound.settled change among).covered.under
    exact ⟨behind, under.symm, Change.event?_of_under change under.symm⟩
  · intro found change among
    obtain ⟨names, under⟩ := (sound.settled change among).exists_names found
    refine ⟨names, under, ?_⟩
    rw [Change.event?_of_under change under, Path.filterMap_name?]
  · intro change
    rw [← change.reloadKind_eq_styles_iff]
    cases change.reloadKind <;> simp [ReloadKind.name]
  · intro left right kind same
    exact Change.event?_congr ((Path.sameAs_iff left right).mp same)
  · intro left right leftNames rightNames leftUnder rightUnder same
    exact urlPath?_inj leftUnder rightUnder same

theorem reaches_drained {event : FileEvent} {changes : List Change} (told : reported event)
    (settled : ({ quiet : Debouncer }.recordEvent watch 0 event).ready quiet = changes) :
    Reaches watch reported (started quiet 0)
      ⟨({ quiet : Debouncer }.recordEvent watch 0 event).drain quiet, quiet, changes,
        watch.announce changes⟩ := by
  have passed : Step watch reported
      ⟨({ quiet : Debouncer }).recordEvent watch 0 event, 0, [], []⟩ _ := .advance _ quiet
  rw [Nat.zero_add] at passed
  exact .tail (.tail (.single (.event _ event told)) passed)
    (.drain _ changes (.of_eq settled.symm))

theorem announces_new_style_sheet :
    let watch : Watch := ⟨.ofString "/site", ["**/*"]⟩
    let change : Change := ⟨.ofString "/site/css//a.css", .created⟩
    let waiting := { quiet := 100 : Debouncer }.recordEvent watch 0 ⟨.created, [change.path]⟩
    let session : Session := ⟨waiting.drain 100, 100, [change], [⟨.styles, "/css/a.css"⟩]⟩
    Reaches watch (·.Found watch.directory) (started 100 0) session ∧
      session.drained.map (·.event? watch.directory) = [some ⟨.styles, "/css/a.css"⟩] ∧
      ∃ names : List (List Char),
        change.path.components = watch.directory.components ++ names.map .name ∧
        change.event? watch.directory =
          some ⟨.styles, String.ofList ('/' :: Text.joinWith '/' names)⟩ := by
  intro watch change waiting session
  have settled : waiting.ready 100 = [change] := by decide +kernel
  have announced : watch.announce [change] = [⟨.styles, "/css/a.css"⟩] := by decide +kernel
  have styles : change.reloadKind = .styles := by decide +kernel
  have found : FileEvent.Found watch.directory ⟨.created, [change.path]⟩ := by
    intro path among behind under
    obtain rfl := List.mem_singleton.mp among
    have known : change.path.components = watch.directory.components ++
        ["css".toList, "a.css".toList].map .name := by decide +kernel
    exact ⟨_, List.append_cancel_left (under.symm.trans known)⟩
  have reached : Reaches watch (·.Found watch.directory) (started 100 0) _ :=
    reaches_drained found settled
  rw [announced] at reached
  obtain ⟨_, _, _, _, frames, _, named, _⟩ :=
    announces_each_settled_change watch _ 100 0 session reached
  obtain ⟨names, under, frame⟩ := named (fun _ told => told) change List.mem_cons_self
  exact ⟨reached, frames, names, under, styles ▸ frame⟩

end Session

end Workbench
