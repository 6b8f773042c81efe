import Workbench.Proofs.Reload.Delivery

set_option autoImplicit false

namespace Workbench

open Audience

def IsPage (events : List ReloadEvent) (number : Nat) : Prop :=
  ∃ path, events[number]? = some ⟨.page, path⟩

-- No page event comes behind this one.
def IsLastPage (events : List ReloadEvent) (number : Nat) : Prop :=
  IsPage events number ∧ ∀ later, number < later → ¬ IsPage events later

theorem IsPage.lt_length {events : List ReloadEvent} {number : Nat}
    (page : IsPage events number) : number < events.length :=
  let ⟨_, found⟩ := page
  (List.getElem?_eq_some_iff.mp found).1

theorem exists_isLastPage {events : List ReloadEvent} {number : Nat}
    (page : IsPage events number) : ∃ last, number ≤ last ∧ IsLastPage events last := by
  by_cases more : ∃ later, number < later ∧ IsPage events later
  · obtain ⟨later, behind, again⟩ := more
    have shorter := page.lt_length
    obtain ⟨last, far, isLast⟩ := exists_isLastPage again
    exact ⟨last, behind.le.trans far, isLast⟩
  · exact ⟨number, le_rfl, page, fun later behind again => more ⟨later, behind, again⟩⟩
termination_by events.length - number

-- For every page event since a browser came, a frame that asks to reload the page was sent to it,
-- for that event or a later one.
def Reloaded (before after : List Moment) (connection : Connection) : Prop :=
  ∀ number, (broadcasts before).length ≤ number →
    IsPage (broadcasts (before ++ .joined :: after)) number →
    ∃ frame ∈ connection.frames, number ≤ frame.number ∧
      ∃ path, (broadcasts (before ++ .joined :: after))[frame.number]? = some ⟨.page, path⟩ ∧
        frame.text = (ReloadEvent.mk .page path).frame

section
variable {before after : List Moment} {connection : Connection}

theorem Follows.exists_frame (follows : Follows before after connection) {number : Nat}
    (told : number ∈ connection.frames.map (·.number)) {event : ReloadEvent}
    (found : (broadcasts (before ++ .joined :: after))[number]? = some event) :
    ⟨number, event.frame⟩ ∈ connection.frames := by
  obtain ⟨frame, member, rfl⟩ := List.mem_map.mp told
  obtain ⟨-, -, text⟩ := follows.told frame member
  rw [found, Option.map_some, Option.some.injEq] at text
  rw [text]
  exact member

theorem reloaded_iff (follows : Follows before after connection)
    (served : connection.isServed = true)
    (waits : connection.Waits (run {} (before ++ .joined :: after)).channel) :
    Reloaded before after connection ↔
      ∀ number, (broadcasts before).length ≤ number →
        IsLastPage (broadcasts (before ++ .joined :: after)) number →
        ¬ Overtaken before after number := by
  constructor
  · intro reloaded number since isLast overtaken
    obtain ⟨frame, member, behind, path, found, -⟩ := reloaded number since isLast.1
    have same : frame.number = number :=
      le_antisymm (Nat.not_lt.mp fun later => isLast.2 _ later ⟨path, found⟩) behind
    exact follows.untold number overtaken (same ▸ List.mem_map_of_mem member)
  · intro timely number since page
    obtain ⟨last, behind, isLast⟩ := exists_isLastPage page
    obtain ⟨path, found⟩ := isLast.1
    have known := mt (follows.untold_iff served waits (since.trans behind) isLast.1.lt_length).mp
      (timely last (since.trans behind) isLast)
    exact ⟨_, follows.exists_frame (not_not.mp known) found, behind, path, found, rfl⟩

theorem not_overtaken_of_recent {number : Nat}
    (recent : (broadcasts (before ++ .joined :: after)).length ≤ number + 128) :
    ¬ Overtaken before after number := by
  rintro ⟨earlier, ⟨later, rfl⟩, -, many⟩
  rw [← List.cons_append, ← List.append_assoc, broadcasts, List.filterMap_append, ← broadcasts,
    List.length_append] at recent
  omega

end

/-- A browser for which nothing is left has reloaded its page for all page events just when the
last one was not overtaken. In any case it was told of the last 128 events. -/
theorem page_reloads_unless_last_was_overtaken (before after : List Moment)
    (connection : Connection)
    (connected :
      (run {} (before ++ .joined :: after)).connections[joins before]? = some connection)
    (served : connection.isServed = true)
    (waits : connection.Waits (run {} (before ++ .joined :: after)).channel) :
    (Reloaded before after connection ↔
      ∀ number, (broadcasts before).length ≤ number →
        IsLastPage (broadcasts (before ++ .joined :: after)) number →
        ¬ Overtaken before after number) ∧
    (∀ number event, (broadcasts before).length ≤ number →
      (broadcasts (before ++ .joined :: after)).length ≤ number + 128 →
      (broadcasts (before ++ .joined :: after))[number]? = some event →
      ⟨number, event.frame⟩ ∈ connection.frames) := by
  obtain ⟨other, follows⟩ := Follows.of_run before after
  obtain rfl := Option.some.inj (connected.symm.trans follows.connected)
  refine ⟨reloaded_iff follows served waits, ?_⟩
  intro number event since recent found
  have sent := (List.getElem?_eq_some_iff.mp found).1
  have known := mt (follows.untold_iff served waits since sent).mp (not_overtaken_of_recent recent)
  exact follows.exists_frame (not_not.mp known) found

theorem page_edit_reloads_page :
    let page : ReloadEvent := ⟨.page, "/index.html"⟩
    let after : List Moment := [.sent page, .turn 0 .channel]
    let connection : Connection := { receiver := 1, frames := [⟨0, page.frame⟩] }
    (run {} (.joined :: after)).connections[0]? = some connection ∧
      Reloaded [] after connection := by
  intro page after connection
  have connected : (run {} (.joined :: after)).connections[0]? = some connection := by
    decide +kernel
  have waits : connection.Waits (run {} (.joined :: after)).channel := by
    unfold Connection.Waits
    decide +kernel
  refine ⟨connected, (page_reloads_unless_last_was_overtaken [] after connection connected rfl
    waits).1.mpr ?_⟩
  intro number _ _
  exact not_overtaken_of_recent (Nat.le_add_left_of_le (by decide))

section
variable {before after : List Moment} {connection : Connection}

theorem Follows.sent (follows : Follows before after connection) (events : List ReloadEvent) :
    Follows before (after ++ events.map .sent) connection := by
  induction events using List.reverseRecOn with
  | nil => simpa using follows
  | append_singleton events event ih =>
      rw [List.map_append, ← List.append_assoc]
      exact ih.step (.sent event)

end

theorem not_reloaded_of_burst (before : List Moment) (path : String) {burst : List ReloadEvent}
    (styles : ∀ event ∈ burst, event.kind = .styles) (many : 128 ≤ burst.length) :
    ∃ connection, Follows before ((⟨.page, path⟩ :: burst).map .sent ++
        List.replicate 129 (.turn (joins before) .channel)) connection ∧
      connection.isServed = true ∧
      connection.Waits (run {} (before ++ .joined :: ((⟨.page, path⟩ :: burst).map .sent ++
        List.replicate 129 (.turn (joins before) .channel)))).channel ∧
      ¬ Reloaded before ((⟨.page, path⟩ :: burst).map .sent ++
        List.replicate 129 (.turn (joins before) .channel)) connection := by
  have sent := (Follows.start before).sent (⟨.page, path⟩ :: burst)
  rw [List.nil_append] at sent
  have quiet : broadcasts (List.replicate 129 (.turn (joins before) .channel)) = [] := rfl
  have stays : Stays (joins before) ((⟨.page, path⟩ :: burst).map .sent ++
      List.replicate 129 (.turn (joins before) .channel)) := by
    constructor <;> simp
  obtain ⟨connection, follows⟩ := Follows.of_run before ((⟨.page, path⟩ :: burst).map .sent ++
    List.replicate 129 (.turn (joins before) .channel))
  have served := (follows.served_of_stays stays).1
  have waits := follows.waits_of_turns stays quiet List.count_replicate_self.ge
  refine ⟨connection, follows, served, waits, ?_⟩
  have events : broadcasts (before ++ .joined :: (⟨.page, path⟩ :: burst).map .sent) =
      broadcasts before ++ ⟨.page, path⟩ :: burst := by
    rw [broadcasts, List.filterMap_append, ← broadcasts, List.filterMap_cons_none rfl,
      List.filterMap_map]
    simp [Function.comp_def, Moment.event?]
  have last : IsLastPage (broadcasts before ++ ⟨.page, path⟩ :: burst)
      (broadcasts before).length := by
    refine ⟨⟨path, by simp⟩, ?_⟩
    rintro later behind ⟨other, found⟩
    rw [List.getElem?_append_right behind.le, List.getElem?_cons,
      if_neg (Nat.sub_pos_of_lt behind).ne'] at found
    have style : ReloadKind.page = .styles := styles _ (List.mem_of_getElem? found)
    contradiction
  have overtaken : Overtaken before ((⟨.page, path⟩ :: burst).map .sent ++
      List.replicate 129 (.turn (joins before) .channel)) (broadcasts before).length := by
    refine ⟨_, List.prefix_append _ _, ?_, ?_⟩
    · rw [told_iff sent.connected]
      exact List.not_mem_nil
    · rw [events]
      simp
      omega
  rw [reloaded_iff follows served waits, broadcasts_later _ _ quiet, events]
  exact fun timely => timely _ le_rfl last overtaken

theorem page_edit_lost_behind_style_edits :
    let page : ReloadEvent := ⟨.page, "/index.html"⟩
    let style : ReloadEvent := ⟨.styles, "/css/app.css"⟩
    let after := (page :: List.replicate 128 style).map .sent ++
      List.replicate 129 (.turn 0 .channel)
    ¬ ∀ connection, (run {} (.joined :: after)).connections[0]? = some connection →
      connection.isServed = true → connection.Waits (run {} (.joined :: after)).channel →
      Reloaded [] after connection := by
  intro page style after reloaded
  have styles : ∀ event ∈ List.replicate 128 style, event.kind = .styles := fun event among =>
    List.eq_of_mem_replicate among ▸ rfl
  obtain ⟨connection, follows, served, waits, lost⟩ :=
    not_reloaded_of_burst [] "/index.html" styles (by simp)
  exact lost (reloaded connection follows.connected served waits)

end Workbench
