import Mathlib.Data.List.Infix
import Mathlib.Data.List.Pairwise
import Workbench.Proofs.Reload.Turns

set_option autoImplicit false

namespace Workbench

namespace Audience

-- A client has been sent a frame for the event of a number.
def Told (audience : Audience) (client number : Nat) : Prop :=
  ∃ connection, audience.connections[client]? = some connection ∧
    number ∈ connection.frames.map (·.number)

end Audience

open Audience

/-- For a browser that came between two series of moments: 128 more events had been broadcast
behind one before the browser was told of it. -/
def Overtaken (before after : List Moment) (number : Nat) : Prop :=
  ∃ earlier, earlier <+: after ∧
    ¬ (run {} (before ++ .joined :: earlier)).Told (joins before) number ∧
    number + 128 < (broadcasts (before ++ .joined :: earlier)).length

theorem overtaken_concat_iff (before after : List Moment) (moment : Moment) (number : Nat) :
    Overtaken before (after ++ [moment]) number ↔ Overtaken before after number ∨
      ¬ (run {} (before ++ .joined :: (after ++ [moment]))).Told (joins before) number ∧
        number + 128 < (broadcasts (before ++ .joined :: (after ++ [moment]))).length := by
  simp only [Overtaken, List.prefix_concat_iff, or_and_right, exists_or, exists_eq_left]
  exact or_comm

theorem Audience.told_iff {audience : Audience} {client : Nat} {connection : Connection}
    (found : audience.connections[client]? = some connection) (number : Nat) :
    audience.Told client number ↔ number ∈ connection.frames.map (·.number) := by
  simp [Told, found]

/-- What holds of a browser's connection, however things have gone since it came. -/
structure Follows (before after : List Moment) (connection : Connection) : Prop where
  connected : (run {} (before ++ .joined :: after)).connections[joins before]? = some connection
  since : (broadcasts before).length ≤ connection.receiver
  behind : connection.receiver ≤ (broadcasts (before ++ .joined :: after)).length
  ascending : (connection.frames.map (·.number)).Pairwise (· < ·)
  told : ∀ frame ∈ connection.frames, (broadcasts before).length ≤ frame.number ∧
    frame.number < connection.receiver ∧
    (broadcasts (before ++ .joined :: after))[frame.number]?.map (·.frame) = some frame.text
  untold : ∀ number, Overtaken before after number → number ∉ connection.frames.map (·.number)
  missed : connection.isServed = true → ∀ number, (broadcasts before).length ≤ number →
    number < connection.receiver → number ∉ connection.frames.map (·.number) →
    Overtaken before after number

namespace Follows

variable {before after : List Moment} {moment : Moment} {connection next : Connection}

theorem start (before : List Moment) :
    Follows before [] { receiver := (broadcasts before).length } where
  connected := connection_joined before
  since := le_rfl
  behind := by simp [broadcasts]
  ascending := .nil
  told := by simp
  untold := by simp
  missed _ number since passed := absurd passed (Nat.not_lt.mpr since)

theorem broadcasts_next (before after : List Moment) (moment : Moment) :
    broadcasts (before ++ .joined :: (after ++ [moment])) =
      broadcasts (before ++ .joined :: after) ++ moment.event?.toList := by
  rw [← List.cons_append, ← List.append_assoc, broadcasts_concat]

theorem pass (follows : Follows before after connection)
    (connected : (run {} (before ++ .joined :: (after ++ [moment]))).connections[joins before]? =
      some next)
    (frames : next.frames = connection.frames)
    (forward : connection.receiver ≤ next.receiver)
    (behind : next.receiver ≤ (broadcasts (before ++ .joined :: (after ++ [moment]))).length)
    (served : next.isServed = true → connection.isServed = true ∧
      ∀ number, connection.receiver ≤ number → number < next.receiver →
        number + 128 < (broadcasts (before ++ .joined :: (after ++ [moment]))).length) :
    Follows before (after ++ [moment]) next where
  connected := connected
  since := follows.since.trans forward
  behind := behind
  ascending := frames ▸ follows.ascending
  told frame member := by
    obtain ⟨since, passed, text⟩ := follows.told frame (frames ▸ member)
    refine ⟨since, passed.trans_le forward, ?_⟩
    rw [broadcasts_next, List.getElem?_append_left (passed.trans_le follows.behind), text]
  untold number overtaken := by
    obtain earlier | ⟨untold, -⟩ := (overtaken_concat_iff before after moment number).mp overtaken
    · exact frames ▸ follows.untold number earlier
    · exact fun member => untold ((told_iff connected number).mpr member)
  missed live number since passed untold := by
    obtain ⟨was, skipped⟩ := served live
    rw [overtaken_concat_iff]
    by_cases old : number < connection.receiver
    · exact .inl (follows.missed was number since old (frames ▸ untold))
    · exact .inr ⟨fun told => untold ((told_iff connected number).mp told),
        skipped number (Nat.not_lt.mp old) passed⟩

theorem tell (follows : Follows before after connection) {event : ReloadEvent}
    (silent : moment.event? = none)
    (fresh : (broadcasts (before ++ .joined :: after)).length ≤ connection.receiver + 128)
    (found : (broadcasts (before ++ .joined :: after))[connection.receiver]? = some event)
    (connected : (run {} (before ++ .joined :: (after ++ [moment]))).connections[joins before]? =
      some { connection with
        receiver := connection.receiver + 1
        frames := connection.frames ++ [⟨connection.receiver, event.frame⟩] }) :
    Follows before (after ++ [moment])
      { connection with
        receiver := connection.receiver + 1
        frames := connection.frames ++ [⟨connection.receiver, event.frame⟩] } := by
  have same : broadcasts (before ++ .joined :: (after ++ [moment])) =
      broadcasts (before ++ .joined :: after) := by
    rw [broadcasts_next, silent, Option.toList_none, List.append_nil]
  have numbers : (connection.frames ++ [Frame.mk connection.receiver event.frame]).map (·.number) =
      connection.frames.map (·.number) ++ [connection.receiver] := by simp
  have earlier {number : Nat} (member : number ∈ connection.frames.map (·.number)) :
      number < connection.receiver := by
    obtain ⟨frame, inside, rfl⟩ := List.mem_map.mp member
    exact (follows.told frame inside).2.1
  refine ⟨connected, follows.since.trans (Nat.le_succ _), ?_, ?_, ?_, ?_, ?_⟩
  · rw [same]
    exact (List.getElem?_eq_some_iff.mp found).1
  · rw [numbers, List.pairwise_append]
    refine ⟨follows.ascending, List.pairwise_singleton _ _, ?_⟩
    intro number member last isLast
    rw [List.mem_singleton.mp isLast]
    exact earlier member
  · intro frame member
    rw [same]
    obtain inside | isLast := List.mem_append.mp member
    · obtain ⟨since, passed, text⟩ := follows.told frame inside
      exact ⟨since, Nat.lt_succ_of_lt passed, text⟩
    · rw [List.mem_singleton.mp isLast, found]
      exact ⟨follows.since, Nat.lt_succ_self _, rfl⟩
  · intro number overtaken member
    rw [overtaken_concat_iff, told_iff connected] at overtaken
    obtain overtakenBefore | ⟨untold, -⟩ := overtaken
    · -- What was overtaken before is too old to be the one that is told now.
      obtain ⟨old, start, untold, many⟩ := overtakenBefore
      rw [numbers, List.mem_append, List.mem_singleton] at member
      obtain inside | rfl := member
      · exact follows.untold number ⟨old, start, untold, many⟩ inside
      · obtain ⟨later, rfl⟩ := start
        rw [← List.cons_append, ← List.append_assoc, broadcasts, List.filterMap_append,
          ← broadcasts, List.length_append] at fresh
        omega
    · exact untold member
  · intro live number since passed untold
    rw [numbers, List.mem_append, List.mem_singleton, not_or] at untold
    rw [overtaken_concat_iff]
    have passedHere : number < connection.receiver := by
      have := untold.2
      have : number < connection.receiver + 1 := passed
      omega
    exact .inl (follows.missed live number since passedHere untold.1)

theorem takeReceipt (follows : Follows before after connection)
    (served : connection.isServed = true) :
    Follows before (after ++ [.turn (joins before) .channel])
      (connection.takeReceipt (run {} (before ++ .joined :: after)).channel) := by
  have connected := connection_step follows.connected (.turn (joins before) .channel)
  rw [← run_concat, List.append_assoc, List.cons_append, Connection.step_own served] at connected
  have same : broadcasts (before ++ .joined :: (after ++ [.turn (joins before) .channel])) =
      broadcasts (before ++ .joined :: after) := by simp [broadcasts_next, Moment.event?]
  have carries := carries_run (before ++ .joined :: after)
  have capacity := capacity_run (before ++ .joined :: after)
  have behind := follows.behind
  obtain gone | kept := Nat.lt_or_ge (connection.receiver + 128)
    (broadcasts (before ++ .joined :: after)).length
  · rw [Connection.takeReceipt_overtaken carries (capacity ▸ gone), capacity] at connected ⊢
    refine follows.pass connected rfl (Nat.le_sub_of_add_le gone.le) ?_ fun _ => ⟨served, ?_⟩
    · rw [same]
      exact Nat.sub_le _ _
    · intro number _ passed
      rw [same]
      exact Nat.add_lt_of_lt_sub passed
  · obtain last | next := behind.eq_or_lt
    · rw [Connection.takeReceipt_end carries last.ge] at connected ⊢
      refine follows.pass connected rfl le_rfl (same ▸ behind) fun _ => ⟨served, ?_⟩
      exact fun number old passed => absurd passed (Nat.not_lt.mpr old)
    · have found := List.getElem?_eq_getElem next
      by_cases up : connection.isUp = true
      · rw [Connection.takeReceipt_kept carries (capacity ▸ kept) found up] at connected ⊢
        exact follows.tell rfl kept found connected
      · rw [Connection.takeReceipt_lost carries (capacity ▸ kept) found up] at connected ⊢
        exact follows.pass connected rfl (Nat.le_succ _) (same ▸ next) nofun

theorem step (follows : Follows before after connection) (moment : Moment) :
    Follows before (after ++ [moment]) (connection.step (joins before)
      (run {} (before ++ .joined :: after)).channel moment) := by
  have connected := connection_step follows.connected moment
  rw [← run_concat, List.append_assoc, List.cons_append] at connected
  have behind : connection.receiver ≤
      (broadcasts (before ++ .joined :: (after ++ [moment]))).length := by
    rw [broadcasts_next, List.length_append]
    exact Nat.le_add_right_of_le follows.behind
  by_cases own : moment = .turn (joins before) .channel
  · subst own
    by_cases served : connection.isServed = true
    · rw [Connection.step_own served]
      exact follows.takeReceipt served
    · rw [Connection.step_unserved served] at connected ⊢
      exact follows.pass connected rfl le_rfl behind fun live => absurd live served
  · obtain ⟨frames, receiver, served⟩ := connection.step_other own
      (run {} (before ++ .joined :: after)).channel
    refine follows.pass connected frames receiver.ge (receiver ▸ behind) fun live =>
      ⟨served live, fun number old passed => ?_⟩
    rw [receiver] at passed
    exact absurd passed (Nat.not_lt.mpr old)

theorem of_run (before after : List Moment) : ∃ connection, Follows before after connection := by
  induction after using List.reverseRecOn with
  | nil => exact ⟨_, start before⟩
  | append_singleton after moment ih =>
      obtain ⟨connection, follows⟩ := ih
      exact ⟨_, follows.step moment⟩

theorem waits_iff (follows : Follows before after connection) :
    connection.Waits (run {} (before ++ .joined :: after)).channel ↔
      connection.receiver = (broadcasts (before ++ .joined :: after)).length := by
  have carries := carries_run (before ++ .joined :: after)
  have capacity := capacity_run (before ++ .joined :: after)
  unfold Connection.Waits
  constructor
  · intro waits
    by_contra early
    have next := lt_of_le_of_ne follows.behind early
    obtain gone | kept := Nat.lt_or_ge (connection.receiver + 128)
      (broadcasts (before ++ .joined :: after)).length
    · simp [carries.receive_overtaken (capacity ▸ gone)] at waits
    · simp [carries.receive_kept (capacity ▸ kept) (List.getElem?_eq_getElem next)] at waits
  · exact fun last => carries.receive_end last.ge

theorem untold_iff (follows : Follows before after connection) {number : Nat}
    (served : connection.isServed = true)
    (waits : connection.Waits (run {} (before ++ .joined :: after)).channel)
    (since : (broadcasts before).length ≤ number)
    (sent : number < (broadcasts (before ++ .joined :: after)).length) :
    number ∉ connection.frames.map (·.number) ↔ Overtaken before after number :=
  ⟨follows.missed served number since (follows.waits_iff.mp waits ▸ sent), follows.untold number⟩

end Follows

-- The moments that the frames of a client come from.
def Moment.matters (client : Nat) : Moment -> Bool
  | .sent _ | .joined => true
  | .turn other source => other == client && source == .channel
  | .said _ _ | .lost _ => false

-- A client says nothing that ends its connection, and can be reached.
def Stays (client : Nat) (moments : List Moment) : Prop :=
  (∀ word, .said client word ∈ moments → word.ends = false) ∧ .lost client ∉ moments

theorem stays_append_iff {client : Nat} {moments later : List Moment} :
    Stays client (moments ++ later) ↔ Stays client moments ∧ Stays client later := by
  simp only [Stays, List.mem_append, or_imp, forall_and, not_or]
  exact and_and_and_comm

-- Two connections that are served alike, though only the first one has words to take.
structure Alike (left right : Connection) : Prop where
  receiver : left.receiver = right.receiver
  frames : left.frames = right.frames
  harmless : ∀ word ∈ left.said, word.ends = false
  up : left.isUp = true ∧ right.isUp = true
  served : left.isServed = true ∧ right.isServed = true

namespace Alike

variable {left right : Connection} {client : Nat}

theorem takeReceipt (alike : Alike left right) (channel : Channel ReloadEvent) :
    Alike (left.takeReceipt channel) (right.takeReceipt channel) := by
  obtain ⟨receiver, frames, harmless, up, served⟩ := alike
  simp only [Connection.takeReceipt, receiver]
  split
  · rw [if_pos up.1, if_pos up.2]
    exact ⟨rfl, by rw [frames], harmless, up, served⟩
  · exact ⟨rfl, frames, harmless, up, served⟩
  · exact ⟨rfl, frames, harmless, up, served⟩

theorem takeWord (alike : Alike left right) : Alike left.takeWord right := by
  obtain ⟨receiver, frames, harmless, up, served⟩ := alike
  unfold Connection.takeWord
  split
  next => exact ⟨receiver, frames, harmless, up, up.1, served.2⟩
  next word rest said =>
    have plain : word.ends = false := harmless word (said ▸ List.mem_cons_self)
    have others : ∀ other ∈ rest, other.ends = false := fun other among =>
      harmless other (said ▸ List.mem_cons_of_mem word among)
    exact ⟨receiver, frames, others, up, by simp [plain], served.2⟩

theorem step {moment : Moment} (alike : Alike left right) (stays : Stays client [moment])
    (channel : Channel ReloadEvent) :
    Alike (left.step client channel moment)
      (if moment.matters client then right.step client channel moment else right) := by
  cases moment with
  | sent event => exact alike
  | joined => exact alike
  | said other word =>
      by_cases own : other = client
      · subst own
        have plain : word.ends = false := stays.1 word List.mem_cons_self
        have harmless : ∀ other ∈ (left.hear word).said, other.ends = false := by
          intro other among
          obtain old | new := List.mem_append.mp among
          · exact alike.harmless other old
          · exact List.mem_singleton.mp new ▸ plain
        have heard : Alike (left.hear word) right :=
          ⟨alike.receiver, alike.frames, harmless, alike.up, alike.served⟩
        simpa [Connection.step, Moment.matters] using heard
      · simpa [Connection.step, own, Moment.matters] using alike
  | lost other =>
      have own : other ≠ client := fun same => stays.2 (same ▸ List.mem_cons_self)
      simpa [Connection.step, own, Moment.matters] using alike
  | turn other source =>
      by_cases own : other = client
      · subst own
        cases source with
        | channel =>
            rw [Connection.step_own alike.served.1, Connection.step_own alike.served.2]
            simpa [Moment.matters] using alike.takeReceipt channel
        | browser =>
            simpa [Connection.step, Connection.turn, alike.served.1, Moment.matters] using
              alike.takeWord
      · simpa [Connection.step, own, Moment.matters] using alike

end Alike

theorem broadcasts_filter (client : Nat) (moments : List Moment) :
    broadcasts (moments.filter (·.matters client)) = broadcasts moments := by
  rw [broadcasts, List.filterMap_filter]
  congr 1
  funext moment
  cases moment <;> simp [Moment.matters, Moment.event?]

theorem joins_filter (client : Nat) (moments : List Moment) :
    joins (moments.filter (·.matters client)) = joins moments :=
  List.count_filter rfl

theorem alike_run (before after : List Moment) (stays : Stays (joins before) after) :
    ∃ left right,
      (run {} (before ++ .joined :: after)).connections[joins before]? = some left ∧
      (run {} ((before ++ .joined :: after).filter (·.matters (joins before)))).connections[joins
        before]? = some right ∧ Alike left right := by
  have joined : (before ++ [Moment.joined]).filter (·.matters (joins before)) =
      before.filter (·.matters (joins before)) ++ [.joined] := by
    rw [List.filter_append]
    rfl
  induction after using List.reverseRecOn with
  | nil =>
      have right := connection_joined (before.filter (·.matters (joins before)))
      rw [joins_filter, broadcasts_filter, ← joined] at right
      exact ⟨_, _, connection_joined before, right, rfl, rfl, by simp, ⟨rfl, rfl⟩, ⟨rfl, rfl⟩⟩
  | append_singleton after moment ih =>
      obtain ⟨earlier, now⟩ := stays_append_iff.mp stays
      obtain ⟨left, right, leftFound, rightFound, alike⟩ := ih earlier
      have next := alike.step now (run {} (before ++ .joined :: after)).channel
      have same : (run {} ((before ++ .joined :: after).filter
          (·.matters (joins before)))).channel = (run {} (before ++ .joined :: after)).channel := by
        rw [channel_run, channel_run, broadcasts_filter]
      have leftNext := connection_step leftFound moment
      have rightNext := connection_step rightFound moment
      rw [← run_concat, List.append_assoc, List.cons_append] at leftNext
      rw [same, ← run_concat] at rightNext
      refine ⟨_, _, leftNext, ?_, next⟩
      rw [← List.cons_append, ← List.append_assoc, List.filter_append]
      by_cases matters : moment.matters (joins before) = true
      · simpa [matters] using rightNext
      · simpa [matters] using rightFound

section
variable {before after later : List Moment} {connection next : Connection}

theorem Follows.unique (follows : Follows before after connection)
    (others : Follows before after next) : connection = next :=
  Option.some.inj (follows.connected.symm.trans others.connected)

theorem Follows.served_of_stays (follows : Follows before after connection)
    (stays : Stays (joins before) after) :
    connection.isServed = true ∧ connection.isUp = true := by
  obtain ⟨left, _, found, _, alike⟩ := alike_run before after stays
  obtain rfl := Option.some.inj (follows.connected.symm.trans found)
  exact ⟨alike.served.1, alike.up.1⟩

theorem broadcasts_later (before after : List Moment) (quiet : broadcasts later = []) :
    broadcasts (before ++ .joined :: (after ++ later)) =
      broadcasts (before ++ .joined :: after) := by
  rw [← List.cons_append, ← List.append_assoc, broadcasts, List.filterMap_append, ← broadcasts,
    ← broadcasts, quiet, List.append_nil]

theorem Follows.gains (far : Follows before (after ++ later) next)
    (stays : Stays (joins before) (after ++ later)) (quiet : broadcasts later = []) :
    later.count (.turn (joins before) .channel) = 0 ∨
      (broadcasts (before ++ .joined :: after)).length ≤
        next.receiver + (129 - later.count (.turn (joins before) .channel)) := by
  induction later using List.reverseRecOn generalizing next with
  | nil => exact .inl rfl
  | append_singleton later moment ih =>
      obtain ⟨middle, near⟩ := Follows.of_run before (after ++ later)
      rw [← List.append_assoc] at far stays
      rw [broadcasts_concat, List.append_eq_nil_iff] at quiet
      obtain ⟨earlier, -⟩ := stays_append_iff.mp stays
      have left := ih near earlier quiet.1
      have step := near.step moment
      rw [far.unique step, List.count_append]
      by_cases own : moment = .turn (joins before) .channel
      · subst own
        obtain ⟨served, up⟩ := near.served_of_stays earlier
        have carries := carries_run (before ++ .joined :: (after ++ later))
        have capacity := capacity_run (before ++ .joined :: (after ++ later))
        rw [broadcasts_later before after quiet.1] at carries
        rw [Connection.step_own served, List.count_singleton_self]
        obtain gone | kept := Nat.lt_or_ge (middle.receiver + 128)
          (broadcasts (before ++ .joined :: after)).length
        · rw [Connection.takeReceipt_overtaken carries (capacity ▸ gone), capacity]
          right
          dsimp only
          omega
        · obtain more | ended := Nat.lt_or_ge middle.receiver
            (broadcasts (before ++ .joined :: after)).length
          · rw [Connection.takeReceipt_kept carries (capacity ▸ kept)
              (List.getElem?_eq_getElem more) up]
            right
            dsimp only
            omega
          · rw [Connection.takeReceipt_end carries ended]
            exact .inr (Nat.le_add_right_of_le ended)
      · obtain ⟨-, receiver, -⟩ := middle.step_other own
          (run {} (before ++ .joined :: (after ++ later))).channel
        rw [receiver, List.count_singleton, if_neg (by simpa using own)]
        exact left

theorem Follows.waits_of_turns (far : Follows before (after ++ later) next)
    (stays : Stays (joins before) (after ++ later)) (quiet : broadcasts later = [])
    (enough : 129 ≤ later.count (.turn (joins before) .channel)) :
    next.Waits (run {} (before ++ .joined :: (after ++ later))).channel := by
  have ended : (broadcasts (before ++ .joined :: after)).length ≤ next.receiver := by
    obtain first | left := far.gains stays quiet <;> omega
  refine far.waits_iff.mpr (le_antisymm far.behind ?_)
  rwa [broadcasts_later before after quiet]

end

end Workbench
