import Mathlib.Data.List.Induction
import Workbench.Reload.Audience

set_option autoImplicit false

namespace Workbench

namespace Channel

variable {α : Type} {channel : Channel α} {messages : List α} {number : Nat}

/-- A channel after a series of messages: it has counted them all, and has kept the last. -/
structure Carries (channel : Channel α) (messages : List α) : Prop where
  sent_eq : channel.sent = messages.length
  kept_eq : channel.kept = messages.drop (messages.length - channel.capacity)

theorem carries_withRoom (room : Nat) : (withRoom room : Channel α).Carries [] :=
  ⟨rfl, List.drop_nil.symm⟩

theorem Carries.send (carries : channel.Carries messages) (message : α) :
    (channel.send message).Carries (messages ++ [message]) where
  sent_eq := by simp [Channel.send, carries.sent_eq]
  kept_eq := by
    have front : messages.length - channel.capacity ≤ messages.length := Nat.sub_le _ _
    simp only [Channel.send, carries.kept_eq, ← List.drop_append_of_le_length front,
      List.drop_drop, List.length_drop, List.length_append, List.length_singleton]
    congr 1
    omega

theorem Carries.oldest_eq (carries : channel.Carries messages) :
    channel.oldest = messages.length - channel.capacity := by
  rw [oldest, carries.sent_eq, carries.kept_eq, List.length_drop]
  omega

theorem Carries.receive_overtaken (carries : channel.Carries messages)
    (overtaken : number + channel.capacity < messages.length) :
    channel.receive number = (.missed (messages.length - channel.capacity - number),
      messages.length - channel.capacity) := by
  have gone : number < messages.length - channel.capacity := by omega
  rw [receive, carries.oldest_eq, if_pos gone]

theorem Carries.receive_kept (carries : channel.Carries messages) {message : α}
    (kept : messages.length ≤ number + channel.capacity)
    (found : messages[number]? = some message) :
    channel.receive number = (.message message, number + 1) := by
  have left : ¬ number < messages.length - channel.capacity := by omega
  have place : messages.length - channel.capacity +
      (number - (messages.length - channel.capacity)) = number := by omega
  rw [receive, carries.oldest_eq, if_neg left, carries.kept_eq, List.getElem?_drop, place, found]

theorem Carries.receive_end (carries : channel.Carries messages)
    (behind : messages.length ≤ number) : channel.receive number = (.nothing, number) := by
  have left : ¬ number < messages.length - channel.capacity := by omega
  have beyond : (messages.drop (messages.length - channel.capacity))[number -
      (messages.length - channel.capacity)]? = none := by
    rw [List.getElem?_eq_none_iff, List.length_drop]
    omega
  rw [receive, carries.oldest_eq, if_neg left, carries.kept_eq, beyond]

end Channel

def Moment.event? : Moment -> Option ReloadEvent
  | .sent event => some event
  | _ => none

def broadcasts (moments : List Moment) : List ReloadEvent :=
  moments.filterMap Moment.event?

def joins (moments : List Moment) : Nat :=
  moments.count .joined

namespace Connection

-- There is nothing left that a connection has not got.
def Waits (connection : Connection) (channel : Channel ReloadEvent) : Prop :=
  channel.receive connection.receiver = (.nothing, connection.receiver)

def step (client : Nat) (channel : Channel ReloadEvent) (connection : Connection) :
    Moment -> Connection
  | .sent _ | .joined => connection
  | .said other word => if other = client then connection.hear word else connection
  | .lost other => if other = client then connection.lose else connection
  | .turn other source => if other = client then connection.turn channel source else connection

variable {client : Nat} {channel : Channel ReloadEvent} {connection : Connection}

theorem step_own (served : connection.isServed = true) :
    connection.step client channel (.turn client .channel) = connection.takeReceipt channel := by
  simp [step, turn, served]

theorem step_unserved (ended : ¬ connection.isServed = true) :
    connection.step client channel (.turn client .channel) = connection := by
  simp [step, turn, ended]

section
variable {events : List ReloadEvent}

theorem takeReceipt_overtaken (carries : channel.Carries events)
    (overtaken : connection.receiver + channel.capacity < events.length) :
    connection.takeReceipt channel =
      { connection with receiver := events.length - channel.capacity } := by
  rw [takeReceipt, carries.receive_overtaken overtaken]

theorem takeReceipt_end (carries : channel.Carries events)
    (behind : events.length ≤ connection.receiver) :
    connection.takeReceipt channel = connection := by
  rw [takeReceipt, carries.receive_end behind]

variable {event : ReloadEvent}

theorem takeReceipt_kept (carries : channel.Carries events)
    (kept : events.length ≤ connection.receiver + channel.capacity)
    (found : events[connection.receiver]? = some event) (up : connection.isUp = true) :
    connection.takeReceipt channel =
      { connection with
        receiver := connection.receiver + 1
        frames := connection.frames ++ [⟨connection.receiver, event.frame⟩] } := by
  simp [takeReceipt, carries.receive_kept kept found, up]

theorem takeReceipt_lost (carries : channel.Carries events)
    (kept : events.length ≤ connection.receiver + channel.capacity)
    (found : events[connection.receiver]? = some event) (lost : ¬ connection.isUp = true) :
    connection.takeReceipt channel =
      { connection with receiver := connection.receiver + 1, isServed := false } := by
  simp [takeReceipt, carries.receive_kept kept found, lost]

end

theorem step_other {moment : Moment} (other : moment ≠ .turn client .channel)
    (connection : Connection) (channel : Channel ReloadEvent) :
    (connection.step client channel moment).frames = connection.frames ∧
      (connection.step client channel moment).receiver = connection.receiver ∧
      ((connection.step client channel moment).isServed = true → connection.isServed = true) := by
  cases moment with
  | sent event => exact ⟨rfl, rfl, id⟩
  | joined => exact ⟨rfl, rfl, id⟩
  | said speaker word => by_cases own : speaker = client <;> simp [step, own, hear]
  | lost speaker => by_cases own : speaker = client <;> simp [step, own, lose]
  | turn speaker source =>
      by_cases own : speaker = client ∧ connection.isServed = true
      · obtain ⟨rfl, served⟩ := own
        cases source with
        | channel => exact absurd rfl other
        | browser => cases said : connection.said <;> simp [step, turn, served, takeWord, said]
      · by_cases same : speaker = client <;> simp_all [step, turn]

end Connection

namespace Audience

variable {audience : Audience} {client : Nat} {connection : Connection}

theorem run_concat (audience : Audience) (moments : List Moment) (moment : Moment) :
    audience.run (moments ++ [moment]) = (audience.run moments).step moment := by
  simp [run]

theorem broadcasts_concat (moments : List Moment) (moment : Moment) :
    broadcasts (moments ++ [moment]) = broadcasts moments ++ moment.event?.toList := by
  cases found : moment.event? <;> simp [broadcasts, found]

theorem channel_run (audience : Audience) (moments : List Moment) :
    (audience.run moments).channel = (broadcasts moments).foldl Channel.send audience.channel := by
  induction moments using List.reverseRecOn with
  | nil => rfl
  | append_singleton moments moment ih =>
      rw [run_concat, broadcasts_concat, List.foldl_append, ← ih]
      cases moment <;> rfl

theorem carries_run (moments : List Moment) :
    (run {} moments).channel.Carries (broadcasts moments) := by
  rw [channel_run]
  induction broadcasts moments using List.reverseRecOn with
  | nil => exact Channel.carries_withRoom reloadRoom
  | append_singleton events event ih => simpa using ih.send event

theorem capacity_run (moments : List Moment) : (run {} moments).channel.capacity = 128 := by
  rw [channel_run]
  induction broadcasts moments using List.reverseRecOn with
  | nil =>
      have rounded : reloadRoom.nextPowerOfTwo = 128 := by decide +kernel
      exact rounded
  | append_singleton events event ih => simpa [Channel.send] using ih

theorem connection_step (found : audience.connections[client]? = some connection)
    (moment : Moment) :
    (audience.step moment).connections[client]? =
      some (connection.step client audience.channel moment) := by
  cases moment with
  | sent event => exact found
  | joined =>
      obtain ⟨bound, -⟩ := List.getElem?_eq_some_iff.mp found
      rw [step, List.getElem?_append_left bound, found, Connection.step]
  | said other word =>
      by_cases same : other = client <;> simp [step, Connection.step, found, same]
  | lost other =>
      by_cases same : other = client <;> simp [step, Connection.step, found, same]
  | turn other source =>
      by_cases same : other = client <;> simp [step, Connection.step, found, same]

theorem length_connections_run (moments : List Moment) :
    (run {} moments).connections.length = joins moments := by
  induction moments using List.reverseRecOn with
  | nil => rfl
  | append_singleton moments moment ih =>
      rw [run_concat, joins, List.count_append, ← joins, ← ih]
      cases moment <;> simp [step]

theorem connection_joined (before : List Moment) :
    (run {} (before ++ [.joined])).connections[joins before]? =
      some { receiver := (broadcasts before).length } := by
  rw [run_concat, ← length_connections_run, ← (carries_run before).sent_eq]
  simp [step, Channel.subscribe]

end Audience

end Workbench
