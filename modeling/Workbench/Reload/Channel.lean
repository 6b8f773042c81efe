set_option autoImplicit false

namespace Workbench

structure Channel (α : Type) where
  capacity : Nat
  sent : Nat := 0
  -- The last of them, oldest first.
  kept : List α := []
  kept_le_sent : kept.length ≤ sent := by simp

abbrev Receiver := Nat

inductive Receipt (α : Type)
  | message (content : α)
  | missed (count : Nat)
  | nothing
  deriving DecidableEq, Repr

namespace Channel

variable {α : Type}

def withRoom (room : Nat) : Channel α where
  capacity := room.nextPowerOfTwo

def send (channel : Channel α) (message : α) : Channel α where
  capacity := channel.capacity
  sent := channel.sent + 1
  kept :=
    let kept := channel.kept ++ [message]
    kept.drop (kept.length - channel.capacity)
  kept_le_sent := by
    have := channel.kept_le_sent
    simp only [List.length_drop, List.length_append, List.length_singleton]
    omega

def subscribe (channel : Channel α) : Receiver :=
  channel.sent

def oldest (channel : Channel α) : Nat :=
  channel.sent - channel.kept.length

def receive (channel : Channel α) (receiver : Receiver) : Receipt α × Receiver :=
  -- What comes next is gone: the receiver goes on with the oldest message that is left.
  if receiver < channel.oldest then
    (.missed (channel.oldest - receiver), channel.oldest)
  else
    match channel.kept[receiver - channel.oldest]? with
    | some message => (.message message, receiver + 1)
    | none => (.nothing, receiver)

end Channel

end Workbench
