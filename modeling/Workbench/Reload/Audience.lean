import Workbench.Reload.Channel
import Workbench.Reload.Event

set_option autoImplicit false

namespace Workbench

inductive Word
  | text (content : String)
  | bytes (content : List UInt8)
  | ping
  | pong
  | close
  | garbled
  deriving DecidableEq, Repr

def Word.ends : Word -> Bool
  | .close | .garbled => true
  | _ => false

structure Frame where
  number : Nat
  text : String
  deriving DecidableEq, Repr

inductive Source
  | channel
  | browser
  deriving DecidableEq, Repr

structure Connection where
  receiver : Receiver
  -- What the browser has said and no turn has taken yet, oldest first.
  said : List Word := []
  frames : List Frame := []
  isUp : Bool := true
  isServed : Bool := true
  deriving DecidableEq, Repr

namespace Connection

def hear (connection : Connection) (word : Word) : Connection :=
  { connection with said := connection.said ++ [word] }

def lose (connection : Connection) : Connection :=
  { connection with isUp := false }

def takeReceipt (connection : Connection) (channel : Channel ReloadEvent) : Connection :=
  match channel.receive connection.receiver with
  | (.message event, receiver) =>
      if connection.isUp then
        { connection with
          receiver := receiver
          frames := connection.frames ++ [⟨connection.receiver, event.frame⟩] }
      else { connection with receiver := receiver, isServed := false }
  -- Nothing is sent for what was missed.
  | (.missed _, receiver) => { connection with receiver := receiver }
  | (.nothing, receiver) => { connection with receiver := receiver }

def takeWord (connection : Connection) : Connection :=
  match connection.said with
  | [] => { connection with isServed := connection.isUp }
  | word :: rest => { connection with said := rest, isServed := !word.ends }

def turn (connection : Connection) (channel : Channel ReloadEvent) (source : Source) :
    Connection :=
  if connection.isServed then
    match source with
    | .channel => connection.takeReceipt channel
    | .browser => connection.takeWord
  else connection

end Connection

inductive Moment
  | sent (event : ReloadEvent)
  | joined
  | said (client : Nat) (word : Word)
  | lost (client : Nat)
  | turn (client : Nat) (source : Source)
  deriving DecidableEq, Repr

def reloadRoom : Nat := 100

structure Audience where
  channel : Channel ReloadEvent := .withRoom reloadRoom
  connections : List Connection := []

namespace Audience

def step (audience : Audience) : Moment -> Audience
  | .sent event => { audience with channel := audience.channel.send event }
  | .joined =>
      { audience with
        connections := audience.connections ++ [{ receiver := audience.channel.subscribe }] }
  | .said client word =>
      { audience with connections := audience.connections.modify client (·.hear word) }
  | .lost client => { audience with connections := audience.connections.modify client (·.lose) }
  | .turn client source =>
      { audience with
        connections := audience.connections.modify client (·.turn audience.channel source) }

def run (audience : Audience) (moments : List Moment) : Audience :=
  moments.foldl step audience

end Audience

end Workbench
