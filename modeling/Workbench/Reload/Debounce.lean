import Workbench.Files.Path

set_option autoImplicit false

namespace Workbench

inductive ChangeKind
  | created
  | modified
  | removed
  deriving DecidableEq, Repr

def ChangeKind.merge : ChangeKind -> ChangeKind -> Option ChangeKind
  | .created, .removed => none
  | .created, _ => some .created
  | .modified, kind => some kind
  | .removed, .created => some .modified
  | .removed, _ => some .removed

structure Change where
  path : Path
  kind : ChangeKind
  deriving DecidableEq, Repr

structure Pending extends Change where
  deadline : Nat
  deriving DecidableEq, Repr

def Pending.record (change : Change) (deadline : Nat) : List Pending -> List Pending
  | [] => [⟨change, deadline⟩]
  | pending :: rest =>
      if pending.path.sameAs change.path then
        match pending.kind.merge change.kind with
        | some kind => ⟨⟨pending.path, kind⟩, deadline⟩ :: rest
        | none => rest
      else pending :: record change deadline rest

def Pending.isReady (now : Nat) (pending : Pending) : Bool :=
  pending.deadline ≤ now

structure Debouncer where
  quiet : Nat
  -- At most one for each path.
  pending : List Pending := []
  deriving DecidableEq, Repr

namespace Debouncer

def record (debouncer : Debouncer) (now : Nat) (change : Change) : Debouncer :=
  { debouncer with pending := Pending.record change (now + debouncer.quiet) debouncer.pending }

def ready (debouncer : Debouncer) (now : Nat) : List Change :=
  (debouncer.pending.filter (·.isReady now)).map (·.toChange)

def drain (debouncer : Debouncer) (now : Nat) : Debouncer :=
  { debouncer with pending := debouncer.pending.filter (!·.isReady now) }

def nextDeadline (debouncer : Debouncer) : Option Nat :=
  (debouncer.pending.map (·.deadline)).min?

end Debouncer

end Workbench
