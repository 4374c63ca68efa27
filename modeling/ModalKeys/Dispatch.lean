import ModalKeys.Editor

/-!
# Dispatch

One task owns the editor. Callers send it keys over a channel and wait for the answer, but only so
long: a caller that gives up has let its key through. The task takes requests in order and skips a
key whose caller has given up by then. Taking a key and finishing it are separate steps, because a
slow control can keep the task at work while callers give up. A schedule is meant to end where its
editor fails.
-/

namespace ModalKeys

inductive Reply where
  | waiting
  | abandoned
  | answered (kept : Bool)
deriving DecidableEq, Repr

/-- What the caller was told; one that gave up acts as if its key had not been kept. -/
def Reply.told? : Reply → Option Bool
  | .waiting => none
  | .abandoned => some false
  | .answered kept => some kept

/-- A request in the channel. Keys carry the number of the call that waits for their answer. -/
inductive DispatchRequest where
  | key (call : Nat) (press : KeyPress)
  | terminate
deriving DecidableEq, Repr

structure Dispatch (κ : Type) where
  editor : Editor κ
  /-- The mode that observers see. -/
  published : Mode
  channel : List DispatchRequest
  /-- The callers by the number of their call. -/
  replies : List Reply
  /-- The key that the task has taken and not finished. -/
  working : Option (Nat × KeyPress)
  running : Bool
deriving Repr

inductive DispatchStep where
  /-- A caller reports a key that was typed. -/
  | capture (press : KeyPress)
  /-- A caller sends a key as it is. -/
  | deliver (press : KeyPress)
  | giveUp (call : Nat)
  /-- A caller asks the task to stop, or the last caller leaves. -/
  | terminate
  | take
  | finish (now : Nat)
  | wake (now : Nat)
deriving DecidableEq, Repr

namespace Dispatch

variable {κ : Type} [Control κ]

def start (editor : Editor κ) : Dispatch κ := ⟨editor, editor.mode, [], [], none, true⟩

/-- Puts a key into the channel. A task that has stopped lets every key through. -/
def send (d : Dispatch κ) (press : KeyPress) : Dispatch κ :=
  if d.running then
    { d with
      channel := d.channel ++ [.key d.replies.length press]
      replies := d.replies ++ [.waiting] }
  else { d with replies := d.replies ++ [.answered false] }

/-- Ends a call, unless its caller has given up or been answered before. -/
def settleCall (d : Dispatch κ) (call : Nat) (reply : Reply) : Dispatch κ :=
  if d.replies[call]? = some .waiting then { d with replies := d.replies.set call reply } else d

def publish (d : Dispatch κ) : Dispatch κ := { d with published := d.editor.mode }

/-- Stops the task: the editor shuts down, and whoever still waits is let go. -/
def stop (d : Dispatch κ) : Dispatch κ :=
  { d with
    editor := d.editor.shutdown
    channel := []
    replies := d.replies.map fun reply => if reply = .waiting then .answered false else reply
    running := false }

/-- Takes the next request. Only a key whose caller still waits is worked on. -/
def take (d : Dispatch κ) : Dispatch κ :=
  match d.working, d.channel with
  | none, .key call press :: rest =>
      let taken := { d with channel := rest }
      if d.replies[call]? = some .waiting then { taken with working := some (call, press) }
      else taken.publish
  | none, .terminate :: _ => d.stop
  | _, _ => d

/-- Finishes the key being worked on and answers its caller if it still waits. -/
def finish (d : Dispatch κ) (now : Nat) : Dispatch κ :=
  match d.working with
  | none => d
  | some (call, press) =>
      let (editor, kept) := d.editor.key press now
      ({ d with editor := editor, working := none }.settleCall call (.answered kept)).publish

/-- Lets the editor do what has fallen due while the task is idle. -/
def wake (d : Dispatch κ) (now : Nat) : Dispatch κ :=
  if d.running && d.working.isNone then { d with editor := d.editor.tick now }.publish else d

def step (d : Dispatch κ) : DispatchStep → Dispatch κ
  | .capture press =>
      if press.code.isIgnored then { d with replies := d.replies ++ [.answered false] }
      else d.send press
  | .deliver press => d.send press
  | .giveUp call => d.settleCall call .abandoned
  | .terminate => if d.running then { d with channel := d.channel ++ [.terminate] } else d
  | .take => d.take
  | .finish now => d.finish now
  | .wake now => d.wake now

def run (d : Dispatch κ) (steps : List DispatchStep) : Dispatch κ := steps.foldl step d

def told? (d : Dispatch κ) (call : Nat) : Option Bool := (d.replies[call]?).bind Reply.told?

end Dispatch

end ModalKeys
