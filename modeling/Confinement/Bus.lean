import Confinement.Event

/-! The bounded channels through which denials are delivered.

A full channel drops what is submitted to it and counts the loss; it never drops what it holds.
-/

set_option autoImplicit false

namespace Confinement

inductive Channel where
  | processCreate
  | enforcement
  | wouldHaveEnforced
  deriving DecidableEq, Repr

namespace Channel

def all : List Channel := [processCreate, enforcement, wouldHaveEnforced]

def name : Channel → String
  | processCreate => "process_create"
  | enforcement => "enforcement"
  | wouldHaveEnforced => "would_have_enforced"

end Channel

/-- The waiting events of one channel, oldest first, and how many it has dropped. -/
structure Queue where
  pending : List Event
  dropped : UInt64
  deriving DecidableEq, Repr

def Queue.empty : Queue := ⟨[], 0⟩

structure Bus where
  capacity : Nat
  processCreate : Queue
  enforcement : Queue
  wouldHaveEnforced : Queue
  deriving DecidableEq, Repr

namespace Bus

def new (capacity : Nat) : Bus :=
  -- Each can hold at least one event.
  ⟨max capacity 1, .empty, .empty, .empty⟩

def queue (bus : Bus) : Channel → Queue
  | .processCreate => bus.processCreate
  | .enforcement => bus.enforcement
  | .wouldHaveEnforced => bus.wouldHaveEnforced

def setQueue (bus : Bus) (channel : Channel) (queue : Queue) : Bus :=
  match channel with
  | .processCreate => { bus with processCreate := queue }
  | .enforcement => { bus with enforcement := queue }
  | .wouldHaveEnforced => { bus with wouldHaveEnforced := queue }

def pending (bus : Bus) (channel : Channel) : List Event :=
  (bus.queue channel).pending

def dropped (bus : Bus) (channel : Channel) : UInt64 :=
  (bus.queue channel).dropped

def submit (bus : Bus) (channel : Channel) (event : Event) : Bus × Bool :=
  -- The answer tells whether there was room for it.
  let queue := bus.queue channel
  if queue.pending.length < bus.capacity then
    (bus.setQueue channel { queue with pending := queue.pending ++ [event] }, true)
  else (bus.setQueue channel { queue with dropped := queue.dropped + 1 }, false)

def drain (bus : Bus) (channel : Channel) : Bus × List Event :=
  let queue := bus.queue channel
  (bus.setQueue channel { queue with pending := [] }, queue.pending)

def outline (bus : Bus) : String :=
  Text.outline "EventBus"
    (Channel.all.map fun channel => (channel.name, toString (bus.pending channel).length))

end Bus

end Confinement
