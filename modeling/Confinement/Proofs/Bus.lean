import Confinement.Bus

/-! The channels of a bus as queues of their own: what is done to one leaves the others alone, and
each event that is submitted to it is drained, waits, or is counted as dropped. -/

set_option autoImplicit false

namespace Confinement

def Queue.offered (queue : Queue) (capacity : Nat) (event : Event) : Queue :=
  if queue.pending.length < capacity then { queue with pending := queue.pending ++ [event] }
  else { queue with dropped := queue.dropped + 1 }

def Queue.drained (queue : Queue) : Queue :=
  { queue with pending := [] }

/-- The account of a queue: some of the submitted events were drained, some wait, and the others are
counted as dropped. -/
structure Queue.Carries (queue : Queue) (submitted taken : List Event) : Prop where
  kept : (taken ++ queue.pending).Sublist submitted
  missing : ∃ lost, taken.length + queue.pending.length + lost = submitted.length ∧
    queue.dropped = .ofNat lost

namespace Queue

variable {queue : Queue} {submitted taken : List Event}

theorem carries_empty : Carries .empty [] [] :=
  ⟨.slnil, 0, rfl, rfl⟩

theorem Carries.offered (carries : queue.Carries submitted taken) (capacity : Nat)
    (event : Event) : (queue.offered capacity event).Carries (submitted ++ [event]) taken := by
  obtain ⟨kept, lost, total, dropped⟩ := carries
  unfold Queue.offered
  by_cases room : queue.pending.length < capacity
  · rw [if_pos room]
    refine ⟨?_, lost, ?_, dropped⟩
    · rw [← List.append_assoc]
      exact kept.append_right [event]
    · simp only [List.length_append, List.length_singleton]
      omega
  · rw [if_neg room]
    refine ⟨kept.trans (List.sublist_append_left _ _), lost + 1, ?_, ?_⟩
    · simp only [List.length_append, List.length_singleton]
      omega
    · rw [UInt64.ofNat_add, ← dropped]
      rfl

theorem Carries.drained (carries : queue.Carries submitted taken) :
    queue.drained.Carries submitted (taken ++ queue.pending) := by
  obtain ⟨kept, lost, total, dropped⟩ := carries
  refine ⟨by simpa [Queue.drained] using kept, lost, ?_, dropped⟩
  simpa [Queue.drained, Nat.add_assoc] using total

end Queue

namespace Bus

@[simp] theorem queue_new (capacity : Nat) (channel : Channel) :
    (new capacity).queue channel = .empty := by
  cases channel <;> rfl

@[simp] theorem queue_setQueue (bus : Bus) (channel other : Channel) (queue : Queue) :
    (bus.setQueue channel queue).queue other =
      if other = channel then queue else bus.queue other := by
  cases channel <;> cases other <;> rfl

@[simp] theorem capacity_setQueue (bus : Bus) (channel : Channel) (queue : Queue) :
    (bus.setQueue channel queue).capacity = bus.capacity := by
  cases channel <;> rfl

theorem queue_submit (bus : Bus) (channel other : Channel) (event : Event) :
    (bus.submit channel event).1.queue other =
      if other = channel then (bus.queue channel).offered bus.capacity event
      else bus.queue other := by
  unfold submit Queue.offered
  by_cases room : (bus.queue channel).pending.length < bus.capacity <;> simp [room]

@[simp] theorem capacity_submit (bus : Bus) (channel : Channel) (event : Event) :
    (bus.submit channel event).1.capacity = bus.capacity := by
  unfold submit
  by_cases room : (bus.queue channel).pending.length < bus.capacity <;> simp [room]

theorem queue_drain (bus : Bus) (channel other : Channel) :
    (bus.drain channel).1.queue other =
      if other = channel then (bus.queue channel).drained else bus.queue other :=
  bus.queue_setQueue channel other _

@[simp] theorem capacity_drain (bus : Bus) (channel : Channel) :
    (bus.drain channel).1.capacity = bus.capacity :=
  bus.capacity_setQueue channel _

end Bus

end Confinement
