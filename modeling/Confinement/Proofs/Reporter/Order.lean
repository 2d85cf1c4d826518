import Confinement.Proofs.Reporter
import Mathlib.Data.List.Basic
import Mathlib.Data.List.Induction

/-! Denials in one order and in another.

A channel takes in as many events whatever they are, and each denial asks for its own task to be killed. So
the order in which denials are heard of shows in the order of what they leave behind, and in which of them
are reported if a channel runs full, but nowhere else.
-/

set_option autoImplicit false

namespace Confinement

structure Queue.Concurs (first second : Queue) : Prop where
  waiting : second.pending.length = first.pending.length
  dropped : second.dropped = first.dropped

theorem Queue.Concurs.offered {first second : Queue} (concurs : first.Concurs second)
    (capacity : Nat) (event other : Event) :
    (first.offered capacity event).Concurs (second.offered capacity other) := by
  obtain ⟨waiting, dropped⟩ := concurs
  unfold Queue.offered
  rw [waiting]
  by_cases room : first.pending.length < capacity
  · rw [if_pos room, if_pos room]
    exact ⟨by simp [waiting], dropped⟩
  · rw [if_neg room, if_neg room]
    exact ⟨waiting, congrArg (· + 1) dropped⟩

namespace Reporter

/-- The reporters have heard of the same denials, perhaps in different orders. -/
structure Concurs (first second : Reporter) : Prop where
  mode : second.mode = first.mode
  terminator : second.terminator = first.terminator
  capacity : second.bus.capacity = first.bus.capacity
  denials : second.denials = first.denials
  queues : ∀ channel, (first.bus.queue channel).Concurs (second.bus.queue channel)
  requested : first.requested.Perm second.requested
  killed : first.terminator.Steady → first.killed.Perm second.killed

variable {first second third : Reporter} {reports others : List Report}

theorem Concurs.refl (reporter : Reporter) : reporter.Concurs reporter :=
  ⟨rfl, rfl, rfl, rfl, fun _ => ⟨rfl, rfl⟩, .refl _, fun _ => .refl _⟩

theorem Concurs.trans (concurs : first.Concurs second) (again : second.Concurs third) :
    first.Concurs third where
  mode := again.mode.trans concurs.mode
  terminator := again.terminator.trans concurs.terminator
  capacity := again.capacity.trans concurs.capacity
  denials := again.denials.trans concurs.denials
  queues channel :=
    ⟨(again.queues channel).waiting.trans (concurs.queues channel).waiting,
      (again.queues channel).dropped.trans (concurs.queues channel).dropped⟩
  requested := concurs.requested.trans again.requested
  killed steady := (concurs.killed steady).trans (again.killed (concurs.terminator ▸ steady))

@[simp] theorem capacity_enforcedAll (reporter : Reporter) (reports : List Report) :
    (reports.foldl enforced reporter).bus.capacity = reporter.bus.capacity := by
  induction reports generalizing reporter with
  | nil => rfl
  | cons report rest ih => simp [ih]

theorem Concurs.queue_enforcedAll (concurs : first.Concurs second)
    (length : reports.length = others.length) (channel : Channel) :
    ((reports.foldl enforced first).bus.queue channel).Concurs
      ((others.foldl enforced second).bus.queue channel) := by
  induction reports using List.reverseRecOn generalizing others with
  | nil =>
    rw [List.eq_nil_of_length_eq_zero length.symm]
    exact concurs.queues channel
  | append_singleton earlier report ih =>
    rcases List.eq_nil_or_concat' others with rfl | ⟨rest, other, rfl⟩
    · simp at length
    · have offered := (ih (by simpa using length)).offered first.bus.capacity report.event other.event
      simp only [List.foldl_append, List.foldl_cons, List.foldl_nil, queue_enforced,
        mode_enforcedAll, capacity_enforcedAll, concurs.mode, concurs.capacity]
      by_cases same : channel = channelOf first.mode
      · simpa only [if_pos same] using offered
      · simpa only [if_neg same] using ih (by simpa using length)

theorem Concurs.enforcedAll (concurs : first.Concurs second) (reordered : reports.Perm others) :
    (reports.foldl enforced first).Concurs (others.foldl enforced second) where
  mode := by simpa using concurs.mode
  terminator := by simpa using concurs.terminator
  capacity := by simpa using concurs.capacity
  denials := by
    rw [denials_enforcedAll, denials_enforcedAll, concurs.denials, reordered.length_eq]
  queues := concurs.queue_enforcedAll reordered.length_eq
  requested := by
    rw [requested_enforcedAll, requested_enforcedAll, concurs.mode]
    exact concurs.requested.append (reordered.flatMap_right _)
  killed := by
    rw [terminator_enforcedAll]
    intro steady
    have again : second.terminator.Steady := concurs.terminator ▸ steady
    rw [killed_enforcedAll_of_steady steady, killed_enforcedAll_of_steady again, concurs.mode,
      concurs.terminator]
    exact (concurs.killed steady).append ((reordered.flatMap_right _).filter _)

/-- Events that all fit into their channel wait there in the order of the denials. -/
theorem pending_enforcedAll {reporter : Reporter}
    (fits : (reporter.bus.pending (channelOf reporter.mode)).length + reports.length ≤
      reporter.bus.capacity) (channel : Channel) :
    (reports.foldl enforced reporter).bus.pending channel = reporter.bus.pending channel ++
      if channel = channelOf reporter.mode then reports.map Report.event else [] := by
  induction reports generalizing reporter with
  | nil => simp
  | cons report rest ih =>
    rw [List.length_cons] at fits
    have room : (reporter.bus.queue (channelOf reporter.mode)).pending.length <
        reporter.bus.capacity := by
      rw [Bus.pending] at fits
      omega
    have step : ∀ channel, (reporter.enforced report).bus.pending channel =
        reporter.bus.pending channel ++ if channel = channelOf reporter.mode then [report.event]
          else [] := by
      intro channel
      rw [Bus.pending, Bus.pending, queue_enforced]
      by_cases same : channel = channelOf reporter.mode
      · subst same
        rw [if_pos rfl, if_pos rfl, Queue.offered, if_pos room]
      · rw [if_neg same, if_neg same, List.append_nil]
    rw [List.foldl_cons, ih, mode_enforced, step, List.append_assoc]
    · by_cases same : channel = channelOf reporter.mode <;> simp [same]
    · rw [mode_enforced, step, if_pos rfl, bus_enforced, Bus.capacity_submit, List.length_append,
        List.length_singleton]
      omega

end Reporter

end Confinement
