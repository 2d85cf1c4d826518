import Confinement.Proofs.Bus
import Mathlib.Data.List.Induction

/-! Runs of a bus, channel by channel.

Each channel is a bounded queue of its own. What comes off it is what it took in, in the same order; it takes
in whatever comes while it is not full, and counts the rest. A drain takes one event after another, which
comes to all that wait.
-/

set_option autoImplicit false

namespace Confinement

inductive BusOperation where
  | submit (channel : Channel) (event : Event)
  | drain (channel : Channel)
  deriving DecidableEq, Repr

inductive BusAnswer where
  | submitted (taken : Bool)
  | drained (events : List Event)
  deriving DecidableEq, Repr

namespace BusOperation

def channel : BusOperation → Channel
  | submit channel _ => channel
  | drain channel => channel

def taken? : BusOperation → BusAnswer → Option Event
  | submit _ event, .submitted true => some event
  | _, _ => none

end BusOperation

namespace BusAnswer

def drainedEvents : BusAnswer → List Event
  | submitted _ => []
  | drained events => events

def isRefusal : BusAnswer → Bool
  | submitted taken => !taken
  | drained _ => false

end BusAnswer

/-! ## One queue -/

namespace Queue

def pop? (queue : Queue) : Option (Event × Queue) :=
  match queue.pending with
  | [] => none
  | event :: rest => some (event, { queue with pending := rest })

theorem pop?_eq_some {queue rest : Queue} {event : Event} (popped : queue.pop? = some (event, rest)) :
    queue = { rest with pending := event :: rest.pending } := by
  obtain ⟨pending, dropped⟩ := queue
  cases pending with
  | nil => cases popped
  | cons first later =>
    cases popped
    rfl

theorem pop?_eq_none {queue : Queue} (empty : queue.pop? = none) : queue.pending = [] := by
  obtain ⟨pending, dropped⟩ := queue
  cases pending with
  | nil => rfl
  | cons first later => cases empty

/-- Takes events off the queue until none is left, and puts each behind those taken before. -/
def popAll (queue : Queue) (taken : List Event) : Queue × List Event :=
  match _ : queue.pop? with
  | none => (queue, taken)
  | some (event, rest) => rest.popAll (taken ++ [event])
termination_by queue.pending.length
decreasing_by
  rename_i popped
  rw [pop?_eq_some popped]
  exact Nat.lt_succ_self _

theorem popAll_eq (queue : Queue) (taken : List Event) :
    queue.popAll taken = (queue.drained, taken ++ queue.pending) := by
  fun_induction popAll queue taken with
  | case1 queue taken popped =>
    have empty := pop?_eq_none popped
    rw [drained, empty, List.append_nil, ← empty]
  | case2 queue taken event rest popped ih =>
    rw [ih, pop?_eq_some popped, List.append_assoc]
    rfl

def perform (queue : Queue) (capacity : Nat) (operation : BusOperation) : Queue × BusAnswer :=
  match operation with
  | .submit _ event =>
    (queue.offered capacity event, .submitted (decide (queue.pending.length < capacity)))
  | .drain _ => (queue.drained, .drained queue.pending)

section

variable (queue : Queue) (capacity : Nat) (operation : BusOperation)

theorem pending_perform :
    (queue.perform capacity operation).2.drainedEvents ++
        (queue.perform capacity operation).1.pending =
      queue.pending ++ (operation.taken? (queue.perform capacity operation).2).toList := by
  cases operation with
  | submit channel event =>
    by_cases room : queue.pending.length < capacity
    · simp [perform, offered, room, BusAnswer.drainedEvents, BusOperation.taken?]
    · simp [perform, offered, room, BusAnswer.drainedEvents, BusOperation.taken?]
  | drain channel => rfl

theorem dropped_perform :
    (queue.perform capacity operation).1.dropped =
      queue.dropped + .ofNat (queue.perform capacity operation).2.isRefusal.toNat := by
  cases operation with
  | submit channel event =>
    by_cases room : queue.pending.length < capacity
    · simp [perform, offered, room, BusAnswer.isRefusal]
    · simp [perform, offered, room, BusAnswer.isRefusal]
  | drain channel => exact (UInt64.add_zero _).symm

theorem length_perform (bounded : queue.pending.length ≤ capacity) :
    (queue.perform capacity operation).1.pending.length ≤ capacity := by
  cases operation with
  | submit channel event =>
    unfold perform offered
    by_cases room : queue.pending.length < capacity
    · simp only [if_pos room, List.length_append, List.length_singleton]
      exact room
    · simpa [room] using bounded
  | drain channel => exact Nat.zero_le _

end

end Queue

/-! ## Runs -/

namespace Bus

def perform (bus : Bus) (operation : BusOperation) : Bus × BusAnswer :=
  match operation with
  | .submit channel event => (bus.submit channel event).map id .submitted
  | .drain channel => (bus.drain channel).map id .drained

def run : List BusOperation → Bus → Bus × List BusAnswer
  | [], bus => (bus, [])
  | operation :: rest, bus =>
    let (bus, answer) := bus.perform operation
    let (bus, answers) := run rest bus
    (bus, answer :: answers)

def after (bus : Bus) (operations : List BusOperation) : Bus :=
  (bus.run operations).1

end Bus

structure BusMoment where
  bus : Bus
  operation : BusOperation

namespace BusMoment

def after (moment : BusMoment) : Bus :=
  (moment.bus.perform moment.operation).1

def answer (moment : BusMoment) : BusAnswer :=
  (moment.bus.perform moment.operation).2

def isOn (channel : Channel) (moment : BusMoment) : Bool :=
  moment.operation.channel = channel

def taken? (moment : BusMoment) : Option Event :=
  moment.operation.taken? moment.answer

def drained (moment : BusMoment) : List Event :=
  moment.answer.drainedEvents

def isRefusal (moment : BusMoment) : Bool :=
  moment.answer.isRefusal

end BusMoment

/-- The account of a queue after the operations on its channel: what came off it and what waits is what it
took in, and what it refused is counted. -/
structure Queue.Accounts (queue : Queue) (history : List BusMoment) : Prop where
  order : history.flatMap BusMoment.drained ++ queue.pending = history.filterMap BusMoment.taken?
  dropped : queue.dropped = .ofNat (history.countP BusMoment.isRefusal)

namespace Bus

variable {bus other : Bus} {channel : Channel} {history : List BusMoment}

def moments (bus : Bus) : List BusOperation → List BusMoment
  | [] => []
  | operation :: rest => ⟨bus, operation⟩ :: moments (bus.perform operation).1 rest

def momentsOn (bus : Bus) (channel : Channel) (operations : List BusOperation) : List BusMoment :=
  (bus.moments operations).filter (BusMoment.isOn channel)

theorem map_answer_moments (bus : Bus) (operations : List BusOperation) :
    (bus.moments operations).map BusMoment.answer = (bus.run operations).2 := by
  induction operations generalizing bus with
  | nil => rfl
  | cons operation rest ih => exact congrArg (_ :: ·) (ih (bus.perform operation).1)

theorem after_concat (bus : Bus) (operations : List BusOperation) (operation : BusOperation) :
    bus.after (operations ++ [operation]) = ((bus.after operations).perform operation).1 := by
  induction operations generalizing bus with
  | nil => rfl
  | cons first rest ih => exact ih (bus.perform first).1

theorem moments_concat (bus : Bus) (operations : List BusOperation) (operation : BusOperation) :
    bus.moments (operations ++ [operation]) =
      bus.moments operations ++ [⟨bus.after operations, operation⟩] := by
  induction operations generalizing bus with
  | nil => rfl
  | cons first rest ih => exact congrArg (_ :: ·) (ih (bus.perform first).1)

theorem momentsOn_concat (bus : Bus) (channel : Channel) (operations : List BusOperation)
    (operation : BusOperation) :
    bus.momentsOn channel (operations ++ [operation]) =
      if channel = operation.channel then
        bus.momentsOn channel operations ++ [⟨bus.after operations, operation⟩]
      else bus.momentsOn channel operations := by
  rw [momentsOn, moments_concat, List.filter_append]
  by_cases same : channel = operation.channel
  · simp [momentsOn, BusMoment.isOn, same]
  · simp [momentsOn, BusMoment.isOn, same, Ne.symm same]

/-! ## One operation -/

@[simp] theorem capacity_perform (bus : Bus) (operation : BusOperation) :
    (bus.perform operation).1.capacity = bus.capacity := by
  cases operation with
  | submit channel event => exact bus.capacity_submit channel event
  | drain channel => exact bus.capacity_drain channel

theorem queue_perform (bus : Bus) (operation : BusOperation) (channel : Channel) :
    (bus.perform operation).1.queue channel =
      if channel = operation.channel then
        ((bus.queue channel).perform bus.capacity operation).1
      else bus.queue channel := by
  by_cases same : channel = operation.channel
  · subst same
    cases operation with
    | submit channel event => exact bus.queue_submit channel channel event
    | drain channel => exact bus.queue_drain channel channel
  · rw [if_neg same]
    cases operation with
    | submit target event => exact (bus.queue_submit target channel event).trans (if_neg same)
    | drain target => exact (bus.queue_drain target channel).trans (if_neg same)

theorem answer_perform (bus : Bus) (operation : BusOperation) :
    (bus.perform operation).2 =
      ((bus.queue operation.channel).perform bus.capacity operation).2 := by
  cases operation with
  | submit channel event =>
    by_cases room : (bus.queue channel).pending.length < bus.capacity
    · simp [perform, submit, Queue.perform, BusOperation.channel, room]
    · simp [perform, submit, Queue.perform, BusOperation.channel, room]
  | drain channel => rfl

theorem accounts_perform (accounts : (bus.queue channel).Accounts history) {operation : BusOperation}
    (same : channel = operation.channel) :
    ((bus.perform operation).1.queue channel).Accounts (history ++ [⟨bus, operation⟩]) := by
  subst same
  have answer : (BusMoment.mk bus operation).answer = _ := bus.answer_perform operation
  have moved := (bus.queue operation.channel).pending_perform bus.capacity operation
  have counted := (bus.queue operation.channel).dropped_perform bus.capacity operation
  rw [queue_perform, if_pos rfl]
  constructor
  case order =>
    have taken : [BusMoment.mk bus operation].filterMap BusMoment.taken? =
        (operation.taken? (BusMoment.mk bus operation).answer).toList := by
      rw [List.filterMap_cons, List.filterMap_nil, BusMoment.taken?]
      cases operation.taken? (BusMoment.mk bus operation).answer <;> rfl
    rw [List.flatMap_append, List.flatMap_singleton, List.filterMap_append, taken, ← accounts.order,
      List.append_assoc, List.append_assoc, BusMoment.drained, answer, moved]
  case dropped =>
    rw [counted, accounts.dropped, List.countP_append, List.countP_singleton, UInt64.ofNat_add,
      BusMoment.isRefusal, answer]
    cases ((bus.queue operation.channel).perform bus.capacity operation).2.isRefusal <;> rfl

/-! ## A whole run -/

@[simp] theorem capacity_after (bus : Bus) (operations : List BusOperation) :
    (bus.after operations).capacity = bus.capacity := by
  induction operations using List.reverseRecOn with
  | nil => rfl
  | append_singleton past operation ih => rw [after_concat, capacity_perform, ih]

theorem capacity_of_mem_moments {operations : List BusOperation} {moment : BusMoment}
    (found : moment ∈ bus.moments operations) : moment.bus.capacity = bus.capacity := by
  induction operations generalizing bus with
  | nil => cases found
  | cons operation rest ih =>
    cases found with
    | head => rfl
    | tail _ found => exact (ih found).trans (bus.capacity_perform operation)

theorem accounts_after (capacity : Nat) (channel : Channel) (operations : List BusOperation) :
    (((new capacity).after operations).queue channel).Accounts
      ((new capacity).momentsOn channel operations) := by
  induction operations using List.reverseRecOn with
  | nil =>
    have fresh := queue_new capacity channel
    exact ⟨congrArg Queue.pending fresh, congrArg Queue.dropped fresh⟩
  | append_singleton past operation ih =>
    rw [after_concat, momentsOn_concat]
    by_cases same : channel = operation.channel
    · rw [if_pos same]
      exact accounts_perform ih same
    · rw [if_neg same, queue_perform, if_neg same]
      exact ih

theorem bounded_after (bounded : ∀ channel, (bus.pending channel).length ≤ bus.capacity)
    (operations : List BusOperation) (channel : Channel) :
    ((bus.after operations).pending channel).length ≤ bus.capacity := by
  induction operations using List.reverseRecOn with
  | nil => exact bounded channel
  | append_singleton past operation ih =>
    rw [after_concat, pending, queue_perform]
    by_cases same : channel = operation.channel
    · rw [if_pos same, capacity_after]
      exact Queue.length_perform _ _ operation ih
    · rw [if_neg same]
      exact ih

/-- A channel gives the answers that it gives when nothing is done on any other. -/
theorem answers_alone (queue : other.queue channel = bus.queue channel)
    (capacity : other.capacity = bus.capacity) (operations : List BusOperation) :
    (other.after (operations.filter (·.channel = channel))).queue channel =
        (bus.after operations).queue channel ∧
      (other.run (operations.filter (·.channel = channel))).2 =
        (bus.momentsOn channel operations).map BusMoment.answer := by
  induction operations generalizing bus other with
  | nil => exact ⟨queue, rfl⟩
  | cons operation rest ih =>
    have kept : (bus.perform operation).1.capacity = bus.capacity := bus.capacity_perform operation
    by_cases same : channel = operation.channel
    · subst same
      have answers : (other.perform operation).2 = (bus.perform operation).2 := by
        rw [answer_perform, answer_perform, queue, capacity]
      have queues : (other.perform operation).1.queue operation.channel =
          (bus.perform operation).1.queue operation.channel := by
        rw [queue_perform, queue_perform, queue, capacity]
      have capacities := (other.capacity_perform operation).trans (capacity.trans kept.symm)
      obtain ⟨ends, later⟩ := ih queues capacities
      rw [List.filter_cons_of_pos (by simp)]
      refine ⟨ends, ?_⟩
      rw [run, momentsOn, moments, List.filter_cons_of_pos (by simp [BusMoment.isOn])]
      exact congrArg₂ (· :: ·) answers later
    · have queues : other.queue channel = (bus.perform operation).1.queue channel := by
        rw [queue_perform, if_neg same, queue]
      obtain ⟨ends, later⟩ := ih queues (capacity.trans kept.symm)
      rw [List.filter_cons_of_neg (by simpa using Ne.symm same)]
      refine ⟨ends, ?_⟩
      rw [momentsOn, moments, List.filter_cons_of_neg (by simpa [BusMoment.isOn] using Ne.symm same)]
      exact later

/-- What a bus does in a run, as three queues of their own that hold so many events each. -/
structure Queued (capacity : Nat) (operations : List BusOperation) : Prop where
  answers : ((new capacity).moments operations).map BusMoment.answer =
    ((new capacity).run operations).2
  order : ∀ channel,
    ((new capacity).momentsOn channel operations).flatMap BusMoment.drained ++
        ((new capacity).after operations).pending channel =
      ((new capacity).momentsOn channel operations).filterMap BusMoment.taken?
  taken : ∀ moment ∈ (new capacity).moments operations, ∀ channel event,
    moment.operation = .submit channel event →
      moment.answer =
        .submitted (decide ((moment.bus.pending channel).length < max capacity 1))
  drains : ∀ moment ∈ (new capacity).moments operations, ∀ channel,
    moment.operation = .drain channel → ∃ events,
      (moment.bus.queue channel).popAll [] = (moment.after.queue channel, events) ∧
        moment.answer = .drained events ∧ events = moment.bus.pending channel
  dropped : ∀ channel,
    ((new capacity).after operations).dropped channel =
      .ofNat (((new capacity).momentsOn channel operations).countP BusMoment.isRefusal)
  /-- The counter is exact as long as the word is wide enough. -/
  exact : ∀ channel,
    ((new capacity).momentsOn channel operations).countP BusMoment.isRefusal < UInt64.size →
      (((new capacity).after operations).dropped channel).toNat =
        ((new capacity).momentsOn channel operations).countP BusMoment.isRefusal
  bounded : ∀ channel,
    (((new capacity).after operations).pending channel).length ≤ max capacity 1
  apart : ∀ moment ∈ (new capacity).moments operations, ∀ channel,
    channel ≠ moment.operation.channel → moment.after.queue channel = moment.bus.queue channel
  /-- A channel ends up, and answers, as it does if nothing is done on the others. -/
  alone : ∀ channel,
    ((new capacity).after (operations.filter (·.channel = channel))).queue channel =
        ((new capacity).after operations).queue channel ∧
      ((new capacity).run (operations.filter (·.channel = channel))).2 =
        ((new capacity).momentsOn channel operations).map BusMoment.answer

/-- Every run of a bus is that of three bounded queues, each of which counts what it refuses. -/
theorem queued_run (capacity : Nat) (operations : List BusOperation) :
    Queued capacity operations := by
  have held : ∀ moment ∈ (new capacity).moments operations,
      moment.bus.capacity = max capacity 1 := fun moment => capacity_of_mem_moments
  constructor
  case answers => exact (new capacity).map_answer_moments operations
  case order => exact fun channel => (accounts_after capacity channel operations).order
  case taken =>
    intro moment found channel event submitted
    rw [BusMoment.answer, answer_perform, submitted, held moment found]
    rfl
  case drains =>
    intro moment _ channel drain
    refine ⟨moment.bus.pending channel, ?_, ?_, rfl⟩
    · rw [Queue.popAll_eq, BusMoment.after, queue_perform, drain]
      exact congrArg (·, _) (if_pos rfl).symm
    · rw [BusMoment.answer, answer_perform, drain]
      rfl
  case dropped => exact fun channel => (accounts_after capacity channel operations).dropped
  case exact =>
    intro channel few
    rw [dropped, (accounts_after capacity channel operations).dropped,
      UInt64.toNat_ofNat_of_lt' few]
  case bounded =>
    refine fun channel => bounded_after (fun channel => ?_) operations channel
    rw [pending, queue_new]
    exact Nat.zero_le _
  case apart =>
    exact fun moment _ channel other => (moment.bus.queue_perform _ channel).trans (if_neg other)
  case alone => exact fun channel => answers_alone rfl rfl operations

end Bus

end Confinement
