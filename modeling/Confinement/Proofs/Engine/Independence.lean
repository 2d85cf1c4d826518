import Confinement.Proofs.Engine.Sharing
import Confinement.Proofs.Reporter.Order

/-! Events of different tasks in one order and in the other.

Each of two events that concern different tasks leaves alone what the other one depends on. So as long as
nothing gives way, both have the same outcomes in either order and lead to the same state, up to the order
of use of the records and the order of what the denials leave behind. Later evictions do depend on the order
of use, and so a run may be reordered only as long as none happens in the rest of it.
-/

set_option autoImplicit false

namespace Confinement

def Response.outcome? : Response → Option Outcome
  | .outcome known => some known
  | _ => none

namespace Engine

variable {engine first second third : Engine} {tids : UInt32 → Prop} {event one other : KernelEvent}
  {events rest : List KernelEvent}

/-- The engines hold the same records, routines and captures, and their reporters have heard of the same
denials. -/
structure Concurs (first second : Engine) : Prop where
  processes : ∀ tid, second.processes.find? tid = first.processes.find? tid
  profiles : ∀ key, second.profiles.find? key = first.profiles.find? key
  captures : ∀ tid, second.slot.waiting? tid = first.slot.waiting? tid
  dispatch : second.dispatch = first.dispatch
  reporter : first.reporter.Concurs second.reporter

theorem Concurs.trans (concurs : first.Concurs second) (again : second.Concurs third) :
    first.Concurs third where
  processes tid := (again.processes tid).trans (concurs.processes tid)
  profiles key := (again.profiles key).trans (concurs.profiles key)
  captures tid := (again.captures tid).trans (concurs.captures tid)
  dispatch := again.dispatch.trans concurs.dispatch
  reporter := concurs.reporter.trans again.reporter

theorem Concurs.refl (engine : Engine) : engine.Concurs engine :=
  ⟨fun _ => rfl, fun _ => rfl, fun _ => rfl, rfl, .refl _⟩

theorem Shares.concurs (shares : first.Shares (fun _ => True) second)
    (reporter : first.reporter.Concurs second.reporter) : first.Concurs second :=
  ⟨fun tid => shares.processes.found tid trivial, fun key => shares.profiles.found key trivial,
    fun _ => shares.slot.waiting trivial, shares.dispatch, reporter⟩

/-! ## Events in a row -/

theorem handled_cons (engine : Engine) (event : KernelEvent) (rest : List KernelEvent) :
    engine.handled (event :: rest) = (engine.next (.event event)).handled rest := rfl

theorem handled_append (engine : Engine) (past rest : List KernelEvent) :
    engine.handled (past ++ rest) = (engine.handled past).handled rest := by
  rw [handled, List.map_append, after_append]
  rfl

theorem ReachableBy.handled {required : Routine → Prop} (reachable : engine.ReachableBy required)
    (events : List KernelEvent) : (engine.handled events).ReachableBy required := by
  induction events generalizing engine with
  | nil => exact reachable
  | cons event rest ih => exact ih (reachable.event event)

theorem reporter_handle (engine : Engine) (event : KernelEvent) :
    (engine.next (.event event)).reporter =
      (engine.reports (.event event)).foldl Reporter.enforced engine.reporter := by
  have reporting := engine.reporting_next (.event event)
  generalize (engine.next (.event event)).reporter = later at reporting ⊢
  cases reporting with
  | heard => rfl

/-- What gives way neither in the end nor before has not given way up to there, nor since. -/
theorem Spares.of_append (reachable : engine.Reachable) (spares : engine.Spares (events ++ rest)) :
    engine.Spares events ∧ (engine.handled events).Spares rest := by
  obtain ⟨processes, captures⟩ := spares
  rw [handled_append] at processes captures
  have sound := reachable.linked.sound
  have reached : (engine.handled events).Reachable := reachable.after _
  have early := (follows_processes_after sound (events.map .event)).evicted
  have late := (follows_processes_after reached.linked.sound
    (rest.map .event)).evicted
  have kept := (engine.follows_slot_after (events.map .event)).evicted
  have held := ((engine.handled events).follows_slot_after (rest.map .event)).evicted
  rw [handled] at processes captures
  change engine.processes.evicted ≤ (engine.handled events).processes.evicted at early
  change engine.slot.evicted ≤ (engine.handled events).slot.evicted at kept
  refine ⟨⟨?_, ?_⟩, ?_, ?_⟩
  · omega
  · omega
  · rw [handled]
    omega
  · rw [handled]
    omega

theorem Spares.of_cons (reachable : engine.Reachable) (spares : engine.Spares (event :: rest)) :
    engine.Spares [event] ∧ (engine.next (.event event)).Spares rest :=
  Spares.of_append reachable spares

/-! ## Two events -/

/-- Neither event notices whether it comes before or after the other one. -/
structure Commutes (engine : Engine) (one other : KernelEvent) : Prop where
  first : ((engine.next (.event other)).perform (.event one)).value.2 =
    (engine.perform (.event one)).value.2
  second : ((engine.next (.event one)).perform (.event other)).value.2 =
    (engine.perform (.event other)).value.2
  states : (engine.handled [one, other]).Concurs (engine.handled [other, one])
  /-- If there is room for all events that the two submit, those of each are together at the end. -/
  contents : ∀ channel,
    (engine.bus.pending channel).length + (engine.submitted (.event one) channel).length +
        (engine.submitted (.event other) channel).length ≤ engine.bus.capacity →
      (engine.handled [one, other]).bus.pending channel = engine.bus.pending channel ++
          engine.submitted (.event one) channel ++ engine.submitted (.event other) channel ∧
        (engine.handled [other, one]).bus.pending channel = engine.bus.pending channel ++
          engine.submitted (.event other) channel ++ engine.submitted (.event one) channel

/-- An event finds the same after another one that concerns other tasks as before it, and it does not
matter for its own tasks which of the two is the later one. -/
theorem Shares.exchange (reachable : engine.ReachableBy Routine.IsSolitary)
    (threaded : engine.slot.mode = .perThread) (apart : one.tids.Disjoint other.tids)
    (spares : engine.Spares [one, other])
    (again : engine.Spares [other, one]) :
    ((engine.next (.event other)).perform (.event one)).value.2 =
        (engine.perform (.event one)).value.2 ∧
      (engine.next (.event other)).reports (.event one) = engine.reports (.event one) ∧
      (engine.handled [one, other]).Shares (· ∉ other.tids) (engine.handled [other, one]) := by
  obtain ⟨early, late⟩ := spares.of_cons reachable.reachable
  obtain ⟨before, after⟩ := again.of_cons reachable.reachable
  have inside : ∀ tid ∈ one.tids, tid ∉ other.tids := fun tid member => apart member
  have away := shares_next reachable threaded before
  have reports := away.reports reachable (reachable.event _) inside early after
  obtain ⟨answer, same⟩ := away.next reachable (reachable.event _) inside early after
  have alone := shares_next (reachable.event one)
    ((engine.follows_slot _).mode.trans threaded) late
  exact ⟨answer, reports, alone.symm.trans same⟩

theorem reporter_handled_pair (same : (engine.next (.event one)).reports (.event other) =
      engine.reports (.event other)) :
    (engine.handled [one, other]).reporter =
      (engine.reports (.event one) ++ engine.reports (.event other)).foldl Reporter.enforced
        engine.reporter := by
  change ((engine.next (.event one)).next (.event other)).reporter = _
  rw [reporter_handle, same, reporter_handle, List.foldl_append]

/-- The events of both are queued one after the other, if there is room for them. -/
theorem pending_handled_pair (same : (engine.next (.event one)).reports (.event other) =
      engine.reports (.event other)) {channel : Channel}
    (fits : (engine.bus.pending channel).length + (engine.submitted (.event one) channel).length +
      (engine.submitted (.event other) channel).length ≤ engine.bus.capacity) :
    (engine.handled [one, other]).bus.pending channel = engine.bus.pending channel ++
      engine.submitted (.event one) channel ++ engine.submitted (.event other) channel := by
  rw [bus, reporter_handled_pair same]
  by_cases own : channel = Reporter.channelOf engine.reporter.mode
  · subst own
    simp only [submitted, mode, if_true, List.length_map] at fits ⊢
    rw [Reporter.pending_enforcedAll, if_pos rfl, List.map_append, List.append_assoc]
    · rfl
    · rw [List.length_append, ← Nat.add_assoc]
      exact fits
  · rw [submitted, submitted, mode, if_neg own, if_neg own, List.append_nil, List.append_nil,
      Bus.pending, Reporter.queue_enforcedAll own]
    rfl

/-- In either order two events that concern different tasks lead to engines that agree on all tasks. -/
theorem shares_handled_pair (reachable : engine.ReachableBy Routine.IsSolitary)
    (threaded : engine.slot.mode = .perThread) (apart : one.tids.Disjoint other.tids)
    (spares : engine.Spares [one, other])
    (again : engine.Spares [other, one]) :
    (engine.handled [one, other]).Shares (fun _ => True) (engine.handled [other, one]) := by
  obtain ⟨_, _, outside⟩ := Shares.exchange reachable threaded apart spares again
  obtain ⟨_, _, elsewhere⟩ :=
    Shares.exchange reachable threaded (List.disjoint_symm apart) again spares
  refine outside.join elsewhere.symm fun tid => ?_
  by_cases member : tid ∈ other.tids
  · exact .inr fun both => apart both member
  · exact .inl member

/-- Events that concern different tasks commute, if nothing gives way in either order. -/
theorem commutes (reachable : engine.ReachableBy Routine.IsSolitary)
    (threaded : engine.slot.mode = .perThread) (apart : one.tids.Disjoint other.tids)
    (spares : engine.Spares [one, other])
    (again : engine.Spares [other, one]) : engine.Commutes one other := by
  obtain ⟨answer, heard, _⟩ := Shares.exchange reachable threaded apart spares again
  obtain ⟨reply, reports, _⟩ :=
    Shares.exchange reachable threaded (List.disjoint_symm apart) again spares
  have shares := shares_handled_pair reachable threaded apart spares again
  refine ⟨answer, reply, shares.concurs ?_, fun channel fits => ⟨?_, ?_⟩⟩
  · rw [reporter_handled_pair reports, reporter_handled_pair heard]
    exact (Reporter.Concurs.refl _).enforcedAll List.perm_append_comm
  · exact pending_handled_pair reports fits
  · exact pending_handled_pair heard (by omega)

/-! ## Runs -/

def transcript (engine : Engine) (events : List KernelEvent) : List (KernelEvent × Response) :=
  events.zip (engine.run (events.map .event)).value.2

def transcriptOf (engine : Engine) (tid : UInt32) (events : List KernelEvent) :
    List (KernelEvent × Response) :=
  (engine.transcript events).filter fun entry => tid ∈ entry.1.tids

/-- Neighbours that concern different tasks change places, and nothing gives way from there on in either
order. -/
inductive Reordered (engine : Engine) : List KernelEvent → List KernelEvent → Prop where
  | refl (events : List KernelEvent) : Reordered engine events events
  | swap {past rest : List KernelEvent} {one other : KernelEvent}
      (apart : one.tids.Disjoint other.tids)
      (spares : (engine.handled past).Spares (one :: other :: rest))
      (again : (engine.handled past).Spares (other :: one :: rest)) :
      Reordered engine (past ++ one :: other :: rest) (past ++ other :: one :: rest)
  | trans {events later last : List KernelEvent} (first : Reordered engine events later)
      (second : Reordered engine later last) : Reordered engine events last

theorem transcript_cons (engine : Engine) (event : KernelEvent) (rest : List KernelEvent) :
    engine.transcript (event :: rest) = (event, (engine.perform (.event event)).value.2) ::
      (engine.next (.event event)).transcript rest := rfl

theorem transcript_pair (engine : Engine) (one other : KernelEvent) (rest : List KernelEvent) :
    engine.transcript (one :: other :: rest) = (one, (engine.perform (.event one)).value.2) ::
      (other, ((engine.next (.event one)).perform (.event other)).value.2) ::
        (engine.handled [one, other]).transcript rest := rfl

theorem transcript_append (engine : Engine) (past rest : List KernelEvent) :
    engine.transcript (past ++ rest) =
      engine.transcript past ++ (engine.handled past).transcript rest := by
  induction past generalizing engine with
  | nil => rfl
  | cons event past ih =>
    rw [List.cons_append, transcript_cons, transcript_cons, ih, List.cons_append, handled_cons]

/-- Engines that agree on all tasks go on to do so, and answer the same, as long as nothing gives way. -/
theorem Shares.handled (shares : first.Shares (fun _ => True) second)
    (reachable : first.ReachableBy Routine.IsSolitary) (other : second.ReachableBy Routine.IsSolitary)
    (reporter : first.reporter.Concurs second.reporter)
    (spares : first.Spares events) (again : second.Spares events) :
    second.transcript events = first.transcript events ∧
      (first.handled events).Concurs (second.handled events) := by
  induction events generalizing first second with
  | nil => exact ⟨rfl, shares.concurs reporter⟩
  | cons event rest ih =>
    obtain ⟨early, late⟩ := spares.of_cons reachable.reachable
    obtain ⟨before, after⟩ := again.of_cons other.reachable
    obtain ⟨answer, next⟩ := shares.next reachable other (fun _ _ => trivial) early before
    have reports := shares.reports reachable other (fun _ _ => trivial) early before
    have concurs : (first.next (.event event)).reporter.Concurs
        (second.next (.event event)).reporter := by
      rw [reporter_handle, reporter_handle, reports]
      exact reporter.enforcedAll (.refl _)
    obtain ⟨answers, states⟩ := ih next (reachable.event _) (other.event _) concurs late after
    refine ⟨?_, states⟩
    rw [transcript_cons, transcript_cons, answer, answers]

theorem filter_swap {α : Type} {keep : α → Bool} {one other : α} (apart : keep one = true → keep other = false)
    (rest : List α) : (one :: other :: rest).filter keep = (other :: one :: rest).filter keep := by
  cases early : keep one with
  | false => cases late : keep other <;> simp [early, late]
  | true => simp [early, apart early]

/-- Every task sees the same, however its events are moved past those of other tasks. -/
theorem Reordered.concurs {later : List KernelEvent} (reordered : engine.Reordered events later)
    (reachable : engine.ReachableBy Routine.IsSolitary) (threaded : engine.slot.mode = .perThread) :
    (∀ tid, engine.transcriptOf tid later = engine.transcriptOf tid events) ∧
      (engine.handled events).Concurs (engine.handled later) := by
  induction reordered with
  | refl events => exact ⟨fun _ => rfl, .refl _⟩
  | trans _ _ first second =>
    exact ⟨fun tid => (second.1 tid).trans (first.1 tid), first.2.trans second.2⟩
  | @swap past rest one other apart spares again =>
    have reached := reachable.handled past
    have still : (engine.handled past).slot.mode = .perThread :=
      (engine.follows_slot_after _).mode.trans threaded
    obtain ⟨early, late⟩ := Spares.of_append reached.reachable
      (show (engine.handled past).Spares ([one, other] ++ rest) from spares)
    obtain ⟨before, after⟩ := Spares.of_append reached.reachable
      (show (engine.handled past).Spares ([other, one] ++ rest) from again)
    have commutes := commutes reached still apart early before
    have shares := shares_handled_pair reached still apart early before
    obtain ⟨answers, states⟩ := shares.handled (reached.handled _) (reached.handled _)
      commutes.states.reporter late after
    refine ⟨fun tid => ?_, ?_⟩
    · rw [transcriptOf, transcriptOf, transcript_append, transcript_append, List.filter_append,
        List.filter_append, transcript_pair, transcript_pair, commutes.first, commutes.second, answers,
        filter_swap]
      intro concerned
      simp only [decide_eq_true_eq, decide_eq_false_iff_not] at concerned ⊢
      exact fun both => apart both concerned
    · rw [handled_append, handled_append]
      exact states

/-- Where routines are solitary, events of different tasks commute as long as nothing gives way, and moving
them past each other changes no outcome as long as nothing gives way from there on. -/
theorem commutes_of_reachable (reachable : engine.ReachableBy Routine.IsSolitary)
    (threaded : engine.slot.mode = .perThread) :
    (∀ one other : KernelEvent, one.tids.Disjoint other.tids → engine.Spares [one, other] →
        engine.Spares [other, one] → engine.Commutes one other) ∧
      ∀ events later, engine.Reordered events later →
        (∀ tid, engine.transcriptOf tid later = engine.transcriptOf tid events) ∧
          (engine.handled events).Concurs (engine.handled later) :=
  ⟨fun _ _ apart spares again => commutes reachable threaded apart spares again,
    fun _ _ reordered => reordered.concurs reachable threaded⟩

def family (mode : Mode) (terminator : Terminator) (places : Nat) (routine : Routine) : Engine :=
  (initial ⟨2, 2, 1, mode, .perThread, places⟩ terminator .direct).after
    ((confinedRun routine).take 4)

theorem reachable_family (mode : Mode) (terminator : Terminator) {places : Nat} (some : places ≠ 0)
    {required : Routine → Prop} {routine : Routine} (fits : required routine) :
    (family mode terminator places routine).ReachableBy required := by
  refine ⟨⟨2, 2, 1, mode, .perThread, places⟩, terminator, .direct, _, ?_, fun operation member =>
    registers_confinedRun fits operation (List.mem_of_mem_take member), rfl⟩
  have few : 2 < UInt32.size := by decide
  rw [Config.validate_iff]
  exact ⟨nofun, nofun, few, some⟩

/-- Two calls are denied and race for one place in the channel. -/
theorem commutes_of_reachable_denials :
    let engine := family .enforcing .recording 1 (.described .denyAll)
    let one := KernelEvent.openExit ⟨7, 7⟩
    let other := KernelEvent.openExit ⟨8, 8⟩
    (engine.handled [one, other]).reporter.killed = [⟨7, 7⟩, ⟨8, 8⟩] ∧
      engine.Commutes one other ∧
      ∀ tid, engine.transcriptOf tid [other, one, .processExit 7] =
        engine.transcriptOf tid [one, other, .processExit 7] := by
  intro engine one other
  have apart : one.tids.Disjoint other.tids := by simp [one, other, KernelEvent.tids]
  obtain ⟨pairs, runs⟩ := commutes_of_reachable
    (reachable_family .enforcing .recording Nat.one_ne_zero RoutineSpec.denyAll.isSolitary) rfl
  refine ⟨by decide +kernel, ?_, ?_⟩
  · exact pairs one other apart ⟨by decide +kernel, by decide +kernel⟩
      ⟨by decide +kernel, by decide +kernel⟩
  · have swap : engine.Reordered ([] ++ [one, other, .processExit 7])
        ([] ++ [other, one, .processExit 7]) :=
      .swap apart ⟨by decide +kernel, by decide +kernel⟩
        ⟨by decide +kernel, by decide +kernel⟩
    exact (runs _ _ swap).1

def watchful : Routine :=
  .custom "watchful" fun _ _ => .ask (.table (.contains 8)) fun answer =>
    if answer = .table (.present true) then .ofRequests [.deny] else .done

def hasty : Routine :=
  .custom "hasty" fun memory _ => if memory.isEmpty then .ofRequests [.deny] else .done

/-- A later eviction tells which of two events came first. Besides, a routine may look at the record of
another task or remember an earlier call, one that denies twice leaves more than the two newest events to
exchange, and a terminator may refuse whichever request is the first. -/
theorem not_commutes_of_eviction :
    (¬ ∀ (engine : Engine) (one other : KernelEvent) (rest : List KernelEvent), engine.Reachable →
        engine.slot.mode = .perThread → one.tids.Disjoint other.tids → engine.Spares [one, other] →
        engine.Spares [other, one] → ∀ tid, engine.transcriptOf tid (other :: one :: rest) =
          engine.transcriptOf tid (one :: other :: rest)) ∧
      (let engine := family .audit .recording 4 watchful
       engine.Spares [.openExit ⟨7, 7⟩, .processExit 8] ∧
         engine.Spares [.processExit 8, .openExit ⟨7, 7⟩] ∧
         ((engine.handled [.processExit 8]).exitOpen ⟨7, 7⟩).value.2 ≠
           (engine.exitOpen ⟨7, 7⟩).value.2) ∧
      (let engine := family .audit .recording 4 hasty
       ((engine.handled [.openExit ⟨8, 8⟩]).exitOpen ⟨7, 7⟩).value.2 ≠
         (engine.exitOpen ⟨7, 7⟩).value.2) ∧
      (let engine := family .audit .recording 4 (.script "insistent" [.deny, .deny])
       let older events := ((engine.handled events).bus.pending .wouldHaveEnforced).dropLast.dropLast
       older [.openExit ⟨7, 7⟩, .openExit ⟨8, 8⟩] ≠ older [.openExit ⟨8, 8⟩, .openExit ⟨7, 7⟩]) ∧
      (let busy : Terminator := ⟨fun count _ => if count = 0 then some (.other "busy") else none⟩
       let engine := family .enforcing busy 2 (.described .denyAll)
       (engine.handled [.openExit ⟨7, 7⟩, .openExit ⟨8, 8⟩]).reporter.killed = [⟨8, 8⟩] ∧
         (engine.handled [.openExit ⟨8, 8⟩, .openExit ⟨7, 7⟩]).reporter.killed = [⟨7, 7⟩]) := by
  refine ⟨fun claim => ?_, ⟨⟨by decide +kernel, by decide +kernel⟩, ⟨by decide +kernel, by decide +kernel⟩,
    by decide +kernel⟩, by decide +kernel, by decide +kernel, by decide +kernel⟩
  have reachable : (pair.handled [.processCreate 0 1 1, .processCreate 0 2 2]).Reachable :=
    ⟨⟨2, 2, 1, .audit, .perThread, 1⟩, .recording, .direct, _, rfl, rfl⟩
  have same := claim _ (.openEntry ⟨1, 1⟩ (.forOpen 1 0)) (.openEntry ⟨2, 2⟩ (.forOpen 1 0))
    [.processCreate 0 3 3, .processExit 1] reachable rfl (by simp [KernelEvent.tids])
    ⟨by decide +kernel, by decide +kernel⟩ ⟨by decide +kernel, by decide +kernel⟩ 1
  -- The third task takes the place of the one whose call came first.
  have outcomes := congrArg (List.map fun entry => entry.2.outcome?) same
  revert outcomes
  decide +kernel

end Engine

end Confinement
