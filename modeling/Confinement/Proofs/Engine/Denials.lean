import Confinement.Proofs.Engine.Integrity

/-! The account of denials.

With routines that have a description each denied call is one denial. It is counted, it is reported
under the numbers of its caller on the channel of the mode in force, where it is drained, waits or is
counted as dropped, and its caller is killed if the mode is to enforce. Nothing else is ever reported,
and nothing else is killed.
-/

set_option autoImplicit false

namespace Confinement

def Denial.report (denial : Denial) : Report :=
  ⟨denial.task, denial.event⟩

def Denial.channel (denial : Denial) : Channel :=
  match denial.mode with
  | .enforcing => .enforcement
  | .audit => .wouldHaveEnforced

theorem Denial.channelOf_mode (denial : Denial) : Reporter.channelOf denial.mode = denial.channel := by
  obtain ⟨_, mode, _, _⟩ := denial
  cases mode <;> rfl

def Denial.isOn (channel : Channel) (denial : Denial) : Bool :=
  denial.channel = channel

/-- The mode that is in force after operations: the one that was set last, if any was. -/
def modeInForce (first : Mode) (operations : List Operation) : Mode :=
  (operations.filterMap Operation.mode?).getLast?.getD first

namespace Engine

variable {engine start : Engine} {operation : Operation} {published : ProfileKey → Prop}

structure Vouches (engine : Engine) (denial : Denial) : Prop where
  mode : denial.mode = engine.mode
  caller : ∃ record, engine.processes.find? denial.task.tid = some record ∧
    record.pid = denial.task.tid ∧ record.tid = denial.task.tid ∧ record.profileKey = denial.key
  confined : denial.key ≠ .unconfined
  profile : engine.profiles.find? denial.key = some ⟨denial.key, denial.index⟩

theorem vouches_of_denial? (consistent : engine.Consistent published) {denial : Denial}
    (denied : engine.denial? operation = some denial) : engine.Vouches denial := by
  have heard := engine.heard_next operation
  generalize engine.reports operation = reports at heard
  rw [denied] at heard
  cases heard with
  | @denied task process profile _ _ present confined loaded =>
    obtain ⟨pid, own⟩ := consistent.numbered task.tid process present
    obtain ⟨key, _⟩ := consistent.keyed process.profileKey profile loaded
    refine ⟨rfl, ⟨process, present, pid, own, rfl⟩, process.isConfined_iff.mp confined, ?_⟩
    dsimp only
    rw [loaded, ← key]

/-- Where all routines have a description, the reporter hears of each denied call once. -/
theorem reports_eq (consistent : engine.Consistent published)
    (described : engine.dispatch.Each (·.isDescribed)) (operation : Operation) :
    engine.reports operation = (engine.denial? operation).toList.map Denial.report := by
  have heard := engine.heard_next operation
  generalize engine.reports operation = reports at heard ⊢
  generalize engine.denial? operation = denied at heard ⊢
  cases heard with
  | silent => rfl
  | @denied task process profile routine _ present _ _ registered heard some =>
    obtain ⟨spec, rfl⟩ := Routine.exists_spec (described profile.index routine registered)
    rw [spec.reports_described] at heard
    subst heard
    obtain ⟨pid, _⟩ := consistent.numbered task.tid process present
    rw [if_pos (by simpa using some)]
    simp [Denial.report, Denial.event, Context.report, contextOf, Reporter.eventOf, pid]

/-! ## One operation -/

structure Account (engine : Engine) (denials : List Denial) (drained : Channel → List Event) :
    Prop where
  counted : engine.reporter.denials = .ofNat denials.length
  killed : engine.reporter.killed =
    (denials.filter fun denial => denial.mode = .enforcing).map Denial.task
  channels : ∀ channel, (engine.bus.queue channel).Carries
    ((denials.filter (Denial.isOn channel)).map Denial.event) (drained channel)

theorem Account.next {denials : List Denial} {drained : Channel → List Event}
    (account : engine.Account denials drained) (recording : engine.reporter.terminator = .recording)
    (consistent : engine.Consistent published)
    (described : engine.dispatch.Each (·.isDescribed)) (operation : Operation) :
    (engine.next operation).Account (denials ++ (engine.denial? operation).toList)
      fun channel => drained channel ++ engine.taken operation channel where
  counted := by
    rw [denials_next, reports_eq consistent described, account.counted, List.length_map,
      List.length_append, UInt64.ofNat_add]
  killed := by
    rw [killed_next recording, reports_eq consistent described, account.killed]
    cases denied : engine.denial? operation with
    | none => simp
    | some denial =>
      have mode := (vouches_of_denial? consistent denied).mode
      cases inForce : engine.mode <;>
        simp [Mode.targets, Denial.report, mode, inForce]
  channels channel := by
    have carries := carries_next (account.channels channel) operation
    have same : engine.submitted operation channel =
        ((engine.denial? operation).toList.filter (Denial.isOn channel)).map Denial.event := by
      rw [submitted, reports_eq consistent described]
      cases denied : engine.denial? operation with
      | none => simp
      | some denial =>
        rw [← (vouches_of_denial? consistent denied).mode, denial.channelOf_mode]
        by_cases on : denial.channel = channel
        · simp [Denial.isOn, Denial.report, on]
        · simp [Denial.isOn, on, Ne.symm on]
    rw [List.filter_append, List.map_append, ← same]
    exact carries

theorem bus_next_of_denial? (consistent : engine.Consistent published)
    (described : engine.dispatch.Each (·.isDescribed)) {denial : Denial}
    (denied : engine.denial? operation = some denial) :
    (engine.next operation).bus = (engine.bus.submit denial.channel denial.event).1 := by
  have reporting := engine.reporting_next operation
  rw [bus]
  generalize (engine.next operation).reporter = later at reporting ⊢
  cases reporting with
  | heard =>
    rw [reports_eq consistent described, denied, ← denial.channelOf_mode,
      (vouches_of_denial? consistent denied).mode]
    rfl
  | switched => cases denied
  | drained => cases denied

/-! ## Runs -/

def drained (start : Engine) (operations : List Operation) (channel : Channel) : List Event :=
  (moments operations).flatMap fun moment =>
    (start.after moment.past).taken moment.operation channel

theorem drained_concat (start : Engine) (operations : List Operation) (operation : Operation)
    (channel : Channel) :
    start.drained (operations ++ [operation]) channel =
      start.drained operations channel ++ (start.after operations).taken operation channel := by
  simp [drained, moments_concat]

theorem modeInForce_concat (first : Mode) (operations : List Operation) (operation : Operation) :
    modeInForce first (operations ++ [operation]) =
      operation.mode?.getD (modeInForce first operations) := by
  rw [modeInForce, List.filterMap_append]
  cases set : operation.mode? <;> simp [set, modeInForce]

theorem mode_after (start : Engine) (operations : List Operation) :
    (start.after operations).mode = modeInForce start.mode operations := by
  induction operations using List.reverseRecOn with
  | nil => rfl
  | append_singleton earlier operation ih =>
    rw [after_concat, mode_next, ih, modeInForce_concat]

theorem terminator_after (start : Engine) (operations : List Operation) :
    (start.after operations).reporter.terminator = start.reporter.terminator := by
  induction operations using List.reverseRecOn with
  | nil => rfl
  | append_singleton earlier operation ih => rw [after_concat, terminator_next, ih]

variable {config : Config} {terminator : Terminator} {assignments : Assignments}
  {operations : List Operation}

theorem registers_of_plain (plain : ∀ operation ∈ operations, operation.isDescribed = true) :
    ∀ operation ∈ operations, operation.Registers Routine.IsRestrained := fun operation member =>
  (operation.registers_of_isDescribed (plain operation member)).imp
    fun _ => Routine.isRestrained_of_isDescribed

theorem described_after (built : (build config terminator assignments).value = .ok start)
    (plain : ∀ operation ∈ operations, operation.isDescribed = true) :
    (start.after operations).dispatch.Each (·.isDescribed) :=
  each_after (each_of_build built _) fun operation member =>
    operation.registers_of_isDescribed (plain operation member)

theorem denials_after (start : Engine) (operations : List Operation) :
    (start.after operations).reporter.denials =
      start.reporter.denials + .ofNat (start.reported operations).length := by
  induction operations using List.reverseRecOn with
  | nil => exact (UInt64.add_zero _).symm
  | append_singleton earlier operation ih =>
    rw [after_concat, denials_next, ih, reported_concat, List.length_append, UInt64.ofNat_add,
      UInt64.add_assoc]

theorem reported_eq (built : (build config terminator assignments).value = .ok start)
    (plain : ∀ operation ∈ operations, operation.isDescribed = true) :
    start.reported operations = (start.denials operations).map Denial.report := by
  induction operations using List.reverseRecOn with
  | nil => rfl
  | append_singleton earlier operation ih =>
    have before := (List.forall_mem_append.mp plain).1
    rw [reported_concat, denials_concat, ih before, List.map_append,
      reports_eq (consistent_of_build built (registers_of_plain before)) (described_after built before)]

theorem account_initial (config : Config) (terminator : Terminator) (assignments : Assignments) :
    (initial config terminator assignments).Account [] fun _ => [] where
  counted := rfl
  killed := rfl
  channels channel := by
    have empty : (initial config terminator assignments).bus.queue channel = .empty :=
      Bus.queue_new _ channel
    rw [empty]
    exact Queue.carries_empty

theorem account_after (built : (build config .recording assignments).value = .ok start)
    (plain : ∀ operation ∈ operations, operation.isDescribed = true) :
    (start.after operations).Account (start.denials operations) (start.drained operations) := by
  induction operations using List.reverseRecOn with
  | nil =>
    rw [eq_initial_of_build built]
    exact account_initial config .recording assignments
  | append_singleton earlier operation ih =>
    have before := (List.forall_mem_append.mp plain).1
    have recording : (start.after earlier).reporter.terminator = .recording := by
      rw [terminator_after, eq_initial_of_build built]
      rfl
    have same : start.drained (earlier ++ [operation]) = fun channel =>
        start.drained earlier channel ++ (start.after earlier).taken operation channel :=
      funext (start.drained_concat earlier operation)
    rw [after_concat, denials_concat, same]
    exact (ih before).next recording (consistent_of_build built (registers_of_plain before))
      (described_after built before) operation

/-- What is known of the denials of a run, and of the reports and requests that they led to. -/
structure Accounted (config : Config) (start : Engine) (operations : List Operation) : Prop where
  counted : (start.after operations).reporter.denials.toNat = (start.denials operations).length
  balanced : ∀ channel, (start.drained operations channel).length +
      ((start.after operations).bus.pending channel).length +
      ((start.after operations).bus.dropped channel).toNat =
    ((start.denials operations).filter (Denial.isOn channel)).length
  delivered : ∀ channel,
    (start.drained operations channel ++ (start.after operations).bus.pending channel).Sublist
      (((start.denials operations).filter (Denial.isOn channel)).map Denial.event)
  killed : (start.after operations).reporter.killed =
    ((start.denials operations).filter fun denial => denial.mode = .enforcing).map Denial.task
  denied : ∀ moment ∈ moments operations, ∀ denial,
    (start.after moment.past).denial? moment.operation = some denial →
      (start.after moment.past).Vouches denial ∧
        denial.mode = modeInForce config.mode moment.past ∧
        (start.after (moment.past ++ [moment.operation])).bus =
          ((start.after moment.past).bus.submit denial.channel denial.event).1
  quiet : ∀ moment ∈ moments operations,
    (start.after moment.past).denial? moment.operation = none →
      (start.after (moment.past ++ [moment.operation])).reporter.denials =
          (start.after moment.past).reporter.denials ∧
        (start.after (moment.past ++ [moment.operation])).reporter.killed =
          (start.after moment.past).reporter.killed ∧
        ∀ channel, (start.after (moment.past ++ [moment.operation])).bus.dropped channel =
            (start.after moment.past).bus.dropped channel ∧
          (moment.operation ≠ .drain channel →
            (start.after (moment.past ++ [moment.operation])).bus.pending channel =
              (start.after moment.past).bus.pending channel)

/-- As long as the counters do not wrap, and if all routines have a description and no request to kill
fails, each denial is counted, reported and carried out exactly once, and nothing else is. -/
theorem accounted_after (built : (build config .recording assignments).value = .ok start)
    (plain : ∀ operation ∈ operations, operation.isDescribed = true)
    (few : (start.denials operations).length < UInt64.size) : start.Accounted config operations := by
  have account := account_after built plain
  constructor
  case counted => rw [account.counted, UInt64.toNat_ofNat_of_lt' few]
  case balanced =>
    intro channel
    obtain ⟨lost, total, dropped⟩ := (account.channels channel).missing
    rw [List.length_map] at total
    -- No more events were dropped than denials were answered, so that this counter did not wrap.
    have fewer := List.length_filter_le (Denial.isOn channel) (start.denials operations)
    rw [Bus.dropped, dropped, UInt64.toNat_ofNat_of_lt' (by omega)]
    exact total
  case delivered => exact fun channel => (account.channels channel).kept
  case killed => exact account.killed
  case denied =>
    intro moment member denial denied
    obtain ⟨rest, split⟩ := exists_rest_of_mem member
    rw [split] at plain
    have before := (List.forall_mem_append.mp plain).1
    have consistent := consistent_of_build built (registers_of_plain before)
    have vouches := vouches_of_denial? consistent denied
    refine ⟨vouches, ?_, ?_⟩
    · rw [vouches.mode, mode_after, eq_initial_of_build built]
      rfl
    · rw [after_concat]
      exact bus_next_of_denial? consistent (described_after built before) denied
  case quiet =>
    intro moment _ allowed
    rw [after_concat]
    exact quiet_next (reports_eq_nil allowed)

def switchedRun : List Operation :=
  confinedRun (.described .denyAll) ++
    [.setMode .enforcing, .event (.openExit ⟨7, 7⟩), .drain .enforcement]

/-- The first denial is only reported, and the second one carried out, each on its own channel. -/
theorem accounted_after_switch :
    (pair.after switchedRun).reporter.killed = [⟨7, 7⟩] ∧
      pair.drained switchedRun .enforcement = [⟨7, 7, Executable.profileKey ⟨0, 5⟩⟩] ∧
      (pair.after switchedRun).bus.pending .enforcement = [] ∧
      pair.drained switchedRun .wouldHaveEnforced = [] ∧
      (pair.after switchedRun).bus.pending .wouldHaveEnforced =
        [⟨7, 7, Executable.profileKey ⟨0, 5⟩⟩] ∧
      pair.Accounted ⟨2, 2, 1, .audit, .perThread, 1⟩ switchedRun :=
  ⟨by decide +kernel, by decide +kernel, by decide +kernel, by decide +kernel, by decide +kernel,
    accounted_after build_pair (by decide +kernel) (by decide +kernel)⟩

end Engine

end Confinement
