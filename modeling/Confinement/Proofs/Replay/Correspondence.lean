import Confinement.Proofs.Replay.Steps

/-! Two replays side by side, of engines that are alike in some way.

A replay looks at its engine only to see who was killed and what waits in the channels, and otherwise hands
it operations. So if engines that are alike have the same reporter, stay alike by the operations of each step
and answer them alike, then two replays of the same steps find the same.
-/

set_option autoImplicit false

namespace Confinement

theorem Response.ofResult_profile_inj {result other : Except Error Profile}
    (same : ofResult profile result = ofResult profile other) : result = other := by
  cases result <;> cases other <;> cases same <;> rfl

namespace Replay

variable {alike : Engine → Engine → Prop}

def Keeps (alike : Engine → Engine → Prop) (operations : List Operation) : Prop :=
  ∀ first second, alike first second →
    alike (first.after operations) (second.after operations) ∧
      (second.run operations).value.2 = (first.run operations).value.2

/-- Engines that are alike may replay these steps side by side. -/
structure Sustains (alike : Engine → Engine → Prop) (steps : List TraceStep) : Prop where
  reporter : ∀ first second, alike first second → second.reporter = first.reporter
  step : ∀ step ∈ steps, Keeps alike step.operations
  exits : ∀ tids : List UInt32, Keeps alike (tids.map fun tid => .event (.processExit tid))
  drain : ∀ channel, Keeps alike [.drain channel]

theorem Sustains.tail {step : TraceStep} {rest : List TraceStep}
    (sustains : Sustains alike (step :: rest)) : Sustains alike rest :=
  { sustains with step := fun other member => sustains.step other (List.mem_cons_of_mem _ member) }

namespace Progress

structure Beside (alike : Engine → Engine → Prop) (first second : Progress) : Prop where
  engine : alike first.engine second.engine
  reaped : second.reaped = first.reaped
  capacityErrors : second.capacityErrors = first.capacityErrors
  events : second.events = first.events

namespace Beside

variable {first second : Progress} {steps : List TraceStep}

theorem start {one other : Engine} (related : alike one other) :
    (Progress.start one).Beside alike (Progress.start other) :=
  ⟨related, rfl, rfl, rfl⟩

theorem acted (beside : first.Beside alike second) {step : TraceStep}
    (keeps : Keeps alike step.operations) :
    (first.acted step).Beside alike (second.acted step) := by
  obtain ⟨engines, answers⟩ := keeps _ _ beside.engine
  constructor
  · rwa [engine_acted, engine_acted]
  · rw [reaped_acted, reaped_acted, beside.reaped]
  · rw [capacityErrors_acted, capacityErrors_acted, answers, beside.capacityErrors]
  · rw [events_acted, events_acted, beside.events]

theorem cleared (sustains : Sustains alike steps) (beside : first.Beside alike second) :
    first.cleared.Beside alike second.cleared := by
  have killed := congrArg Reporter.killed (sustains.reporter _ _ beside.engine)
  have exits : pendingExits second = pendingExits first := by
    rw [pendingExits, pendingExits, killed, beside.reaped]
  have same : (pendingExits first).map Operation.event =
      ((first.engine.reporter.killed.drop first.reaped).map Task.tid).map fun tid =>
        .event (.processExit tid) := by
    rw [pendingExits, List.map_map, List.map_map]
    rfl
  obtain ⟨engines, answers⟩ := same ▸ sustains.exits _ _ _ beside.engine
  constructor
  · rwa [engine_cleared, engine_cleared, exits]
  · exact congrArg List.length killed
  · rw [capacityErrors_cleared, capacityErrors_cleared, exits, answers, beside.capacityErrors]
  · rw [events_cleared, events_cleared, beside.events]

theorem collect (sustains : Sustains alike steps) (beside : first.Beside alike second) (number : Nat)
    (channel : Channel) :
    (collect first number channel).Beside alike (Replay.collect second number channel) := by
  have taken := congrArg (fun reporter : Reporter => (reporter.bus.drain channel).2)
    (sustains.reporter _ _ beside.engine)
  refine ⟨(sustains.drain channel _ _ beside.engine).1, beside.reaped, beside.capacityErrors, ?_⟩
  exact congrArg₂ (fun events taken : List _ => events ++ taken.map fun event =>
    Delivery.mk channel number event) beside.events taken

theorem playedAll (sustains : Sustains alike steps) (beside : first.Beside alike second)
    (number : Nat) : (first.playedAll number steps).Beside alike (second.playedAll number steps) := by
  induction steps generalizing number first second with
  | nil => exact beside
  | cons step rest ih =>
    have acted := beside.acted (sustains.step step List.mem_cons_self)
    have collected := ((acted.cleared sustains).collect sustains number .enforcement).collect sustains
      number .wouldHaveEnforced
    exact ih sustains.tail collected (number + 1)

theorem report (beside : first.Beside alike second)
    (reporter : second.engine.reporter = first.engine.reporter)
    (stats : second.engine.stats = first.engine.stats) (trace : Trace) :
    second.report trace = first.report trace := by
  rw [Progress.report, Progress.report, summarize, summarize, reporter, beside.events,
    beside.capacityErrors, stats]

end Beside

end Progress

/-! ## Whole replays -/

def resolves (files : Files) (profile : TraceProfile) : Bool :=
  (profile.resolveKey files).toBool

inductive Matched (alike : Engine → Engine → Prop) : Except Error Engine → Except Error Engine → Prop where
  | failed {error : Error} : Matched alike (.error error) (.error error)
  | ready {first second : Engine} (related : alike first second) :
      Matched alike (.ok first) (.ok second)

theorem matched_installAll {files : Files} {profiles : List TraceProfile} {first second : Engine}
    (related : alike first second)
    (keeps : ∀ profile ∈ profiles.takeWhile (resolves files), ∀ key,
      profile.resolveKey files = .ok key → Keeps alike [installing profile key]) :
    Matched alike (installAll files profiles first).value (installAll files profiles second).value := by
  induction profiles generalizing first second with
  | nil => exact .ready related
  | cons profile rest ih =>
    unfold installAll
    cases resolved : profile.resolveKey files with
    | error error => exact .failed
    | ok key =>
      have found : resolves files profile = true := by
        rw [resolves, resolved]
        rfl
      rw [List.takeWhile_cons_of_pos found] at keeps
      obtain ⟨installed, answers⟩ := keeps profile List.mem_cons_self key resolved _ _ related
      have answer : (second.install key profile.index profile.routine.build).value.2 =
          (first.install key profile.index profile.routine.build).value.2 :=
        Response.ofResult_profile_inj (List.cons.inj answers).1
      dsimp only
      rw [Logged.value_bind, Logged.value_bind, answer]
      cases (first.install key profile.index profile.routine.build).value.2 with
      | error error => exact .failed
      | ok loaded =>
        exact ih installed fun other member => keeps other (List.mem_cons_of_mem _ member)

end Replay

end Confinement
