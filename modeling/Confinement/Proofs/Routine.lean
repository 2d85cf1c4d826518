import Confinement.Proofs.Table.Succession
import Confinement.Routine

/-! What routines do, request by request.

A routine with a description does no more than some script does, so that all routines are scripts as far as
their effects go, and one induction over the requests serves them all. What a routine may do to the records
of processes is told by what its requests may be.
-/

set_option autoImplicit false

namespace Confinement

namespace Script

variable {allowed weaker : Request → Prop} {script : Script}

def Within (allowed : Request → Prop) : Script → Prop
  | done => True
  | ask request next => allowed request ∧ ∀ answer, (next answer).Within allowed

theorem Within.imp (within : script.Within allowed)
    (weaken : ∀ request, allowed request → weaker request) : script.Within weaker := by
  induction script with
  | done => trivial
  | ask request next ih =>
    exact ⟨weaken request within.1, fun answer => ih answer (within.2 answer)⟩

/-- The requests that the script comes to in the context, with the answers that it gets there. -/
def requests : Script → Context → List Request
  | done, _ => []
  | ask request next, context =>
    let (context, answer) := (request.perform context).value
    request :: (next answer).requests context

theorem Within.requests (within : script.Within allowed) (context : Context) :
    ∀ request ∈ script.requests context, allowed request := by
  induction script generalizing context with
  | done => nofun
  | ask request next ih => exact List.forall_mem_cons.mpr ⟨within.1, ih _ (within.2 _) _⟩

theorem within_ofRequests {requests : List Request} (each : ∀ request ∈ requests, allowed request) :
    (ofRequests requests).Within allowed := by
  induction requests with
  | nil => trivial
  | cons request rest ih =>
    exact ⟨each request List.mem_cons_self, fun _ => ih fun other member =>
      each other (List.mem_cons_of_mem _ member)⟩

theorem holds_run (holds : Context → Prop) {context : Context}
    (each : ∀ request ∈ script.requests context, allowed request)
    (step : ∀ request context, allowed request → holds context →
      holds (request.perform context).value.1)
    (first : holds context) : holds (script.run context).value.1 := by
  induction script generalizing context with
  | done => exact first
  | ask request next ih =>
    obtain ⟨own, each⟩ := List.forall_mem_cons.mp each
    exact ih _ each (step request context own first)

end Script

/-! ## Routines as scripts -/

def RoutineSpec.requests (spec : RoutineSpec) (situation : Situation) : List Request :=
  match spec with
  | allowAll => []
  | denyAll => [.deny]
  | access policy =>
    match policy.rule situation.requested with
    | .allow | .audit => []
    | .taint => [.setTainted true]
    | .deny => [.deny]

def Routine.conduct (routine : Routine) (memory : List ScriptRun) (situation : Situation) : Script :=
  match routine with
  | described spec => .ofRequests (spec.requests situation)
  | custom _ script => script memory situation

abbrev Routine.scriptIn (routine : Routine) (context : Context) : Script :=
  routine.conduct context.memory context.toSituation

def Routine.requests (routine : Routine) (context : Context) : List Request :=
  (routine.scriptIn context).requests context

theorem RoutineSpec.value_run (spec : RoutineSpec) (context : Context) :
    (spec.run context).value =
      ((Script.ofRequests (spec.requests context.toSituation)).run context).value.1 := by
  cases spec with
  | allowAll | denyAll => rfl
  | access policy =>
    rw [run, AccessPolicy.run, requests]
    dsimp only
    cases policy.rule context.requested <;> rfl

theorem Routine.value_run (routine : Routine) (context : Context) :
    (routine.run context).value.1 = ((routine.scriptIn context).run context).value.1 := by
  cases routine with
  | described spec => exact spec.value_run context
  | custom name script => rfl

def Routine.record (routine : Routine) (context : Context) : Option ScriptRun :=
  match routine with
  | described _ => none
  | custom name script =>
    let result := ((script context.memory context.toSituation).run context).value
    some
      { toSituation := context.toSituation
        routine := name
        answers := result.2
        verdict := result.1.verdict }

theorem Routine.record_run (routine : Routine) (context : Context) :
    (routine.run context).value.2 = routine.record context := by
  cases routine <;> rfl

/-! ## Kinds of routines -/

def Routine.Within (allowed : Situation → Request → Prop) (routine : Routine) : Prop :=
  ∀ memory situation, (routine.conduct memory situation).Within (allowed situation)

def Request.IsPlain : Request → Prop
  | deny | setTainted _ => True
  | _ => False

theorem RoutineSpec.isPlain_requests (spec : RoutineSpec) (situation : Situation) :
    ∀ request ∈ spec.requests situation, request.IsPlain := by
  cases spec with
  | allowAll => nofun
  | denyAll => simp [requests, Request.IsPlain]
  | access policy =>
    rw [requests]
    cases policy.rule situation.requested <;> simp [Request.IsPlain]

theorem RoutineSpec.within {allowed : Situation → Request → Prop}
    (plain : ∀ situation request, request.IsPlain → allowed situation request) (spec : RoutineSpec) :
    (Routine.described spec).Within allowed := fun _ situation =>
  Script.within_ofRequests fun request member =>
    plain situation request (spec.isPlain_requests situation request member)

def Routine.isDescribed : Routine → Bool
  | described _ => true
  | custom _ _ => false

theorem Routine.exists_spec {routine : Routine} (plain : routine.isDescribed = true) :
    ∃ spec, routine = described spec := by
  cases routine with
  | described spec => exact ⟨spec, rfl⟩
  | custom => cases plain

def ProcessState.untainted (record : ProcessState) : ProcessState :=
  { record with tainted := false }

/-- The request changes nothing of a record but its taint, adds none, and deletes none but these. -/
def Request.Spares (lost : UInt32 → Prop) : Request → Prop
  | table (.update ..) | table .clear => False
  | table (.modify _ change) => ∀ record, (change record).untainted = record.untainted
  | table (.delete tid) => lost tid
  | _ => True

/-- The routine never deletes a record, and changes nothing of one but its taint. -/
def Routine.KeepsRecords (routine : Routine) : Prop :=
  routine.Within fun _ => Request.Spares fun _ => False

/-- The routine changes nothing of a record but its taint, and deletes none but that of its caller. -/
def Routine.IsRestrained (routine : Routine) : Prop :=
  routine.Within fun situation => Request.Spares (· = situation.process.pid)

/-- The request concerns no record but that of this task, and changes nothing of it but its taint. -/
def Request.IsOwn (tid : UInt32) : Request → Prop
  | write situation => situation.process.pid = tid
  | table (.lookup key) | table (.contains key) | table (.delete key) => key = tid
  | table (.modify key change) => key = tid ∧ ∀ record, (change record).untainted = record.untainted
  | table (.update ..) | table .clear | table .size | table .evictions => False
  | read | deny | setTainted _ | verdict => True

/-- The routine remembers no earlier call, and of all records it uses that of its caller alone, of which it
changes nothing but the taint unless it deletes it. -/
structure Routine.IsSolitary (routine : Routine) : Prop where
  forgetful : ∀ memory situation, routine.conduct memory situation = routine.conduct [] situation
  own : routine.Within fun situation => Request.IsOwn situation.process.pid

theorem RoutineSpec.keepsRecords (spec : RoutineSpec) : (Routine.described spec).KeepsRecords :=
  spec.within fun _ request plain => by cases request <;> simp_all [Request.IsPlain, Request.Spares]

theorem Request.Spares.imp {lost other : UInt32 → Prop} {request : Request}
    (spares : request.Spares lost) (weaken : ∀ tid, lost tid → other tid) : request.Spares other := by
  cases request with
  | table operation =>
    cases operation with
    | delete tid => exact weaken tid spares
    | _ => exact spares
  | _ => trivial

theorem Routine.KeepsRecords.isRestrained {routine : Routine} (keeps : routine.KeepsRecords) :
    routine.IsRestrained := fun memory situation =>
  (keeps memory situation).imp fun _ spares => spares.imp fun _ => False.elim

theorem Routine.isRestrained_of_isDescribed {routine : Routine} (plain : routine.isDescribed = true) :
    routine.IsRestrained := by
  obtain ⟨spec, rfl⟩ := exists_spec plain
  exact spec.keepsRecords.isRestrained

theorem Request.IsOwn.spares {tid : UInt32} {request : Request} (own : request.IsOwn tid) :
    request.Spares (· = tid) := by
  cases request with
  | table operation =>
    cases operation with
    | modify key change => exact own.2
    | delete key => exact own
    | update | clear => cases own
    | lookup | contains | size | evictions => trivial
  | _ => trivial

theorem Routine.IsSolitary.isRestrained {routine : Routine} (solitary : routine.IsSolitary) :
    routine.IsRestrained := fun memory situation =>
  (solitary.own memory situation).imp fun _ => Request.IsOwn.spares

theorem RoutineSpec.isSolitary (spec : RoutineSpec) : (Routine.described spec).IsSolitary where
  forgetful _ _ := rfl
  own := spec.within fun _ request plain => by
    cases request <;> simp_all [Request.IsPlain, Request.IsOwn]

/-! ## The table of processes -/

namespace Context

theorem processes_setTainted (context : Context) (tainted : Bool) :
    (context.setTainted tainted).1.processes =
      (context.processes.modify context.process.pid fun record => { record with tainted }).1 := by
  unfold setTainted
  dsimp only
  split <;> rfl

@[simp] theorem pid_setTainted (context : Context) (tainted : Bool) :
    (context.setTainted tainted).1.process.pid = context.process.pid := by
  unfold setTainted
  dsimp only
  split <;> rfl

end Context

theorem Request.follows_perform (request : Request) (context : Context) :
    Table.Follows context.processes (request.perform context).value.1.processes := by
  cases request with
  | setTainted tainted =>
    have modified := context.processes.follows_modify context.process.pid
      fun record => { record with tainted }
    rwa [← Context.processes_setTainted] at modified
  | table operation => exact context.processes.follows_perform operation
  | read | write | deny | verdict => exact .refl _

theorem Script.follows_run (script : Script) (context : Context) :
    Table.Follows context.processes (script.run context).value.1.processes :=
  Script.holds_run (fun later => Table.Follows context.processes later.processes)
    (fun _ _ => trivial)
    (fun request later (_ : True) follows => follows.trans (request.follows_perform later)) (.refl _)

theorem Routine.follows_run (routine : Routine) (context : Context) :
    Table.Follows context.processes (routine.run context).value.1.processes := by
  rw [value_run]
  exact Script.follows_run _ context

theorem Request.spared_perform {lost : UInt32 → Prop} {request : Request}
    (spares : request.Spares lost) (context : Context) :
    Table.Spared ProcessState.untainted lost context.processes
      (request.perform context).value.1.processes := by
  cases request with
  | setTainted tainted =>
    have modified : Table.Spared ProcessState.untainted lost context.processes
        (context.processes.modify context.process.pid fun record => { record with tainted }).1 :=
      context.processes.spared_modify lost _ fun _ => rfl
    rwa [← Context.processes_setTainted] at modified
  | table operation =>
    cases operation with
    | update | clear => cases spares
    | lookup tid => exact context.processes.spared_lookup _ lost tid
    | modify tid change => exact context.processes.spared_modify lost tid spares
    | delete tid =>
      exact (context.processes.spared_delete _ tid).imp fun _ same => same ▸ spares
    | contains | size | evictions => exact .refl _
  | read | write | deny | verdict => exact .refl _

theorem Script.spared_run {lost : UInt32 → Prop} {script : Script}
    (spares : script.Within (Request.Spares lost)) (context : Context) :
    Table.Spared ProcessState.untainted lost context.processes
      (script.run context).value.1.processes :=
  Script.holds_run
    (fun later => Table.Spared ProcessState.untainted lost context.processes later.processes)
    (spares.requests context)
    (fun _ later allowed spared => spared.trans (Request.spared_perform allowed later)) (.refl _)

/-- A restrained routine forgets at most its caller, and only if it is one that deletes records. -/
theorem Routine.IsRestrained.spared_run {routine : Routine} (restrained : routine.IsRestrained)
    (context : Context) :
    Table.Spared ProcessState.untainted
      (fun tid => ¬ routine.KeepsRecords ∧ tid = context.process.pid) context.processes
      (routine.run context).value.1.processes := by
  rw [value_run]
  by_cases keeps : routine.KeepsRecords
  · exact (Script.spared_run (keeps _ _) context).imp fun _ => False.elim
  · exact (Script.spared_run (restrained _ _) context).imp fun _ same => ⟨keeps, same⟩

theorem Request.IsOwn.find?_perform {tid other : UInt32} {request : Request} (own : request.IsOwn tid)
    (apart : other ≠ tid) {context : Context} (bounded : context.processes.Bounded)
    (caller : context.process.pid = tid) :
    (request.perform context).value.1.processes.find? other = context.processes.find? other := by
  cases request with
  | setTainted tainted =>
    change (context.setTainted tainted).1.processes.find? other = _
    rw [Context.processes_setTainted, bounded.find?_modify, if_neg (caller ▸ apart)]
  | table operation =>
    cases operation with
    | lookup key => exact bounded.find?_lookup key other
    | modify key change =>
      obtain ⟨rfl, _⟩ := own
      exact (bounded.find?_modify key other change).trans (if_neg apart)
    | delete key =>
      obtain rfl := own
      exact (bounded.find?_delete key other).trans (if_neg apart)
    | contains key => rfl
    | update | clear | size | evictions => cases own
  | read | write | deny | verdict => rfl

theorem Request.IsOwn.pid_perform {tid : UInt32} {request : Request} (own : request.IsOwn tid)
    {context : Context} (caller : context.process.pid = tid) :
    (request.perform context).value.1.process.pid = tid := by
  cases request with
  | setTainted tainted => exact (context.pid_setTainted tainted).trans caller
  | write situation => exact own
  | read | deny | verdict | table => exact caller

theorem Routine.IsSolitary.find?_run {routine : Routine} (solitary : routine.IsSolitary)
    {context : Context} (bounded : context.processes.Bounded) {other : UInt32}
    (apart : other ≠ context.process.pid) :
    (routine.run context).value.1.processes.find? other = context.processes.find? other := by
  rw [value_run]
  -- Whoever the caller is, its routine goes on to use the record of no other.
  have kept := Script.holds_run
    (fun later => later.process.pid = context.process.pid ∧
      Table.Follows context.processes later.processes ∧
      later.processes.find? other = context.processes.find? other)
    ((solitary.own context.memory context.toSituation).requests context)
    (fun request later own ⟨caller, follows, same⟩ => ⟨own.pid_perform caller,
      follows.trans (request.follows_perform later),
      (own.find?_perform apart (follows.bounded bounded) caller).trans same⟩)
    ⟨rfl, .refl _, rfl⟩
  exact kept.2.2

end Confinement
