import Confinement.Loading
import Confinement.Proofs.Access
import Confinement.Proofs.Document.Reading

/-! Traces are read back as they were written.

Each part of a trace is written so that its reader makes the same part of it again. For parts that are
told apart by a tag or by the first reader that fits, what is written for one of the choices is taken
for no other.
-/

set_option autoImplicit false

namespace Confinement

open Document (Value Datum Source Decoder Record Reads Takes Presents)

/-! ## Parts of traces -/

theorem Mode.reads (mode : Mode) : Reads Mode.ofDocument mode.toDocument mode := by
  cases mode with
  | enforcing => exact Takes.reads (fun _ => rfl) rfl
  | audit => exact Takes.reads (fun _ => rfl) rfl

theorem ProfileKey.reads (key : ProfileKey) : Reads ProfileKey.ofDocument key.toDocument key :=
  (Document.reads_u64 key.raw).map ProfileKey.mk

theorem Access.reads (access : Access) : Reads Access.ofDocument access.toDocument access := by
  refine Takes.reads (fun kept => ?_) rfl
  rw [Access.ofDocument, Access.toDocument, Document.reads_text _ _ _ (.same _), pure_bind,
    Access.parse_render]

theorem Executable.reads (executable : Executable) :
    Reads Executable.ofDocument executable.toDocument executable := by
  refine Record.reads_object (by simp) (fun entries presents => ?_) _
  have device := presents.field "device" none (Document.reads_u32 executable.device) (by simp)
  have inode := presents.field "inode" none (Document.reads_u64 executable.inode) (by simp)
  exact (device.both inode (by decide)).map _

theorem Task.reads (task : Task) : Reads Task.ofDocument task.toDocument task := by
  refine Record.reads_object (by simp) (fun entries presents => ?_) _
  have tid := presents.field "tid" none (Document.reads_u32 task.tid) (by simp)
  have tgid := presents.field "tgid" none (Document.reads_u32 task.tgid) (by simp)
  exact (tid.both tgid (by decide)).map _

theorem OpenFlags.reads (flags : OpenFlags) :
    Reads OpenFlags.ofDocument flags.toDocument flags := by
  refine Record.reads_object (by simp) (fun entries presents => ?_) _
  have openFlag := presents.field "open_flag" none (Document.reads_i32 flags.openFlag) (by simp)
  have mode := presents.field "mode" none (Document.reads_u16 flags.mode) (by simp)
  have accMode := presents.field "acc_mode" none (Document.reads_i32 flags.accMode) (by simp)
  have intent := presents.field "intent" none (Document.reads_i32 flags.intent) (by simp)
  have lookup := presents.field "lookup_flags" none (Document.reads_i32 flags.lookupFlags) (by simp)
  have last := intent.both lookup (by decide)
  have later := accMode.both last (by decide)
  have most := mode.both later (by decide)
  exact (openFlag.both most (by decide)).map _

theorem AccessPolicy.takes {policy : AccessPolicy} {entries : List (Value × Value)}
    (presents : Presents policy.fieldsToDocument entries) :
    Takes AccessPolicy.ofDocument (.map entries) policy := by
  have allow := presents.field "allow" (some .none) policy.allow.reads (by simp [fieldsToDocument])
  have taint := presents.field "taint" (some .none) policy.taint.reads (by simp [fieldsToDocument])
  have audit := presents.field "audit" (some .none) policy.audit.reads (by simp [fieldsToDocument])
  have last := taint.both audit (by decide)
  exact ((allow.both last (by decide)).map _).takes _

/-! ## Routines and events -/

theorem RoutineSpec.reads (spec : RoutineSpec) :
    Reads RoutineSpec.ofDocument spec.toDocument spec := by
  intro other same kept
  cases spec with
  | allowAll =>
    obtain ⟨entries, rfl, presents⟩ := same.exists_object (by simp)
    rw [RoutineSpec.ofDocument, presents.tagged (by simp), pure_bind]
    rfl
  | denyAll =>
    obtain ⟨entries, rfl, presents⟩ := same.exists_object (by simp)
    rw [RoutineSpec.ofDocument, presents.tagged (by simp), pure_bind]
    rfl
  | access policy =>
    obtain ⟨entries, rfl, presents⟩ :=
      same.exists_object (by simp [AccessPolicy.fieldsToDocument])
    have takes := AccessPolicy.takes (presents.untagged (by simp [AccessPolicy.fieldsToDocument]))
    rw [RoutineSpec.ofDocument, presents.tagged (by simp), pure_bind]
    exact (congrArg (Functor.map RoutineSpec.access) (takes true)).trans (map_pure _ _)

theorem KernelEvent.reads (event : KernelEvent) :
    Reads KernelEvent.ofDocument event.toDocument event := by
  intro other same kept
  cases event with
  | processCreate parent child group =>
    obtain ⟨entries, rfl, presents⟩ := same.exists_object (by simp)
    have fields := presents.untagged (by simp)
    have parent := fields.field "parent_tid" none (Document.reads_u32 parent) (by simp)
    have child := fields.field "child_tid" none (Document.reads_u32 child) (by simp)
    have group := fields.field "child_tgid" none (Document.reads_u32 group) (by simp)
    have last := child.both group (by decide)
    rw [KernelEvent.ofDocument, presents.tagged (by simp), pure_bind]
    exact ((parent.both last (by decide)).map _).takes _ true
  | programLoad tid executable =>
    obtain ⟨entries, rfl, presents⟩ := same.exists_object (by simp)
    have fields := presents.untagged (by simp)
    have tid := fields.field "tid" none (Document.reads_u32 tid) (by simp)
    have program := fields.field "executable" none executable.reads (by simp)
    rw [KernelEvent.ofDocument, presents.tagged (by simp), pure_bind]
    exact ((tid.both program (by decide)).map _).takes _ true
  | processExit tid =>
    obtain ⟨entries, rfl, presents⟩ := same.exists_object (by simp)
    have fields := presents.untagged (by simp)
    have tid := fields.field "tid" none (Document.reads_u32 tid) (by simp)
    rw [KernelEvent.ofDocument, presents.tagged (by simp), pure_bind]
    exact (tid.map _).takes _ true
  | openEntry task flags =>
    obtain ⟨entries, rfl, presents⟩ := same.exists_object (by simp)
    have fields := presents.untagged (by simp)
    have task := fields.field "task" none task.reads (by simp)
    have flags := fields.field "flags" none flags.reads (by simp)
    rw [KernelEvent.ofDocument, presents.tagged (by simp), pure_bind]
    exact ((task.both flags (by decide)).map _).takes _ true
  | openExit task =>
    obtain ⟨entries, rfl, presents⟩ := same.exists_object (by simp)
    have fields := presents.untagged (by simp)
    have task := fields.field "task" none task.reads (by simp)
    rw [KernelEvent.ofDocument, presents.tagged (by simp), pure_bind]
    exact (task.map _).takes _ true

theorem TraceProfile.reads (profile : TraceProfile) :
    Reads TraceProfile.ofDocument profile.toDocument profile := by
  refine Record.reads_object (by simp) (fun entries presents => ?_) _
  have key := presents.field "key" (some none)
    (Document.reads_option ProfileKey.reads (fun _ => rfl) profile.key) (by simp)
  have device := presents.field "device" (some none)
    (Document.reads_option Document.reads_u32 (fun _ => rfl) profile.device) (by simp)
  have inode := presents.field "inode" (some none)
    (Document.reads_option Document.reads_u64 (fun _ => rfl) profile.inode) (by simp)
  have path := presents.field "path" (some none)
    (Document.reads_option (Document.reads_text "path string") (fun _ => rfl) profile.path) (by simp)
  have index := presents.field "index" none (Document.reads_u32 profile.index) (by simp)
  have routine := presents.field "routine" none profile.routine.reads (by simp)
  have last := index.both routine (by decide)
  have later := path.both last (by decide)
  have numbered := inode.both later (by decide)
  have most := device.both numbered (by decide)
  exact (key.both most (by decide)).map _

theorem OpenCall.reads (call : OpenCall) : Reads OpenCall.ofDocument call.toDocument call := by
  refine Record.reads_object (by simp) (fun entries presents => ?_) _
  have tid := presents.field "tid" none (Document.reads_u32 call.tid) (by simp)
  have tgid := presents.field "tgid" (some none)
    (Document.reads_option Document.reads_u32 (fun _ => rfl) call.tgid) (by simp)
  have flags := presents.field "flags" (some 0) (Document.reads_i32 call.flags) (by simp)
  have mode := presents.field "mode" (some 0) (Document.reads_u16 call.mode) (by simp)
  have last := flags.both mode (by decide)
  have later := tgid.both last (by decide)
  exact (tid.both later (by decide)).map _

/-! ## Steps -/

namespace TraceStep

def asEvent (value : Value) : Decoder KernelEvent :=
  KernelEvent.ofDocument (Datum.mk true value)

def asCall (value : Value) : Decoder OpenCall :=
  ofField "open" "struct variant TraceStep::Open" OpenCall.ofDocument value

def asMode (value : Value) : Decoder Mode :=
  ofField "set_mode" "struct variant TraceStep::SetMode" Mode.ofDocument value

/-- The value is the step for one of the three readers, and nothing for the others. -/
inductive Told (value : Value) : TraceStep → Prop where
  | kernel {event : KernelEvent} (taken : asEvent value = pure event)
      (noCall : (asCall value).Fails) (noMode : (asMode value).Fails) : Told value (.kernel event)
  | openCall {call : OpenCall} (noEvent : (asEvent value).Fails) (taken : asCall value = pure call)
      (noMode : (asMode value).Fails) : Told value (.openCall call)
  | setMode {mode : Mode} (noEvent : (asEvent value).Fails) (noCall : (asCall value).Fails)
      (taken : asMode value = pure mode) : Told value (.setMode mode)

theorem fails_asEvent {fields : List (String × Value)} {entries : List (Value × Value)}
    (presents : Presents fields entries) (absent : "event" ∉ fields.map Prod.fst) :
    (asEvent (.map entries)).Fails :=
  (Document.Datum.fails_tagged (presents.isNamed absent) _).bind _

theorem exists_presents_kernel {event : KernelEvent} {value : Value}
    (same : event.toDocument.Rearranged value) :
    ∃ fields entries, value = .map entries ∧ Presents fields entries ∧
      "open" ∉ fields.map Prod.fst ∧ "set_mode" ∉ fields.map Prod.fst := by
  cases event with
  | _ =>
    obtain ⟨entries, rfl, presents⟩ := same.exists_object (by simp)
    exact ⟨_, entries, rfl, presents, by simp, by simp⟩

theorem told {step : TraceStep} {value : Value} (same : step.toDocument.Rearranged value) :
    step.Told value := by
  cases step with
  | kernel event =>
    have taken : asEvent value = pure event := event.reads value same true
    obtain ⟨fields, entries, rfl, presents, noCall, noMode⟩ := exists_presents_kernel same
    exact .kernel taken (presents.fails_required noCall _ _ true)
      (presents.fails_required noMode _ _ true)
  | openCall call =>
    obtain ⟨entries, rfl, presents⟩ := same.exists_object (by simp)
    have taken := (presents.field "open" none call.reads (by simp)).takes
      "struct variant TraceStep::Open" true
    exact .openCall (fails_asEvent presents (by simp)) taken
      (presents.fails_required (by simp) _ _ true)
  | setMode mode =>
    obtain ⟨entries, rfl, presents⟩ := same.exists_object (by simp)
    have taken := (presents.field "set_mode" none mode.reads (by simp)).takes
      "struct variant TraceStep::SetMode" true
    exact .setMode (fails_asEvent presents (by simp)) (presents.fails_required (by simp) _ _ true)
      taken

theorem Told.ofDocument {step : TraceStep} {value : Value} (told : step.Told value) (kept : Bool) :
    TraceStep.ofDocument (Datum.mk kept value) = pure step := by
  have whole : Source.keep (Datum.mk kept value) = pure value := rfl
  unfold TraceStep.ofDocument
  rw [whole, pure_bind]
  cases told with
  | kernel taken =>
    rw [asEvent] at taken
    rw [taken]
    rfl
  | openCall noEvent taken =>
    rw [asEvent] at noEvent
    rw [asCall] at taken
    rw [noEvent.attempt, taken]
    rfl
  | setMode noEvent noCall taken =>
    rw [asEvent] at noEvent
    rw [asCall] at noCall
    rw [asMode] at taken
    rw [noEvent.attempt, noCall.attempt, taken]
    rfl

theorem reads (step : TraceStep) : Reads TraceStep.ofDocument step.toDocument step :=
  fun _ same => (told same).ofDocument

structure Apart (step : TraceStep) (value : Value) : Prop where
  kernel : (asEvent value).Accepts ↔ ∃ event, step = .kernel event
  openCall : (asCall value).Accepts ↔ ∃ call, step = .openCall call
  setMode : (asMode value).Accepts ↔ ∃ mode, step = .setMode mode

theorem Told.apart {step : TraceStep} {value : Value} (told : step.Told value) :
    step.Apart value := by
  cases told with
  | kernel taken noCall noMode =>
    constructor <;> simp [taken, Decoder.accepts_pure, noCall.not_accepts, noMode.not_accepts]
  | openCall noEvent taken noMode =>
    constructor <;> simp [noEvent.not_accepts, taken, Decoder.accepts_pure, noMode.not_accepts]
  | setMode noEvent noCall taken =>
    constructor <;> simp [noEvent.not_accepts, noCall.not_accepts, taken, Decoder.accepts_pure]

end TraceStep

theorem Trace.reads (trace : Trace) : Reads Trace.ofDocument trace.toDocument trace := by
  refine Record.reads_object (by simp) (fun entries presents => ?_) _
  have profiles := presents.field "profiles" (some [])
    (Document.reads_list TraceProfile.reads trace.profiles) (by simp)
  have steps := presents.field "events" (some [])
    (Document.reads_list TraceStep.reads trace.steps) (by simp)
  exact (profiles.both steps (by decide)).map _

/-- Nothing of a trace is lost when it is written, and nothing in it is mistaken for something else. -/
structure Trace.Survives (trace : Trace) : Prop where
  written : trace.toDocument.decode Trace.ofDocument = .ok trace
  rearranged : ∀ value, trace.toDocument.Rearranged value →
    value.decode Trace.ofDocument = .ok trace
  steps : ∀ step ∈ trace.steps, ∀ value, step.toDocument.Rearranged value → step.Apart value
  events : ∀ event, .kernel event ∈ trace.steps →
    Reads KernelEvent.ofDocument event.toDocument event
  routines : ∀ profile ∈ trace.profiles,
    Reads RoutineSpec.ofDocument profile.routine.toDocument profile.routine

/-- Every trace is read back as it was written. -/
theorem Trace.survives_document (trace : Trace) : trace.Survives := by
  have decoded : ∀ value, trace.toDocument.Rearranged value →
      value.decode Trace.ofDocument = .ok trace := by
    intro value same
    rw [Value.decode, trace.reads value same]
    rfl
  constructor
  case written => exact decoded _ (.same _)
  case rearranged => exact decoded
  case steps => exact fun step _ value same => (TraceStep.told same).apart
  case events => exact fun event _ => event.reads
  case routines => exact fun profile _ => profile.routine.reads

end Confinement
