import Confinement.Proofs.Engine.Opens
import Confinement.Proofs.Open.Flags
import Confinement.Proofs.Replay.Steps

/-! Open calls under an access policy, against the access that the kernel checks for them.

A policy judges the access that is derived from the flag word. Where both low bits of the word are set, that
is less than the kernel checks: such a call may pass as one that reads only.
-/

set_option autoImplicit false

namespace Confinement

namespace AccessPolicy

variable {policy : AccessPolicy} {requested : Access}

structure Uncovered (policy : AccessPolicy) (requested : Access) : Prop where
  allow : policy.allow.contains requested = false
  taint : policy.taint.contains requested = false
  audit : policy.audit.contains requested = false

theorem Uncovered.denies (uncovered : policy.Uncovered requested) : policy.Denies requested :=
  ⟨uncovered.allow, .inr uncovered.taint, .inr uncovered.audit⟩

inductive Judges (policy : AccessPolicy) (mode : Mode) (requested : Access) : Verdict → Prop where
  | allowed (allows : ¬ policy.Denies requested) : Judges policy mode requested .allowed
  | denied (denies : policy.Denies requested) : Judges policy mode requested (.denied mode)

variable {mode : Mode} {verdict : Verdict}

theorem Judges.eq_denied (judges : policy.Judges mode requested verdict)
    (denies : policy.Denies requested) : verdict = .denied mode := by
  cases judges with
  | allowed allows => exact absurd denies allows
  | denied => rfl

theorem Judges.eq_allowed (judges : policy.Judges mode requested verdict)
    (allows : ¬ policy.Denies requested) : verdict = .allowed := by
  cases judges with
  | allowed => rfl
  | denied denies => exact absurd denies allows

end AccessPolicy

namespace Engine

open OpenFlags (Understated kernelAccess)

variable {engine : Engine} {call : OpenCall} {record : ProcessState} {profile : Profile}
  {policy : AccessPolicy}

def AnswersCall (engine : Engine) (call : OpenCall) (index : UInt32) (verdict : Verdict) : Prop :=
  (engine.run (TraceStep.openCall call).operations).value.2 =
    [.outcome (.captured true), .outcome (.opened (.dispatched index verdict))]

/-- How an open call of a task under an access policy is judged, against what the kernel checks for it. -/
structure JudgesCall (engine : Engine) (call : OpenCall) (profile : Profile) (policy : AccessPolicy) :
    Prop where
  judged : ∃ verdict, engine.AnswersCall call profile.index verdict ∧
    policy.Judges engine.mode call.openFlags.access verdict
  denied : ¬ Understated call.flags → policy.Uncovered (kernelAccess call.flags) →
    engine.AnswersCall call profile.index (.denied engine.mode)
  /-- A call that is understated passes unless the policy denies what is left without writing. -/
  lenient : Understated call.flags → ¬ policy.Denies { kernelAccess call.flags with write := false } →
    engine.AnswersCall call profile.index .allowed

theorem Sends.eq_of_sends {task : Task} {other : ProcessState} {second : Profile}
    {routine also : Routine} (sends : engine.Sends task record profile routine)
    (again : engine.Sends task other second also) : second = profile ∧ also = routine := by
  obtain ⟨present, _, loaded, registered⟩ := sends
  obtain ⟨same, _, found, named⟩ := again
  cases present.symm.trans same
  cases loaded.symm.trans found
  cases registered.symm.trans named
  exact ⟨rfl, rfl⟩

/-- Of all that an open call may come to, the task and its policy leave the two verdicts. -/
theorem Sends.judged {task : Task} {requested : Access} {outcome : OpenOutcome}
    (sends : engine.Sends task record profile (.described (.access policy)))
    (decides : engine.Decides task requested outcome) :
    ∃ verdict, outcome = .dispatched profile.index verdict ∧
      policy.Judges engine.mode requested verdict := by
  cases decides with
  | untracked absent => cases sends.present.symm.trans absent
  | unconfined present free =>
    cases sends.present.symm.trans present
    exact absurd free sends.confined
  | missing present _ absent =>
    cases sends.present.symm.trans present
    cases sends.loaded.symm.trans absent
  | unregistered present _ loaded absent =>
    cases sends.present.symm.trans present
    cases sends.loaded.symm.trans loaded
    cases sends.registered.symm.trans absent
  | allowed again allows =>
    obtain ⟨rfl, same⟩ := sends.eq_of_sends again
    cases same
    exact ⟨_, rfl, .allowed allows⟩
  | denied again denies =>
    obtain ⟨rfl, same⟩ := sends.eq_of_sends again
    cases same
    exact ⟨_, rfl, .denied denies⟩
  | custom again =>
    obtain ⟨_, same⟩ := sends.eq_of_sends again
    cases same

/-- The step of a trace that is an open call comes to a verdict of the policy. -/
theorem judged_of_sends (reachable : engine.Reachable)
    (sends : engine.Sends call.task record profile (.described (.access policy))) :
    ∃ verdict, engine.AnswersCall call profile.index verdict ∧
      policy.Judges engine.mode call.openFlags.access verdict := by
  have tracked : engine.processes.contains call.task.tid = true := by
    rw [Table.contains, sends.present, Option.isSome_some]
  have ran := congrArg Prod.snd (reachable.run_open call.task call.openFlags)
  obtain ⟨verdict, outcome, judges⟩ :=
    sends.judged (reachable.decides_open call.task call.openFlags)
  rw [tracked, outcome] at ran
  exact ⟨verdict, ran, judges⟩

/-- Every flag word asks for just what the kernel checks, except that where both low bits are set and the file
is not to be emptied, writing is left out. So an open call of a task under an access policy is denied whenever
no set of the policy covers what the kernel checks, that case apart. -/
theorem judges_of_reachable (reachable : engine.Reachable)
    (sends : engine.Sends call.task record profile (.described (.access policy))) :
    (∀ openFlag mode, OpenFlags.Requests openFlag (OpenFlags.forOpen openFlag mode).access) ∧
      engine.JudgesCall call profile policy := by
  obtain ⟨verdict, answers, judges⟩ := judged_of_sends reachable sends
  have requests : OpenFlags.Requests call.flags call.openFlags.access :=
    OpenFlags.requests_forOpen call.flags call.mode
  refine ⟨OpenFlags.requests_forOpen, ?_⟩
  constructor
  case judged => exact ⟨verdict, answers, judges⟩
  case denied =>
    intro plain uncovered
    rw [requests.eq_of_not_understated plain] at judges
    exact judges.eq_denied uncovered.denies ▸ answers
  case lenient =>
    intro both spares
    rw [requests.eq_of_understated both] at judges
    exact judges.eq_allowed spares ▸ answers

def reader : Engine :=
  pair.after ((confinedRun (.described (.access ⟨.onlyRead, .none, .none⟩))).take 4)

/-- It opens a file with both low bits set, which the kernel checks for writing. -/
theorem judges_of_reachable_understated :
    AccessPolicy.Uncovered ⟨.onlyRead, .none, .none⟩ (kernelAccess 3) ∧
      reader.AnswersCall ⟨7, none, 3, 0⟩ 0 .allowed := by
  have sends : reader.Sends (OpenCall.mk 7 none 3 0).task ⟨7, 7, 7, ⟨5⟩, false⟩ ⟨⟨5⟩, 0⟩
      (.described (.access ⟨.onlyRead, .none, .none⟩)) :=
    ⟨by decide +kernel, by decide, by decide +kernel, rfl⟩
  have judges := (judges_of_reachable ((reachable_of_build build_pair).after _) sends).2
  refine ⟨⟨by decide, by decide, by decide⟩, judges.lenient ⟨rfl, rfl⟩ fun denies => ?_⟩
  exact absurd denies.outside (by decide)

end Engine

end Confinement
