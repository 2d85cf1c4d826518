import Confinement.Proofs.Engine.Twins
import Confinement.Proofs.Replay.Correspondence
import Mathlib.Data.List.Dedup

/-! Why it does not matter how a replay spreads its keys over shards.

A trace brings all the tasks that are ever created, and all the keys under which profiles are loaded. If a
single shard has room for them, then nothing gives way in any table, and replays that spread their keys
differently, or over another number of shards, go side by side step for step.
-/

set_option autoImplicit false

namespace Confinement

namespace Replay

def created (steps : List TraceStep) : List UInt32 :=
  steps.filterMap fun
    | .kernel (.processCreate _ child _) => some child
    | _ => none

def resolvedKeys (files : Files) : List TraceProfile → List ProfileKey
  | [] => []
  | profile :: rest =>
    match profile.resolveKey files with
    | .error _ => []
    | .ok key => key :: resolvedKeys files rest

open Progress

variable {tasks : List UInt32} {keys : List ProfileKey}

/-! ## Steps -/

theorem created_subset {steps : List TraceStep} {step : TraceStep} (member : step ∈ steps) :
    created [step] ⊆ created steps :=
  ((List.singleton_sublist.mpr member).filterMap _).subset

theorem within_operations {step : TraceStep} (creates : created [step] ⊆ tasks) :
    ∀ operation ∈ step.operations, operation.Within tasks keys := by
  intro operation member
  cases step with
  | setMode mode =>
    cases List.mem_singleton.mp member
    trivial
  | openCall call =>
    rcases List.mem_pair.mp member with rfl | rfl
    · exact trivial
    · exact trivial
  | kernel event =>
    cases List.mem_singleton.mp member
    cases event with
    | processCreate parent child group => exact creates List.mem_cons_self
    | _ => exact trivial

theorem keeps_twin {operations : List Operation}
    (plain : ∀ operation ∈ operations, operation.isDescribed = true)
    (within : ∀ operation ∈ operations, operation.Within tasks keys) :
    Keeps (Engine.Twin tasks keys) operations := by
  intro first second twin
  exact twin.run (fun operation member => operation.registers_of_isDescribed (plain operation member))
    within

theorem sustains_twin {steps : List TraceStep} (creates : created steps ⊆ tasks) :
    Sustains (Engine.Twin tasks keys) steps where
  reporter _ _ twin := twin.alike.reporter
  step step member := keeps_twin (isDescribed_operations step)
    (within_operations (List.Subset.trans (created_subset member) creates))
  exits tids := by
    refine keeps_twin (fun operation member => ?_) fun operation member => ?_
    · obtain ⟨tid, _, rfl⟩ := List.mem_map.mp member
      rfl
    · obtain ⟨tid, _, rfl⟩ := List.mem_map.mp member
      trivial
  drain channel := by
    refine keeps_twin (fun operation member => ?_) fun operation member => ?_
    · cases List.mem_singleton.mp member
      rfl
    · cases List.mem_singleton.mp member
      trivial

/-! ## Whole replays -/

theorem mem_resolvedKeys {files : Files} {profiles : List TraceProfile} {profile : TraceProfile}
    (member : profile ∈ profiles.takeWhile (resolves files)) {key : ProfileKey}
    (resolved : profile.resolveKey files = .ok key) : key ∈ resolvedKeys files profiles := by
  induction profiles with
  | nil => cases member
  | cons first rest ih =>
    unfold resolvedKeys
    cases found : first.resolveKey files with
    | error error => simp [resolves, found, Except.toBool] at member
    | ok other =>
      have finds : resolves files first = true := by
        rw [resolves, found]
        rfl
      rw [List.takeWhile_cons_of_pos finds] at member
      rcases List.mem_cons.mp member with rfl | later
      · rw [resolved, Except.ok.injEq] at found
        exact found ▸ List.mem_cons_self
      · exact List.mem_cons_of_mem _ (ih later)

theorem matched_twin {files : Files} {profiles : List TraceProfile} {first second : Engine}
    (twin : first.Twin tasks keys second) (members : resolvedKeys files profiles ⊆ keys) :
    Matched (Engine.Twin tasks keys) (installAll files profiles first).value
      (installAll files profiles second).value := by
  refine matched_installAll twin fun profile member key resolved => ?_
  refine keeps_twin (fun operation only => ?_) fun operation only => ?_
  · cases List.mem_singleton.mp only
    rfl
  · cases List.mem_singleton.mp only
    exact members (mem_resolvedKeys member resolved)

/-- Two replays of a trace that are spread differently, where each shard of either has room for all
that the trace brings. -/
theorem matched_prepare {trace : Trace} {config : Config} {files : Files} {shards : Nat}
    (valid : config.validate = .ok ()) (some : shards ≠ 0)
    (ample : Engine.Ample tasks keys config)
    (again : Engine.Ample tasks keys { config with tableShards := shards })
    (members : resolvedKeys files trace.profiles ⊆ keys) (first second : Assignments) :
    Matched (Engine.Twin tasks keys) (prepare trace config first files)
      (prepare trace { config with tableShards := shards } second files) := by
  have others : Config.validate { config with tableShards := shards } = .ok () := by
    rw [Config.validate_iff] at valid ⊢
    exact ⟨some, valid.2⟩
  rw [prepare, prepare, Engine.build_of_valid valid, Engine.build_of_valid others]
  exact matched_twin (Engine.twin_initial .recording first second ample again) members

theorem run_twin {trace : Trace} {config : Config} {files : Files} {shards : Nat}
    (valid : config.validate = .ok ()) (some : shards ≠ 0)
    (ample : Engine.Ample tasks keys config)
    (again : Engine.Ample tasks keys { config with tableShards := shards })
    (creates : created trace.steps ⊆ tasks) (members : resolvedKeys files trace.profiles ⊆ keys)
    (first second : Assignments) :
    (run trace { config with tableShards := shards } second files).value =
        (run trace config first files).value ∧
      ∀ report, (run trace config first files).value = .ok report →
        report.summary.stats.processEvictions = 0 ∧ report.summary.stats.profileEvictions = 0 := by
  have matched := matched_prepare valid some ample again members first second
  rw [value_run, value_run]
  generalize prepare trace config first files = prepared at matched
  generalize prepare trace { config with tableShards := shards } second files = others at matched
  cases matched with
  | failed => exact ⟨rfl, nofun⟩
  | @ready engine other twin =>
    have played := (Beside.start twin).playedAll (sustains_twin creates) 0
    have same := played.report played.engine.alike.reporter played.engine.stats.1 trace
    refine ⟨congrArg Except.ok same, fun report succeeded => ?_⟩
    cases succeeded
    exact played.engine.stats.2

/-- A replay gives the same for every spread of the keys, and the same as over a single shard for each
table, if a shard has room for all the tasks that are created, and for all the profiles. Then no record
ever gives way. -/
theorem run_of_any_sharding {trace : Trace} {config : Config} {files : Files}
    (valid : config.validate = .ok ())
    (tasks : (created trace.steps).dedup.length ≤
      config.maxProcesses / Table.shardCount config.maxProcesses config.tableShards)
    (keys : (resolvedKeys files trace.profiles).dedup.length ≤
      config.maxProfiles / Table.shardCount config.maxProfiles config.tableShards)
    (first second single : Assignments) :
    (run trace config second files).value = (run trace config first files).value ∧
      (run trace { config with tableShards := 1 } single files).value =
        (run trace config first files).value ∧
      ∀ report, (run trace config first files).value = .ok report →
        report.summary.stats.processEvictions = 0 ∧
          report.summary.stats.profileEvictions = 0 := by
  have ample : Engine.Ample _ _ config := ⟨tasks, keys⟩
  have creates := List.subset_dedup (created trace.steps)
  have members := List.subset_dedup (resolvedKeys files trace.profiles)
  have some := ((Config.validate_iff config).mp valid).1
  obtain ⟨same, kept⟩ := run_twin valid some ample ample creates members first second
  obtain ⟨alone, _⟩ := run_twin valid Nat.one_ne_zero ample ample.single creates members first single
  exact ⟨same, alone, kept⟩

def neighbours : Trace where
  profiles :=
    [⟨none, some 0, some 5, none, 0, .denyAll⟩, ⟨none, some 0, some 7, none, 1, .denyAll⟩]
  steps :=
    [.kernel (.processCreate 0 7 7), .kernel (.processCreate 7 9 9), .kernel (.programLoad 7 ⟨0, 5⟩),
      .kernel (.programLoad 9 ⟨0, 7⟩), .openCall ⟨7, none, 1, 0⟩, .openCall ⟨9, none, 1, 0⟩]

/-- Parts the two tasks, which share a shard of two where every key stands for itself. -/
def parting : Assignments :=
  ⟨fun tid => tid.toUInt64 / 2, fun key => key.raw / 2, UInt32.toUInt64⟩

/-- Two shards with room for two tasks each are enough for that trace. -/
theorem run_neighbours :
    let config : Config := ⟨4, 4, 2, .enforcing, .perThread, 1⟩
    let files := Files.ofListing [] []
    config.validate = .ok () ∧
      (created neighbours.steps).dedup.length ≤ 4 / Table.shardCount 4 2 ∧
      (resolvedKeys files neighbours.profiles).dedup.length ≤ 4 / Table.shardCount 4 2 ∧
      (run neighbours config .direct files).value.map Report.killed = .ok [⟨7, 7⟩, ⟨9, 9⟩] ∧
      (run neighbours config parting files).value = (run neighbours config .direct files).value ∧
      (run neighbours { config with tableShards := 1 } .direct files).value =
        (run neighbours config .direct files).value := by
  intro config files
  have tasks : (created neighbours.steps).dedup.length ≤ 4 / Table.shardCount 4 2 := by
    decide +kernel
  have keys : (resolvedKeys files neighbours.profiles).dedup.length ≤ 4 / Table.shardCount 4 2 := by
    decide +kernel
  obtain ⟨same, alone, _⟩ := @run_of_any_sharding neighbours config files rfl tasks keys .direct
    parting .direct
  exact ⟨rfl, tasks, keys, by decide +kernel, same, alone⟩

-- With room for one each, one of the tasks is forgotten unless the assignment parts them.
example :
    (run neighbours ⟨2, 2, 2, .enforcing, .perThread, 1⟩ .direct (.ofListing [] [])).value.map
        Report.killed = .ok [⟨9, 9⟩] ∧
      (run neighbours ⟨2, 2, 2, .enforcing, .perThread, 1⟩ parting (.ofListing [] [])).value.map
        Report.killed = .ok [⟨7, 7⟩, ⟨9, 9⟩] := by
  decide +kernel

end Replay

end Confinement
