import Confinement.Proofs.Engine.Permutation
import Confinement.Proofs.Replay.Correspondence

/-! Why the order of the profiles of a trace does not matter.

As long as no profile gives way to another, each may change places with the next one, and so the profiles
may be installed in any order. What comes after does not show which it was.
-/

set_option autoImplicit false

namespace Confinement

namespace Replay

open Progress

variable {files : Files} {profiles others : List TraceProfile} {origin : ProfileTable}
  {engine first second later : Engine}

/-! ## Installations -/

inductive Settles (files : Files) : List TraceProfile → Engine → Engine → Prop where
  | nil {engine : Engine} : Settles files [] engine engine
  | cons {profile : TraceProfile} {rest : List TraceProfile} {key : ProfileKey} {engine later : Engine}
      (resolved : profile.resolveKey files = .ok key) (admits : engine.Admits key profile.index)
      (takes : engine.profiles.Takes key)
      (settles : Settles files rest (engine.next (installing profile key)) later) :
      Settles files (profile :: rest) engine later

theorem ok_installAll_cons (receptive : engine.Receptive) {profile : TraceProfile}
    {rest : List TraceProfile} :
    (installAll files (profile :: rest) engine).value = .ok later ↔
      ∃ key, profile.resolveKey files = .ok key ∧ engine.Admits key profile.index ∧
        (installAll files rest (engine.next (installing profile key))).value = .ok later := by
  rw [installAll]
  cases resolved : profile.resolveKey files with
  | error error => simp
  | ok key =>
    have next : engine.next (installing profile key) =
      (engine.install key profile.index profile.routine.build).value.1 := rfl
    dsimp only
    rw [Logged.value_bind]
    constructor
    · intro installed
      refine ⟨key, rfl, ?_⟩
      cases answer : (engine.install key profile.index profile.routine.build).value.2 with
      | error error =>
        rw [answer] at installed
        cases installed
      | ok loaded =>
        rw [answer] at installed
        exact ⟨receptive.admits_of_install answer, installed⟩
    · rintro ⟨other, same, admits, installed⟩
      cases same
      rw [next, receptive.install_admitted admits] at installed
      rw [receptive.install_admitted admits]
      exact installed

theorem after_installAll (installed : (installAll files profiles engine).value = .ok later) :
    ∃ operations, later = engine.after operations := by
  induction profiles generalizing engine with
  | nil =>
    cases installed
    exact ⟨[], rfl⟩
  | cons profile rest ih =>
    obtain ⟨key, _, rest⟩ := installAll_cons installed
    obtain ⟨operations, same⟩ := ih rest
    exact ⟨installing profile key :: operations, same⟩

theorem settles_of_installAll (reachable : engine.Reachable)
    (installed : (installAll files profiles engine).value = .ok later)
    (kept : later.profiles.evicted = engine.profiles.evicted) :
    Settles files profiles engine later := by
  induction profiles generalizing engine with
  | nil =>
    cases installed
    exact .nil
  | cons profile rest ih =>
    obtain ⟨key, resolved, admits, rest⟩ := (ok_installAll_cons reachable.receptive).mp installed
    have next := reachable.next (installing profile key)
    have step := Engine.follows_profiles reachable.linked.sound.tasks (installing profile key)
    obtain ⟨operations, same⟩ := after_installAll rest
    have follows := Engine.follows_profiles_after next.linked.sound operations
    rw [← same] at follows
    have stays : (engine.next (installing profile key)).profiles.evicted = engine.profiles.evicted :=
      Nat.le_antisymm (kept ▸ follows.evicted) step.evicted
    have takes : engine.profiles.Takes key := by
      rw [installing, reachable.receptive.next_install admits] at stays
      exact Table.takes_of_kept reachable.linked.profiles reachable.roomy stays
    exact .cons resolved admits takes (ih next rest (kept.trans stays.symm))

theorem Settles.installAll (settles : Settles files profiles engine later)
    (reachable : engine.Reachable) :
    (Replay.installAll files profiles engine).value = .ok later := by
  induction settles with
  | nil => rfl
  | cons resolved admits _ _ ih =>
    exact (ok_installAll_cons reachable.receptive).mpr ⟨_, resolved, admits, ih (reachable.next _)⟩

/-! ## Other orders -/

section

variable (linked : origin.Each Shard.Linked)
include linked

/-- Profiles settle in the same order in engines that differ in the order of earlier ones. -/
theorem Settles.permuted (settles : Settles files profiles first later)
    (permuted : first.Permuted origin second) :
    ∃ another, Settles files profiles second another ∧ later.Permuted origin another := by
  induction settles generalizing second with
  | nil => exact ⟨second, .nil, permuted⟩
  | @cons profile _ _ _ _ resolved admits takes _ ih =>
    obtain ⟨also, room, next⟩ := permuted.install linked admits takes profile.routine.build
    obtain ⟨another, settles, permuted⟩ := ih next
    exact ⟨another, .cons resolved also room settles, permuted⟩

def Apart (files : Files) (one other : TraceProfile) : Prop :=
  one.resolveKey files ≠ other.resolveKey files ∧ one.index ≠ other.index

omit linked in
theorem Apart.symm {one other : TraceProfile} (apart : Apart files one other) : Apart files other one :=
  ⟨apart.1.symm, apart.2.symm⟩

theorem Settles.perm (perm : profiles.Perm others) (apart : profiles.Pairwise (Apart files))
    (settles : Settles files profiles engine later) (reachable : engine.Reachable)
    (follows : origin.Follows engine.profiles) :
    ∃ another, Settles files others engine another ∧ later.Permuted origin another := by
  induction perm generalizing engine later with
  | nil =>
    cases settles
    exact ⟨engine, .nil, .refl reachable follows⟩
  | cons profile _ ih =>
    cases settles with
    | @cons _ _ key _ _ resolved admits takes settles =>
      have step := Engine.follows_profiles reachable.linked.sound.tasks (installing profile key)
      obtain ⟨another, settles, permuted⟩ :=
        ih apart.of_cons settles (reachable.next _) (follows.trans step)
      exact ⟨another, .cons resolved admits takes settles, permuted⟩
  | swap second first rest =>
    obtain ⟨keys, places⟩ := (List.pairwise_cons.mp apart).1 second List.mem_cons_self
    cases settles with
    | @cons _ _ one _ _ resolved admits takes settles =>
      cases settles with
      | @cons _ _ other _ _ found also room settles =>
        have also : engine.Admits other second.index := ⟨also.confined, by simpa using also.inside⟩
        have keys : one ≠ other := fun same => keys (by rw [resolved, found, same])
        obtain ⟨early, free, exchanged⟩ :=
          Engine.exchange linked reachable follows keys places admits also takes room
        obtain ⟨another, settles, permuted⟩ := settles.permuted linked exchanged
        exact ⟨another, .cons found also early (.cons resolved (admits.next _) free settles), permuted⟩
  | trans perm _ ih again =>
    obtain ⟨middle, settles, permuted⟩ := ih apart settles reachable follows
    have apart := (perm.pairwise_iff Apart.symm).mp apart
    obtain ⟨another, settles, further⟩ := again apart settles reachable follows
    exact ⟨another, settles, permuted.trans further⟩

/-! ## Steps -/

omit linked in
theorem outside_operations (step : TraceStep) :
    ∀ operation ∈ step.operations, operation.isLoading = false := by
  intro operation member
  cases step with
  | setMode mode =>
    cases List.mem_singleton.mp member
    rfl
  | kernel event =>
    cases List.mem_singleton.mp member
    rfl
  | openCall call => rcases List.mem_pair.mp member with rfl | rfl <;> rfl

theorem sustains_permuted (steps : List TraceStep) : Sustains (Engine.Permuted origin) steps where
  reporter _ _ permuted := permuted.reporter
  step step _ _ _ permuted := permuted.run linked (outside_operations step)
  exits tids _ _ permuted := by
    refine permuted.run linked fun operation member => ?_
    obtain ⟨tid, _, rfl⟩ := List.mem_map.mp member
    rfl
  drain channel _ _ permuted := by
    refine permuted.run linked fun operation member => ?_
    cases List.mem_singleton.mp member
    rfl

end

/-! ## Evictions -/

theorem evicted_after (sound : engine.Sound) {operations : List Operation}
    (outside : ∀ operation ∈ operations, operation.isLoading = false) :
    (engine.after operations).profiles.evicted = engine.profiles.evicted := by
  induction operations generalizing engine with
  | nil => rfl
  | cons operation rest ih =>
    have quiet := Operation.changesProfiles_of_outside (outside operation List.mem_cons_self)
    have later := ih (sound.next operation) fun other member =>
      outside other (List.mem_cons_of_mem _ member)
    exact later.trans (Engine.retained_profiles sound.tasks quiet).evicted

theorem evicted_playedAll {progress : Progress} (sound : progress.engine.Sound) (number : Nat)
    (steps : List TraceStep) :
    (progress.playedAll number steps).engine.profiles.evicted = progress.engine.profiles.evicted := by
  induction steps generalizing number progress with
  | nil => rfl
  | cons step rest ih =>
    have played := engine_played progress number step
    have outside : ∀ operation ∈ step.operations ++
        (pendingExits (progress.acted step)).map .event ++
        [.drain .enforcement, .drain .wouldHaveEnforced], operation.isLoading = false := by
      refine List.forall_mem_append.mpr ⟨List.forall_mem_append.mpr ⟨outside_operations step, ?_⟩, ?_⟩
      · intro operation member
        obtain ⟨event, _, rfl⟩ := List.mem_map.mp member
        rfl
      · simp [Operation.isLoading]
    have kept := evicted_after sound outside
    rw [← played] at kept
    exact (ih (played ▸ sound.after _) (number + 1)).trans kept

theorem evicted_installAll_le (reachable : engine.Reachable)
    (installed : (installAll files profiles engine).value = .ok later) :
    later.profiles.evicted ≤ engine.profiles.evicted + profiles.length := by
  induction profiles generalizing engine with
  | nil =>
    cases installed
    exact Nat.le_refl _
  | cons profile rest ih =>
    obtain ⟨key, _, admits, installed⟩ := (ok_installAll_cons reachable.receptive).mp installed
    have next := congrArg Engine.profiles
      (reachable.receptive.next_install admits profile.routine.build)
    have later := ih (reachable.next (installing profile key)) installed
    have once := (Table.updated_update reachable.linked.sound.profiles key
      ⟨key, profile.index⟩).evicted_le
    rw [installing, next] at later
    rw [List.length_cons, Nat.add_comm rest.length, ← Nat.add_assoc]
    exact Nat.le_trans later (Nat.add_le_add_right once _)

theorem length_le_of_places (places : (profiles.map TraceProfile.index).Nodup) :
    profiles.length ≤ UInt32.size := by
  have distinct : ((profiles.map TraceProfile.index).map UInt32.toNat).Nodup :=
    places.map fun _ _ => UInt32.toNat_inj.mp
  have within : (profiles.map TraceProfile.index).map UInt32.toNat ⊆ List.range UInt32.size := by
    intro place member
    obtain ⟨index, _, rfl⟩ := List.mem_map.mp member
    exact List.mem_range.mpr index.toNat_lt
  simpa using (distinct.subperm within).length_le

/-- A replay that counts no eviction of a profile has had none, for there are too few profiles for the count to
start over. -/
theorem evicted_of_report {trace : Trace} (reachable : engine.Reachable) (fresh : engine.profiles.evicted = 0)
    (installed : (installAll files trace.profiles engine).value = .ok later)
    (places : (trace.profiles.map TraceProfile.index).Nodup)
    (kept : (((start later).playedAll 0 trace.steps).report trace).summary.stats.profileEvictions = 0) :
    later.profiles.evicted = 0 := by
  have few := evicted_installAll_le reachable installed
  have most := length_le_of_places places
  have smaller : UInt32.size < UInt64.size := by decide
  have bounded : later.profiles.evicted < UInt64.size := by omega
  obtain ⟨operations, rfl⟩ := after_installAll installed
  have sound := (reachable.after operations).linked.sound
  have same := @evicted_playedAll (start (engine.after operations)) sound 0 trace.steps
  have counted : UInt64.ofNat
      ((start (engine.after operations)).playedAll 0 trace.steps).engine.profiles.evicted = 0 := kept
  rw [same] at counted
  exact (UInt64.toNat_ofNat_of_lt' bounded).symm.trans (congrArg UInt64.toNat counted)

/-! ## Whole replays -/

/-- A replay in which no profile gives way to another comes to the same for every order of its profiles, if
they have keys and places of their own. -/
theorem run_of_permutation {trace : Trace} {config : Config} {assignments : Assignments} {files : Files}
    {others : List TraceProfile} (permuted : trace.profiles.Perm others)
    (keys : (trace.profiles.map fun profile => profile.resolveKey files).Nodup)
    (places : (trace.profiles.map TraceProfile.index).Nodup) {report : Report}
    (succeeded : (run trace config assignments files).value = .ok report)
    (kept : report.summary.stats.profileEvictions = 0) :
    (run { trace with profiles := others } config assignments files).value = .ok report := by
  obtain ⟨engine, prepared, rfl⟩ := exists_prepared succeeded
  obtain ⟨first, built, installed⟩ := exists_built prepared
  have reachable := Engine.reachable_of_build built
  have linked := reachable.linked.profiles
  have fresh : first.profiles.evicted = 0 := by
    rw [Engine.eq_initial_of_build built]
    rfl
  have none := evicted_of_report reachable fresh installed places kept
  have settles := settles_of_installAll reachable installed (none.trans fresh.symm)
  have apart : trace.profiles.Pairwise (Apart files) :=
    (List.pairwise_map.mp keys).and (List.pairwise_map.mp places)
  obtain ⟨another, settles, alike⟩ := settles.perm linked permuted apart reachable (.refl _)
  have prepared : prepare { trace with profiles := others } config assignments files = .ok another := by
    rw [prepare, built]
    exact settles.installAll reachable
  have beside := (Beside.start alike).playedAll (sustains_permuted linked trace.steps) 0
  rw [value_run, prepared]
  exact congrArg Except.ok (beside.report beside.engine.reporter beside.engine.stats trace)

def wards : Trace where
  profiles :=
    [⟨none, some 0, some 5, none, 2, .denyAll⟩, ⟨none, some 0, some 7, none, 0, .allowAll⟩,
      ⟨none, some 0, some 9, none, 1, .denyAll⟩]
  steps :=
    [.kernel (.processCreate 0 4 4), .kernel (.programLoad 4 ⟨0, 5⟩), .openCall ⟨4, none, 1, 0⟩,
      .kernel (.processCreate 0 6 6), .kernel (.programLoad 6 ⟨0, 9⟩), .openCall ⟨6, none, 1, 0⟩]

/-- Parts the third profile from the other two, which share a shard of two. -/
def spaced : Assignments :=
  { Assignments.direct with profile := fun key => key.raw / 4 }

/-- All three find room, and both tasks are killed in either order. -/
theorem run_of_permutation_reversed :
    let config : Config := ⟨4, 4, 2, .enforcing, .perThread, 1⟩
    let files := Files.ofListing [] []
    let reversed := wards.profiles.reverse
    wards.profiles.Perm reversed ∧
      (wards.profiles.map fun profile => profile.resolveKey files).Nodup ∧
      (wards.profiles.map TraceProfile.index).Nodup ∧
      ∃ report, (run wards config spaced files).value = .ok report ∧
        report.killed = [⟨4, 4⟩, ⟨6, 6⟩] ∧ report.summary.stats.profileEvictions = 0 ∧
        (run { wards with profiles := reversed } config spaced files).value = .ok report := by
  intro config files reversed
  have permuted : wards.profiles.Perm reversed := (List.reverse_perm _).symm
  have keys : (wards.profiles.map fun profile => profile.resolveKey files).Nodup := by decide +kernel
  have places : (wards.profiles.map TraceProfile.index).Nodup := by decide +kernel
  have outcome : (run wards config spaced files).value.map (fun report =>
      (report.killed, report.summary.stats.profileEvictions)) = .ok ([⟨4, 4⟩, ⟨6, 6⟩], 0) := by
    decide +kernel
  cases result : (run wards config spaced files).value with
  | error error =>
    rw [result] at outcome
    cases outcome
  | ok report =>
    rw [result] at outcome
    obtain ⟨killed, kept⟩ := Prod.mk.inj (Except.ok.inj outcome)
    exact ⟨permuted, keys, places, report, rfl, killed, kept,
      run_of_permutation permuted keys places result kept⟩

-- Where all three share a shard of two, the one that is installed first gives way.
example :
    let config : Config := ⟨4, 4, 2, .enforcing, .perThread, 1⟩
    let reversed : Trace := { wards with profiles := wards.profiles.reverse }
    (run wards config .direct (.ofListing [] [])).value.map Report.killed = .ok [⟨6, 6⟩] ∧
      (run reversed config .direct (.ofListing [] [])).value.map Report.killed = .ok [⟨4, 4⟩] := by
  decide +kernel

end Replay

end Confinement
