import DjangoOps.ControlPlane.Rollout

namespace DjangoOps
namespace ControlPlane
namespace Rollout

open Protocol Gateway Agent RevisionHistory

/-!
# The revision to roll back to

A request names the Helm revision recorded for the newest release that is
recorded as succeeded when its row is created.  This module shows what that
revision is in every run, and when it is the one that the cluster serves.
-/

/-- What a run has done and what its result says about it. -/
structure Run.Sound (state : State) (operationId : String) (run : Run) : Prop where
  asked : run.request ∈ state.sent ∧ run.request.jobId = operationId
  made : forall number, run.made = some number ->
    1 ≤ number ∧ number ≤ state.history.length ∧
      (run.applied = true ->
        Exists fun revision : Revision (String × String) =>
          at? state.history number = some revision ∧ revision.effective = true)
  read : forall number, run.read = some number ->
    number ≤ state.history.length ∧
      Exists fun own : Nat => run.made = some own ∧ own ≤ number
  concluded : forall result, run.result = some result ->
    (result.previousRevision = 0 ∨
      result.previousRevision = run.request.previousRevision) ∧
      (result.status = "succeeded" ->
        run.applied = true ∧ run.read = some result.helmRevision)

/-- A run of the operation has read a revision back after its own upgrade took
effect, and its outcome was recorded. -/
def Deployed (state : State) (operationId : String) (number : Nat) : Prop :=
  Exists fun run : Run => run ∈ state.runs operationId ∧ run.applied = true ∧
    run.read = some number ∧ run.result.isSome = true

/-- What holds of the rows, the requests and the cluster in every run. -/
structure Sound (state : State) : Prop where
  dispatched : forall call release request,
    state.service.calls call = .dispatching release request ->
      request ∈ state.sent ∧ request.jobId = release.operationId ∧
        release.previousHelmRevision.getD 0 = request.previousRevision
  requested : forall request, request ∈ state.sent ->
    request.mode = "release" ∧
      Exists fun release : KubernetesRelease => release ∈ state.service.releases ∧
        release.operationId = request.jobId ∧
        release.previousHelmRevision.getD 0 = request.previousRevision
  previous : forall release, release ∈ state.service.releases ->
    release.previousHelmRevision.getD 0 ≠ 0 ->
      Exists fun earlier : KubernetesRelease => earlier ∈ state.service.releases ∧
        earlier.status = .succeeded ∧
        earlier.helmRevision = some (release.previousHelmRevision.getD 0)
  runs : forall operationId run, run ∈ state.runs operationId -> run.Sound state operationId
  succeeded : forall release, release ∈ state.service.releases -> release.status = .succeeded ->
    Exists fun number : Nat => release.helmRevision = some number ∧
      Deployed state release.operationId number

theorem Sound.initial : Sound .initial where
  dispatched := by
    intro call release request impossible
    cases impossible
  requested := by
    intro request impossible
    cases impossible
  previous := by
    intro release impossible
    cases impossible
  runs := by
    intro operationId run impossible
    cases impossible
  succeeded := by
    intro release impossible
    cases impossible

/-! ## Runs and the cluster -/

section Cluster

variable {before after : State} {request : KubernetesReleaseRequest} {run : Run}

theorem State.running?_eq_some (running : before.running? request = some run) :
    run ∈ before.runs request.jobId ∧ run.request = request ∧ run.result = none := by
  rcases Option.filter_eq_some_iff.mp running with ⟨head, tested⟩
  rw [Bool.and_eq_true, decide_eq_true_eq, Option.isNone_iff_eq_none] at tested
  exact ⟨List.mem_of_mem_head? head, tested⟩

/-- The runs of an operation after a write to its newest run. -/
theorem State.mem_runs_setRun {operationId other : String} {listed : Run}
    (member : listed ∈ (before.setRun operationId run).runs other) :
    (other = operationId ∧ listed = run) ∨ listed ∈ before.runs other := by
  change listed ∈ Function.update before.runs operationId _ other at member
  by_cases own : other = operationId
  · subst own
    rw [Function.update_self] at member
    rcases List.mem_cons.mp member with new | old
    · exact .inl ⟨rfl, new⟩
    · exact .inr (List.mem_of_mem_tail old)
  · rw [Function.update_of_ne own] at member
    exact .inr member

/-- What is known of a run stays true when requests are sent and revisions made. -/
theorem Run.Sound.mono {operationId : String} (sound : run.Sound before operationId)
    (sent : forall request, request ∈ before.sent -> request ∈ after.sent)
    {later : List (Revision (String × String))}
    (history : after.history = before.history ++ later) : run.Sound after operationId where
  asked := ⟨sent _ sound.asked.1, sound.asked.2⟩
  made := by
    intro number made
    rcases sound.made number made with ⟨positive, inside, effective⟩
    rw [history]
    refine ⟨positive, ?_, fun applied => ?_⟩
    · rw [List.length_append]
      omega
    · rcases effective applied with ⟨found, stored, tookEffect⟩
      exact ⟨found, (at?_append inside).trans stored, tookEffect⟩
  read := by
    intro number read
    rcases sound.read number read with ⟨inside, own, made, order⟩
    refine ⟨?_, own, made, order⟩
    rw [history, List.length_append]
    omega
  concluded := sound.concluded

/-- A further revision leaves everything known in place. -/
theorem Sound.addRevision (sound : Sound before) (revision : Revision (String × String)) :
    Sound (before.addRevision revision) where
  dispatched := sound.dispatched
  requested := sound.requested
  previous := sound.previous
  runs := fun operationId run listed =>
    (sound.runs operationId run listed).mono (fun _ asked => asked) rfl
  succeeded := sound.succeeded

/-- Pruning takes nothing from what was made. -/
theorem Sound.prune (sound : Sound before) (number : Nat) :
    Sound { before with pruned := number :: before.pruned } where
  dispatched := sound.dispatched
  requested := sound.requested
  previous := sound.previous
  runs := fun operationId run listed =>
    (sound.runs operationId run listed).mono (fun _ asked => asked) (List.append_nil _).symm
  succeeded := sound.succeeded

/-- The runs change without losing one whose outcome was recorded. -/
theorem Sound.changeRuns (sound : Sound before) {runs : String -> List Run}
    (each : forall operationId run, run ∈ runs operationId -> run.Sound before operationId)
    (kept : forall operationId run, run ∈ before.runs operationId -> run.result.isSome = true ->
      run ∈ runs operationId) : Sound { before with runs := runs } where
  dispatched := sound.dispatched
  requested := sound.requested
  previous := sound.previous
  runs := fun operationId run listed =>
    (each operationId run listed).mono (fun _ asked => asked) (List.append_nil _).symm
  succeeded := by
    intro release listed status
    rcases sound.succeeded release listed status with ⟨number, revision, run, member, deployed⟩
    exact ⟨number, revision, run, kept _ run member deployed.2.2, deployed⟩

theorem Sound.begin (sound : Sound before) (asked : request ∈ before.sent) :
    Sound { before with
      runs := Function.update before.runs request.jobId
        (.fresh request :: before.runs request.jobId) } := by
  refine sound.changeRuns ?_ ?_
  · intro operationId run listed
    by_cases own : operationId = request.jobId
    · subst own
      rw [Function.update_self] at listed
      rcases List.mem_cons.mp listed with new | old
      · subst new
        exact ⟨⟨asked, rfl⟩, nofun, nofun, nofun⟩
      · exact sound.runs _ run old
    · rw [Function.update_of_ne own] at listed
      exact sound.runs _ run listed
  · intro operationId run listed _
    by_cases own : operationId = request.jobId
    · subst own
      rw [Function.update_self]
      exact .tail _ listed
    · rw [Function.update_of_ne own]
      exact listed

/-- A write to a run without a result touches no recorded outcome. -/
theorem Sound.setRun (sound : Sound before) {current : Run}
    (running : before.running? request = some current)
    (written : run.Sound before request.jobId) : Sound (before.setRun request.jobId run) := by
  refine sound.changeRuns ?_ ?_
  · intro operationId other listed
    rcases State.mem_runs_setRun listed with ⟨rfl, rfl⟩ | old
    · exact written
    · exact sound.runs operationId other old
  · intro operationId other listed recorded
    by_cases own : operationId = request.jobId
    · subst own
      rw [Function.update_self]
      rcases Option.filter_eq_some_iff.mp running with ⟨head, tested⟩
      rw [Bool.and_eq_true, Option.isNone_iff_eq_none] at tested
      rcases List.head?_eq_some_iff.mp head with ⟨rest, same⟩
      rw [same] at listed ⊢
      rcases List.mem_cons.mp listed with first | old
      · rw [first, tested.2] at recorded
        cases recorded
      · exact .tail _ old
    · rw [Function.update_of_ne own]
      exact listed

end Cluster

/-! ## Steps of the service -/

section Rows

variable {config : ServiceConfig} {before : State}

/-- A row of before that a row of after goes back to. -/
def Descends (before after : KubernetesRelease) : Prop :=
  after.operationId = before.operationId ∧
    after.previousHelmRevision.getD 0 = before.previousHelmRevision.getD 0

/-- The rows after a step: each goes back to an earlier one or is new, no row is
lost, and a row that is recorded as succeeded was so before or was deployed by a
run of its operation. -/
structure Rewrites (before : State) (rows : List KubernetesRelease) : Prop where
  origin : forall release, release ∈ rows ->
    (Exists fun earlier : KubernetesRelease => earlier ∈ before.service.releases ∧
      Descends earlier release) ∨
      (release.previousHelmRevision.getD 0 ≠ 0 ->
        Exists fun earlier : KubernetesRelease => earlier ∈ before.service.releases ∧
          earlier.status = .succeeded ∧
          earlier.helmRevision = some (release.previousHelmRevision.getD 0))
  kept : forall release, release ∈ before.service.releases ->
    Exists fun later : KubernetesRelease => later ∈ rows ∧ Descends release later
  settled : forall release, release ∈ before.service.releases -> release.status = .succeeded ->
    release ∈ rows
  succeeded : forall release, release ∈ rows -> release.status = .succeeded ->
    release ∈ before.service.releases ∨
      Exists fun number : Nat => release.helmRevision = some number ∧
        Deployed before release.operationId number

/-- A step of the service keeps the state sound, when it rewrites the rows as
above and sends only requests of its rows. -/
theorem Sound.rewrite (sound : Sound before) {service : Service.State}
    {sent : List KubernetesReleaseRequest} (rows : Rewrites before service.releases)
    (calls : forall call release request, service.calls call = .dispatching release request ->
      before.service.calls call = .dispatching release request ∨
        (request ∈ sent ∧ request.jobId = release.operationId ∧
          release.previousHelmRevision.getD 0 = request.previousRevision))
    (extended : forall request, request ∈ before.sent -> request ∈ sent)
    (added : forall request, request ∈ sent -> request ∈ before.sent ∨
      (request.mode = "release" ∧
        Exists fun release : KubernetesRelease => release ∈ service.releases ∧
          release.operationId = request.jobId ∧
          release.previousHelmRevision.getD 0 = request.previousRevision)) :
    Sound { before with service := service, sent := sent } where
  dispatched := by
    intro call release request dispatching
    rcases calls call release request dispatching with earlier | new
    · rcases sound.dispatched call release request earlier with ⟨asked, named, previous⟩
      exact ⟨extended request asked, named, previous⟩
    · exact new
  requested := by
    intro request asked
    rcases added request asked with earlier | new
    · rcases sound.requested request earlier with ⟨mode, release, listed, named, previous⟩
      rcases rows.kept release listed with ⟨later, laterListed, sameId, samePrevious⟩
      exact ⟨mode, later, laterListed, sameId.trans named, samePrevious.trans previous⟩
    · exact new
  previous := by
    intro release listed nonzero
    have found : Exists fun earlier : KubernetesRelease =>
        earlier ∈ before.service.releases ∧ earlier.status = .succeeded ∧
          earlier.helmRevision = some (release.previousHelmRevision.getD 0) := by
      rcases rows.origin release listed with ⟨origin, originListed, _, samePrevious⟩ | new
      · rw [samePrevious] at nonzero ⊢
        exact sound.previous origin originListed nonzero
      · exact new nonzero
    rcases found with ⟨earlier, earlierListed, status, revision⟩
    exact ⟨earlier, rows.settled earlier earlierListed status, status, revision⟩
  runs := fun operationId run listed =>
    (sound.runs operationId run listed).mono extended (List.append_nil _).symm
  succeeded := by
    intro release listed status
    rcases rows.succeeded release listed status with earlier | new
    · exact sound.succeeded release earlier status
    · exact new

theorem Rewrites.refl : Rewrites before before.service.releases where
  origin := fun release listed => .inl ⟨release, listed, rfl, rfl⟩
  kept := fun release listed => ⟨release, listed, rfl, rfl⟩
  settled := fun _ listed _ => listed
  succeeded := fun _ listed _ => .inl listed

/-- A conditional update of one operation. -/
theorem Rewrites.updateActive {operationId : String}
    {change : KubernetesRelease -> KubernetesRelease}
    (descends : forall release, release ∈ before.service.releases ->
      release.operationId = operationId -> Descends release (change release))
    (backed : forall release, release ∈ before.service.releases ->
      release.operationId = operationId -> (change release).status = .succeeded ->
        Exists fun number : Nat => (change release).helmRevision = some number ∧
          Deployed before operationId number) :
    Rewrites before (before.service.updateActive operationId change).releases where
  origin := by
    intro release listed
    rcases (Service.State.mem_updateActive _).mp listed with
      ⟨earlier, earlierListed, ⟨own, _, same⟩ | ⟨_, same⟩⟩
    · exact .inl ⟨earlier, earlierListed, same ▸ descends earlier earlierListed own⟩
    · exact .inl ⟨earlier, earlierListed, same ▸ ⟨rfl, rfl⟩⟩
  kept := by
    intro release listed
    by_cases own : release.operationId = operationId ∧ release.status.active = true
    · exact ⟨change release,
        (Service.State.mem_updateActive _).mpr ⟨release, listed, .inl ⟨own.1, own.2, rfl⟩⟩,
        descends release listed own.1⟩
    · exact ⟨release, (Service.State.mem_updateActive _).mpr ⟨release, listed, .inr ⟨own, rfl⟩⟩,
        rfl, rfl⟩
  settled := by
    intro release listed status
    refine (Service.State.mem_updateActive _).mpr ⟨release, listed, .inr ⟨?_, rfl⟩⟩
    rintro ⟨_, active⟩
    rw [status] at active
    cases active
  succeeded := by
    intro release listed status
    rcases (Service.State.mem_updateActive _).mp listed with
      ⟨earlier, earlierListed, ⟨own, _, same⟩ | ⟨_, same⟩⟩
    · subst same
      refine .inr ?_
      rw [(descends earlier earlierListed own).1, own]
      exact backed earlier earlierListed own status
    · exact .inl (same ▸ earlierListed)

/-- A retry opens a failed row again. -/
theorem Rewrites.reopen (coherent : Service.Coherent before.service) {intent : Intent}
    {release : KubernetesRelease}
    (found : before.service.existing config intent = some release)
    (settled : release.status.active = false) :
    Rewrites before (before.service.reopen release.operationId).releases := by
  rcases Service.existing_eq_some found with ⟨listed, _, opened⟩
  have unsuccessful : release.status ≠ .succeeded := by
    intro status
    unfold KubernetesRelease.isOpen at opened
    rw [settled, status] at opened
    cases opened
  have other : forall row, row ∈ before.service.releases -> row.status = .succeeded ->
      row.operationId ≠ release.operationId := by
    intro row rowListed status same
    rw [coherent.eq_of_operationId rowListed listed same] at status
    exact unsuccessful status
  refine ⟨?_, ?_, ?_, ?_⟩
  · intro row rowListed
    rcases List.mem_map.mp rowListed with ⟨earlier, earlierListed, same⟩
    refine .inl ⟨earlier, earlierListed, ?_⟩
    split at same <;> exact same ▸ ⟨rfl, rfl⟩
  · intro row rowListed
    refine ⟨_, List.mem_map_of_mem rowListed, ?_⟩
    split <;> exact ⟨rfl, rfl⟩
  · intro row rowListed status
    refine List.mem_map.mpr ⟨row, rowListed, ?_⟩
    rw [if_neg (other row rowListed status)]
  · intro row rowListed status
    rcases List.mem_map.mp rowListed with ⟨earlier, earlierListed, same⟩
    split at same
    · subst same
      cases status
    · exact .inl (same ▸ earlierListed)

/-- A new row names the revision of the newest release that has succeeded. -/
theorem Rewrites.create (sound : Sound before) (intent : Intent) (fresh : String) :
    Rewrites before
      (.create config intent fresh before.service.previous :: before.service.releases) where
  origin := by
    intro row rowListed
    rcases List.mem_cons.mp rowListed with new | old
    · refine .inr fun nonzero => ?_
      subst new
      cases found : before.service.previous with
      | none =>
          rw [found] at nonzero
          exact absurd rfl nonzero
      | some earlier =>
          unfold Service.State.previous at found
          have listed := List.mem_of_find?_eq_some found
          have tested := List.find?_some found
          have status := of_decide_eq_true tested
          rcases sound.succeeded earlier listed status with ⟨number, revision, _⟩
          refine ⟨earlier, listed, status, ?_⟩
          change _ = some (earlier.helmRevision.getD 0)
          rw [revision]
          rfl
    · exact .inl ⟨row, old, rfl, rfl⟩
  kept := fun row listed => ⟨row, .tail _ listed, rfl, rfl⟩
  settled := fun _ listed _ => .tail _ listed
  succeeded := by
    intro row rowListed status
    rcases List.mem_cons.mp rowListed with new | old
    · subst new
      cases status
    · exact .inl old

end Rows

/-! ## Results of the agent -/

section Results

variable {config : ServiceConfig} {before : State}

theorem succeeded_of_ofResult {status : String}
    (succeeded : ReleaseStatus.ofResult status = .succeeded) : status = "succeeded" := by
  unfold ReleaseStatus.ofResult at succeeded
  split at succeeded
  · assumption
  · repeat' split at succeeded
    all_goals cases succeeded

/-- What a recorded result says about the runs of its operation. -/
theorem Sound.result (sound : Sound before) {operationId : String} {course : Course}
    {result : ReleaseResult}
    (genuine : before.genuine config operationId course = true)
    (outcome : runBackend config.target.agentId operationId course = .ok result) :
    (result.previousRevision = none ∨
      Exists fun request : KubernetesReleaseRequest => request ∈ before.sent ∧
        request.jobId = operationId ∧
        result.previousRevision = some request.previousRevision) ∧
      (result.status = "succeeded" ->
        Exists fun number : Nat => Deployed before operationId number ∧
          result.helmRevision = nonzero number) := by
  rcases result_of_runBackend outcome with ⟨⟨delivery, frame⟩, last, rfl⟩
  unfold State.genuine at genuine
  rw [last] at genuine
  rcases Bool.or_eq_true_iff.mp genuine with synthesised | authored
  · rcases Course.result_gateway last (of_decide_eq_true synthesised) with ⟨status, previous, _⟩
    refine ⟨.inl ?_, fun succeeded => ?_⟩
    · change nonzero frame.previousRevision = none
      rw [previous]
      rfl
    · change frame.status = "succeeded" at succeeded
      rw [status] at succeeded
      exact absurd succeeded (by decide)
  · unfold authors at authored
    rcases Bool.or_eq_true_iff.mp authored with refused | concluded
    · rcases of_decide_eq_true refused with ⟨status, _, previous, _⟩
      refine ⟨.inl ?_, fun succeeded => ?_⟩
      · change nonzero frame.previousRevision = none
        rw [previous]
        rfl
      · change frame.status = "succeeded" at succeeded
        rw [status] at succeeded
        exact absurd succeeded (by simp [PersistedResult.failed])
    · rcases List.any_eq_true.mp concluded with ⟨run, listed, carried⟩
      have known := sound.runs operationId run listed
      cases recorded : run.result with
      | none =>
          simp only [recorded] at carried
          cases carried
      | some stored =>
          simp only [recorded] at carried
          rcases of_decide_eq_true carried with ⟨status, revision, previous, _⟩
          rcases known.concluded stored recorded with ⟨requested, backed⟩
          refine ⟨?_, fun succeeded => ?_⟩
          · change nonzero frame.previousRevision = none ∨ _
            by_cases zero : frame.previousRevision = 0
            · rw [zero]
              exact .inl rfl
            · refine .inr ⟨run.request, known.asked.1, known.asked.2, ?_⟩
              change nonzero frame.previousRevision = _
              rw [← requested.resolve_left (previous ▸ zero), ← previous, nonzero, if_neg zero]
          · have success := backed (status.symm.trans succeeded)
            refine ⟨stored.helmRevision, ⟨run, listed, success.1, success.2, ?_⟩, ?_⟩
            · rw [recorded]
              rfl
            · change nonzero frame.helmRevision = _
              rw [revision]

/-- A deployed revision was made, no later than the run that made one of its own. -/
theorem Sound.inside (sound : Sound before) {operationId : String} {number : Nat}
    (deployed : Deployed before operationId number) :
    1 ≤ number ∧ number ≤ before.history.length := by
  rcases deployed with ⟨run, listed, _, read, _⟩
  have known := sound.runs operationId run listed
  rcases known.read number read with ⟨inside, own, made, order⟩
  exact ⟨Nat.le_trans (known.made own made).1 order, inside⟩

end Results

/-! ## Every step -/

section Steps

variable {config : ServiceConfig} {before after : State}

/-- The rows of a request name its previous revision. -/
theorem Sound.previous_of_request (sound : Sound before)
    (coherent : Service.Coherent before.service) {request : KubernetesReleaseRequest}
    (asked : request ∈ before.sent) {release : KubernetesRelease}
    (listed : release ∈ before.service.releases) (named : release.operationId = request.jobId) :
    release.previousHelmRevision.getD 0 = request.previousRevision := by
  rcases sound.requested request asked with ⟨_, row, rowListed, rowNamed, previous⟩
  rw [coherent.eq_of_operationId listed rowListed (named.trans rowNamed.symm)]
  exact previous

theorem Sound.start (sound : Sound before) (coherent : Service.Coherent before.service)
    {call : Nat} {intent : Intent} {fresh : String}
    (stepped : before.start config call intent fresh = some after) : Sound after := by
  rcases Option.map_eq_some_iff.mp stepped with ⟨service, moved, rfl⟩
  have others : forall (phase : CallPhase) (releases : List KubernetesRelease)
      (other : Nat) (release : KubernetesRelease) (request : KubernetesReleaseRequest),
      (({ before.service with releases := releases }.setCall call phase).calls other =
        .dispatching release request) ->
      before.service.calls other = .dispatching release request ∨
        phase = .dispatching release request := by
    intro phase releases other release request dispatching
    by_cases own : other = call
    · subst own
      rw [Service.State.calls_setCall_self] at dispatching
      exact .inr dispatching
    · rw [Service.State.calls_setCall_ne _ own] at dispatching
      exact .inl dispatching
  cases Service.step_move moved with
  | answered _ _ _ release idle found active =>
      simp only [Service.State.calls_setCall_self]
      refine sound.rewrite .refl ?_ (fun _ asked => asked) fun _ asked => .inl asked
      intro other row request dispatching
      rcases others _ _ other row request dispatching with earlier | new
      · exact .inl earlier
      · cases new
  | reopened _ _ _ release idle found settled =>
      have listed := (Service.existing_eq_some found).1
      simp only [Service.State.calls_setAnswer, Service.State.calls_setCall_self]
      refine sound.rewrite (Rewrites.reopen coherent found settled) ?_
        (fun _ asked => .tail _ asked) ?_
      · intro other row request dispatching
        rcases others _ _ other row request dispatching with earlier | new
        · exact .inl earlier
        · cases new
          exact .inr ⟨.head _, rfl, rfl⟩
      · intro request asked
        rcases List.mem_cons.mp asked with new | old
        · subst new
          refine .inr ⟨rfl, release.reopen, ?_, rfl, rfl⟩
          exact List.mem_map.mpr ⟨release, listed, if_pos rfl⟩
        · exact .inl old
  | created _ _ _ idle missing unused =>
      simp only [Service.State.calls_setAnswer, Service.State.calls_setCall_self]
      refine sound.rewrite (Rewrites.create sound intent fresh) ?_
        (fun _ asked => .tail _ asked) ?_
      · intro other row request dispatching
        rcases others _ _ other row request dispatching with earlier | new
        · exact .inl earlier
        · cases new
          exact .inr ⟨.head _, rfl, rfl⟩
      · intro request asked
        rcases List.mem_cons.mp asked with new | old
        · subst new
          exact .inr ⟨rfl, _, .head _, rfl, rfl⟩
        · exact .inl old

/-- The end of a dispatch sends nothing. -/
theorem Sound.ended (sound : Sound before) {service : Service.State} {call : Nat}
    {phase : CallPhase} (rows : Rewrites before service.releases)
    (calls : service.calls = before.service.calls)
    (settled : Service.outstanding? phase = none) :
    Sound { before with service := service.setCall call phase } := by
  refine sound.rewrite rows ?_ (fun _ asked => asked) fun _ asked => .inl asked
  intro other release request dispatching
  by_cases own : other = call
  · subst own
    rw [Service.State.calls_setCall_self] at dispatching
    rw [dispatching] at settled
    cases settled
  · rw [Service.State.calls_setCall_ne _ own, calls] at dispatching
    exact .inl dispatching

theorem Sound.finish (sound : Sound before) (coherent : Service.Coherent before.service)
    {call : Nat} {course : Course}
    (stepped : before.finish config call course = some after) : Sound after := by
  unfold State.finish at stepped
  split at stepped
  · cases stepped
  · rename_i operationId named
    split at stepped
    · rename_i genuine
      rcases Option.map_eq_some_iff.mp stepped with ⟨service, moved, rfl⟩
      cases Service.step_move moved with
      | recorded _ _ release request result dispatching outcome =>
          rw [dispatching] at named
          cases named
          rcases sound.dispatched call release request dispatching with
            ⟨asked, ownRequest, previous⟩
          have reported := sound.result genuine outcome
          refine sound.ended ?_ rfl rfl
          refine Rewrites.updateActive (fun row listed own => ⟨rfl, ?_⟩)
            (fun row listed own status => ?_)
          · have kept := sound.previous_of_request coherent asked listed
              (own.trans ownRequest.symm)
            change (result.previousRevision.orElse fun _ => _).getD 0 = _
            rcases reported.1 with none | ⟨other, otherAsked, otherNamed, some⟩
            · rw [none, kept]
              exact previous
            · rw [some]
              exact (sound.previous_of_request coherent otherAsked listed
                (own.trans otherNamed.symm)).symm
          · rcases reported.2 (succeeded_of_ofResult status) with ⟨number, deployed, revision⟩
            have positive := (sound.inside deployed).1
            refine ⟨number, ?_, deployed⟩
            change result.helmRevision = some number
            rw [revision, nonzero, if_neg (by omega)]
      | unavailable _ _ release request message dispatching outcome =>
          refine sound.ended ?_ rfl rfl
          refine Rewrites.updateActive (fun row _ _ => ⟨rfl, rfl⟩) fun row _ _ status => ?_
          cases status
      | escaped _ _ release request error dispatching outcome other =>
          exact sound.ended .refl rfl rfl
    · cases stepped

theorem Sound.cancelRelease (sound : Sound before) (operationId : String) (accepted : Bool) :
    Sound (before.cancelRelease operationId accepted) := by
  refine sound.rewrite ?_ (fun _ _ _ dispatching => .inl dispatching) (fun _ asked => asked)
    fun _ asked => .inl asked
  refine Rewrites.updateActive (fun row _ _ => ⟨rfl, rfl⟩) fun row _ _ status => ?_
  cases accepted <;> cases status

theorem Sound.upgrade (sound : Sound before) {request : KubernetesReleaseRequest} {run : Run}
    (effective : Bool) (running : before.running? request = some run) (unmade : run.made = none) :
    Sound ((before.addRevision ⟨(request.image, request.valuesJson), effective, none⟩).setRun
      request.jobId
      { run with made := some (before.history.length + 1), applied := effective }) := by
  rcases State.running?_eq_some running with ⟨listed, _, unfinished⟩
  have known := sound.runs _ run listed
  refine (sound.addRevision _).setRun running ⟨known.asked, ?_, ?_, ?_⟩
  · intro number same
    cases same
    refine ⟨Nat.le_add_left _ _, ?_, fun applied => ?_⟩
    · rw [State.addRevision, List.length_append]
      exact Nat.le_refl _
    · exact ⟨_, at?_concat _ _, applied⟩
  · intro number read
    rcases known.read number read with ⟨_, own, made, _⟩
    rw [unmade] at made
    cases made
  · intro result recorded
    exact absurd (unfinished.symm.trans recorded) nofun

theorem Sound.readRevision (sound : Sound before) {request : KubernetesReleaseRequest}
    {run : Run} {own : Nat} (running : before.running? request = some run)
    (made : run.made = some own) :
    Sound (before.setRun request.jobId { run with read := some before.history.length }) := by
  rcases State.running?_eq_some running with ⟨listed, _, unfinished⟩
  have known := sound.runs _ run listed
  refine sound.setRun running ⟨known.asked, known.made, ?_, ?_⟩
  · intro number same
    cases same
    exact ⟨Nat.le_refl _, own, made, (known.made own made).2.1⟩
  · intro result recorded
    exact absurd (unfinished.symm.trans recorded) nofun

/-- The verdict on a run that agrees with what it did. -/
theorem Sound.conclude (sound : Sound before) {request : KubernetesReleaseRequest}
    {world : Executor.World} {run : Run} (running : before.running? request = some run)
    (agrees : run.agrees world (Executor.run world request).completed = true) :
    Sound (before.setRun request.jobId { run with result := some (verdictOf world request) }) := by
  rcases State.running?_eq_some running with ⟨listed, same, _⟩
  have known := sound.runs _ run listed
  have mode := (sound.requested run.request known.asked.1).1
  rw [same] at mode
  have honest := Executor.honest_run world request
  unfold Run.agrees at agrees
  rw [Bool.and_eq_true, Bool.or_eq_true_iff, Bool.or_eq_true_iff, decide_eq_true_eq,
    decide_eq_true_eq] at agrees
  refine sound.setRun running ⟨known.asked, known.made, known.read, fun result recorded => ?_⟩
  cases recorded
  refine ⟨?_, fun succeeded => ?_⟩
  · rw [same]
    unfold verdictOf kubernetesVerdict
    split <;> exact honest.previous
  · unfold verdictOf kubernetesVerdict at succeeded ⊢
    split at succeeded
    · exact absurd succeeded (by simp)
    · rename_i uncancelled
      rw [if_neg uncancelled]
      rcases honest.succeeded succeeded with validation | ⟨upgraded, recorded, value, output, read⟩
      · rw [mode] at validation
        exact absurd validation (by decide)
      · have applied := agrees.1.resolve_left (fun absent => absent upgraded)
        have agreed := agrees.2.resolve_left (fun absent => absent recorded)
        rw [output] at agreed
        exact ⟨(Bool.and_eq_true_iff.mp applied).2,
          (of_decide_eq_true agreed).symm.trans read⟩

theorem Sound.outcome (sound : Sound before) {action : Action}
    (outcome : Outcome before action after) : Sound after := by
  cases outcome with
  | begun request asked _ => exact sound.begin asked
  | upgraded request effective run running unmade => exact sound.upgrade effective running unmade
  | read request run number running made => exact sound.readRevision running made
  | restored request effective target kept found => exact sound.addRevision _
  | concluded request world run running agrees => exact sound.conclude running agrees
  | pruned number old => exact sound.prune number

theorem Sound.step (sound : Sound before) (coherent : Service.Coherent before.service)
    {action : Action} (stepped : step config before action = some after) : Sound after := by
  cases outside : action.ofService with
  | false => exact sound.outcome (step_outcome stepped outside)
  | true =>
      cases action with
      | start call intent fresh => exact sound.start coherent stepped
      | finish call course => exact sound.finish coherent stepped
      | cancelRelease operationId accepted =>
          cases stepped
          exact sound.cancelRelease operationId accepted
      | _ => cases outside

end Steps

theorem sound_of_reachable {config : ServiceConfig} {state : State}
    (reached : (machine config).Reachable state) : Sound state := by
  refine reached.invariant ?_ ?_
  · rintro start ⟨⟩
    exact .initial
  · intro before action after earlier inductionHypothesis _ stepped
    exact inductionHypothesis.step (Service.coherent_of_reachable (service_reachable earlier))
      stepped

/-- The history grows by upgrades and by rollbacks to one of its revisions. -/
theorem history_of_step {config : ServiceConfig} {before after : State} {action : Action}
    (stepped : step config before action = some after) :
    after.history = before.history ∨
      Exists fun revision : Revision (String × String) =>
        after.history = before.history ++ [revision] ∧
          forall number, revision.restores = some number ->
            Exists fun target : Revision (String × String) =>
              at? before.history number = some target ∧ target.content = revision.content := by
  cases outside : action.ofService with
  | false =>
      cases step_outcome stepped outside with
      | upgraded request effective run running unmade => exact .inr ⟨_, rfl, nofun⟩
      | restored request effective target kept found =>
          refine .inr ⟨_, rfl, fun number restores => ?_⟩
          cases restores
          exact ⟨target, found, rfl⟩
      | _ => exact .inl rfl
  | true =>
      cases action with
      | start call intent fresh =>
          rcases Option.map_eq_some_iff.mp stepped with ⟨service, _, rfl⟩
          exact .inl rfl
      | finish call course =>
          simp only [step, State.finish] at stepped
          split at stepped
          · cases stepped
          · split at stepped
            · rcases Option.map_eq_some_iff.mp stepped with ⟨service, _, rfl⟩
              exact .inl rfl
            · cases stepped
      | cancelRelease operationId accepted =>
          cases stepped
          exact .inl rfl
      | _ => cases outside

def State.Restorable (state : State) : Prop := Faithful state.history

theorem restorable_of_reachable {config : ServiceConfig} {state : State}
    (reached : (machine config).Reachable state) : state.Restorable := by
  refine reached.invariant ?_ ?_
  · rintro start ⟨⟩
    exact faithful_nil
  · intro before action after _ inductionHypothesis _ stepped
    unfold State.Restorable at inductionHypothesis ⊢
    rcases history_of_step stepped with same | ⟨revision, grown, restored⟩
    · rw [same]
      exact inductionHypothesis
    · rw [grown]
      exact inductionHypothesis.concat restored

/-! ## The revision that a request names -/

/-- In every run: the request of a new row names the revision recorded for the
newest release that has succeeded, or none, and all requests of one operation
name the same.

When a request that names a revision is upgraded, this is a revision that Helm
has made and that a run of a succeeded release has read back after its own
upgrade took effect; and it is the one that the cluster serves, if it took
effect (as it did when it is that run's own) and nothing but its restorations
took effect after it.  Helm may have pruned it by then: a rollback to it needs
it to be stored, and one that takes effect makes the cluster serve it again. -/
theorem rollback_target (config : ServiceConfig) (state : State)
    (reached : (machine config).Reachable state) :
    (forall call intent fresh after release request,
      step config state (.start call intent fresh) = some after ->
      after.service.calls call = .dispatching release request -> release.operationId = fresh ->
      fresh ∉ state.service.releases.map KubernetesRelease.operationId ->
        request.previousRevision =
          (state.service.previous.bind KubernetesRelease.helmRevision).getD 0) ∧
      (forall request, request ∈ state.sent -> forall other, other ∈ state.sent ->
        request.jobId = other.jobId -> request.previousRevision = other.previousRevision) ∧
      (forall request effective after,
        step config state (.upgrade request effective) = some after ->
        request.previousRevision ≠ 0 ->
        Exists fun release : KubernetesRelease => release ∈ state.service.releases ∧
          release.status = .succeeded ∧
          release.helmRevision = some request.previousRevision ∧
          Exists fun run : Run => run ∈ state.runs release.operationId ∧ run.applied = true ∧
            run.read = some request.previousRevision ∧ run.result.isSome = true ∧
            Exists fun target : Revision (String × String) =>
              at? state.history request.previousRevision = some target ∧
                (run.made = some request.previousRevision -> target.effective = true) ∧
                (target.effective = true ->
                  (forall later, later ∈ state.history.drop request.previousRevision ->
                    later.effective = true -> later.restores = some request.previousRevision) ->
                  served state.history = some target.content)) ∧
      forall request after, step config state (.rollback request true) = some after ->
        request.previousRevision ∉ state.pruned ∧
          Exists fun target : Revision (String × String) =>
            at? state.history request.previousRevision = some target ∧
              served after.history = some target.content := by
  have sound := sound_of_reachable reached
  have coherent := Service.coherent_of_reachable (service_reachable reached)
  refine ⟨?_, ?_, ?_, ?_⟩
  · intro call intent fresh after release request stepped dispatching own unused
    rcases Option.map_eq_some_iff.mp stepped with ⟨service, moved, rfl⟩
    cases Service.step_move moved with
    | answered _ _ _ row idle found active =>
        rw [Service.State.calls_setCall_self] at dispatching
        cases dispatching
    | reopened _ _ _ row idle found settled =>
        rw [Service.State.calls_setAnswer, Service.State.calls_setCall_self] at dispatching
        cases dispatching
        exact absurd (List.mem_map.mpr ⟨row, (Service.existing_eq_some found).1, own⟩) unused
    | created _ _ _ idle missing _ =>
        rw [Service.State.calls_setAnswer, Service.State.calls_setCall_self] at dispatching
        cases dispatching
        rfl
  · intro request asked other otherAsked same
    rcases sound.requested request asked with ⟨_, release, listed, named, previous⟩
    rw [← previous]
    exact sound.previous_of_request coherent otherAsked listed (named.trans same)
  · intro request effective after stepped nonzero
    cases step_outcome stepped rfl with
    | upgraded _ _ current running unmade =>
        rcases State.running?_eq_some running with ⟨listed, same, _⟩
        have asked := (sound.runs _ current listed).asked.1
        rw [same] at asked
        rcases sound.requested request asked with ⟨_, row, rowListed, _, previous⟩
        rw [← previous] at nonzero
        rcases sound.previous row rowListed nonzero with ⟨release, releaseListed, status, revision⟩
        rw [previous] at revision
        rcases sound.succeeded release releaseListed status with ⟨number, recorded, deployed⟩
        rw [revision] at recorded
        cases recorded
        rcases at?_of_inside (sound.inside deployed).1 (sound.inside deployed).2 with
          ⟨target, found⟩
        rcases deployed with ⟨run, runListed, applied, read, concluded⟩
        refine ⟨release, releaseListed, status, revision, run, runListed, applied, read, concluded,
          target, found, ?_, ?_⟩
        · intro made
          rcases ((sound.runs _ run runListed).made _ made).2.2 applied with
            ⟨stored, storedFound, tookEffect⟩
          rw [found] at storedFound
          cases storedFound
          exact tookEffect
        · intro tookEffect later
          exact (restorable_of_reachable reached).served_of_restored found tookEffect later
  · intro request after stepped
    cases step_outcome stepped rfl with
    | restored _ _ target kept found =>
        have serves := served_of_getLast
          (List.getLast?_concat (l := state.history)
            (a := ⟨target.content, true, some request.previousRevision⟩)) rfl
        exact ⟨kept, target, found, serves⟩

/-! ## Three deployments of one target -/

def imageIntent (digit : Char) : Intent :=
  { Service.sampleIntent with
    image := "registry.example/shop@sha256:" ++ String.ofList (List.replicate 64 digit) }

def imageRequest (operationId : String) (digit : Char) (previous : Nat) :
    KubernetesReleaseRequest :=
  { releaseRequest Service.sampleService (imageIntent digit)
      (.create Service.sampleService (imageIntent digit) operationId none) with
    previousRevision := previous }

/-- Every step succeeds, and the newest revision has a number. -/
def surroundings (number : Nat) (cancelAt : Option Nat) : Executor.World :=
  { Executor.World.healthy cancelAt with
    helmOutput := .metadata ⟨some (.number number), none⟩ }

/-- A deployment that is begun, upgraded, read back, concluded and answered. -/
def deploying (call : Nat) (operationId : String) (digit : Char) (previous number : Nat)
    (cancelAt : Option Nat) : List Action :=
  let request := imageRequest operationId digit previous
  let result := verdictOf (surroundings number cancelAt) request
  [.start call (imageIntent digit) operationId, .begin request, .upgrade request true,
    .readRevision request, .conclude request (surroundings number cancelAt),
    .finish call (.served .pair (Service.gatewayAfter Service.connecting)
      [.forwarded 0 (persistedResultFrame operationId 1 result)])]

/-- The second of two deployments names the first, which is served. -/
theorem rollback_target_second :
    Exists fun state : State => imageRequest "k8s-2" 'b' 1 ∈ state.sent ∧
      Exists fun release : KubernetesRelease => release ∈ state.service.releases ∧
        release.status = .succeeded ∧
        Exists fun target : Revision (String × String) => at? state.history 1 = some target ∧
          served state.history = some target.content := by
  rcases (machine Service.sampleService).exists_reachableUnder_of_replay (fun _ _ => True)
    (deploying 0 "k8s-1" 'a' 0 1 none ++
      [.start 1 (imageIntent 'b') "k8s-2", .begin (imageRequest "k8s-2" 'b' 1)]) .initial rfl
    (fun state =>
      imageRequest "k8s-2" 'b' 1 ∈ state.sent ∧ state.history.length = 1 ∧
        state.history.all Revision.effective = true ∧
        (state.upgrade (imageRequest "k8s-2" 'b' 1) true).isSome = true)
    (by decide +kernel) with ⟨state, reached, tested⟩
  rcases of_decide_eq_true tested with ⟨asked, length, effective, enabled⟩
  rcases Option.isSome_iff_exists.mp enabled with ⟨after, stepped⟩
  rcases (rollback_target Service.sampleService state reached).2.2.1 _ true after stepped
    (by decide) with ⟨release, listed, status, _, _, _, _, _, _, target, found, _, serves⟩
  refine ⟨state, asked, release, listed, status, target, found, serves ?_ ?_⟩
  · refine List.all_eq_true.mp effective target ?_
    exact List.mem_of_getElem? found
  · intro later impossible
    change later ∈ state.history.drop 1 at impossible
    rw [List.drop_eq_nil_of_le (Nat.le_of_eq length)] at impossible
    cases impossible

/-- The second deployment takes effect and is recorded as cancelled.  The third
one names the revision of the first, while the cluster serves the second. -/
theorem rollback_target_stale :
    Exists fun state : State => (machine Service.sampleService).Reachable state ∧
      imageRequest "k8s-3" 'c' 1 ∈ state.sent ∧
      (step Service.sampleService state (.upgrade (imageRequest "k8s-3" 'c' 1) true)).isSome = true ∧
      state.service.releases.map (fun release =>
          (release.operationId, release.status, release.helmRevision)) =
        [("k8s-3", .validating, none), ("k8s-2", .cancelled, some 2),
          ("k8s-1", .succeeded, some 1)] ∧
      (at? state.history 1).map Revision.content =
        some ((imageIntent 'a').image, (imageIntent 'a').values) ∧
      served state.history = some ((imageIntent 'b').image, (imageIntent 'b').values) := by
  rcases (machine Service.sampleService).exists_reachableUnder_of_replay (fun _ _ => True)
    (deploying 0 "k8s-1" 'a' 0 1 none ++ deploying 1 "k8s-2" 'b' 1 2 (some 60) ++
      [.start 2 (imageIntent 'c') "k8s-3", .begin (imageRequest "k8s-3" 'c' 1)]) .initial rfl
    (fun state =>
      imageRequest "k8s-3" 'c' 1 ∈ state.sent ∧
        (step Service.sampleService state
          (.upgrade (imageRequest "k8s-3" 'c' 1) true)).isSome = true ∧
        state.service.releases.map (fun release =>
            (release.operationId, release.status, release.helmRevision)) =
          [("k8s-3", .validating, none), ("k8s-2", .cancelled, some 2),
            ("k8s-1", .succeeded, some 1)] ∧
        (at? state.history 1).map Revision.content =
          some ((imageIntent 'a').image, (imageIntent 'a').values) ∧
        served state.history = some ((imageIntent 'b').image, (imageIntent 'b').values))
    (by decide +kernel) with ⟨state, reached, tested⟩
  exact ⟨state, reached, of_decide_eq_true tested⟩

end Rollout
end ControlPlane
end DjangoOps
