import DjangoOps.ControlPlane.Retry

namespace DjangoOps
namespace ControlPlane
namespace Service

open Protocol Gateway

/-!
# Active releases

An active row suppresses every further dispatch of its identity, so somebody
has to be working on it.  The backend turns timeouts and runtime errors into
one exception that `start_release` handles.  The other exceptions of the
gateway pass both clauses and leave the row active.
-/

/-- The gateway can serve a request: the operation has a valid id and is not
active, and the agent is connected and either at its limit, which is reported
by a runtime error, or able to run releases. -/
def serviceable (config : GatewayConfig) (gateway : Gateway.State) (agentId jobId : String) :
    Bool :=
  safeJobID jobId && decide (jobId ∉ gateway.jobs) &&
    match gateway.sessions.lookup agentId with
    | none => false
    | some stream =>
        decide (config.maxInflightPerAgent ≤ gateway.inflight agentId) ||
          decide (kubernetesCapability ∈ (gateway.streams stream).session.capabilities)

/-- The course ends in a way that `start_release` handles. -/
def handled (agentId jobId : String) : Course -> Bool
  | .absent => true
  | .timedOut => true
  | .cancelled => false
  | .served config gateway _ => serviceable config gateway agentId jobId

/-- The exceptions that pass the clauses of `_run` and `start_release`. -/
def escapes : Except PyException ReleaseResult -> Bool
  | .ok _ => false
  | .error (.runtimeError _) => false
  | .error _ => true

theorem escapes_collect (deliveries : List Delivery) :
    escapes (throughFuture (collect deliveries)) = false := by
  unfold collect
  split <;> rfl

/-- The refusals of the gateway that escape, in terms of its state. -/
theorem escapes_refusal (config : GatewayConfig) (gateway : Gateway.State)
    (agentId jobId : String) :
    (match refusal config gateway agentId jobId with
      | some error => escapes (throughFuture (.error error))
      | none => false) = !serviceable config gateway agentId jobId := by
  unfold refusal State.openJob serviceable
  by_cases safe : safeJobID jobId = true
  · rw [safe, if_neg (by decide)]
    by_cases registered : jobId ∈ gateway.jobs
    · rw [if_pos registered, decide_eq_false (not_not_intro registered)]
      rfl
    · have reuse : ¬ (jobId ∈ gateway.completedJobs ∧ true = false) := fun both => nomatch both.2
      rw [if_neg registered, if_neg reuse, decide_eq_true registered]
      cases gateway.sessions.lookup agentId with
      | none => rfl
      | some stream =>
          dsimp only
          by_cases busy : config.maxInflightPerAgent ≤ gateway.inflight agentId
          · rw [if_pos busy, decide_eq_true busy]
            rfl
          · rw [if_neg busy, decide_eq_false busy]
            by_cases capable :
                kubernetesCapability ∈ (gateway.streams stream).session.capabilities
            · simp only [if_pos capable, decide_eq_true capable]
              rfl
            · simp only [if_neg capable, decide_eq_false capable]
              rfl
  · have unhandled := Bool.eq_false_of_not_eq_true safe
    rw [unhandled, if_pos rfl]
    rfl

/-- Exactly the courses that are not handled escape. -/
theorem escapes_runBackend (agentId jobId : String) (course : Course) :
    escapes (runBackend agentId jobId course) = !handled agentId jobId course := by
  cases course with
  | served config gateway deliveries =>
      have refused := escapes_refusal config gateway agentId jobId
      simp only [runBackend, handled]
      cases outcome : refusal config gateway agentId jobId with
      | some error =>
          rw [outcome] at refused
          exact refused
      | none =>
          rw [outcome] at refused
          exact (escapes_collect deliveries).trans refused
  | _ => rfl

/-! ## Every active release is worked on -/

/-- A dispatch of the operation is outstanding. -/
def State.WorkedOn (state : State) (operationId : String) : Prop :=
  Exists fun call : Nat => outstanding? (state.calls call) = some operationId

/-- Every active release is worked on. -/
def State.Attended (state : State) : Prop :=
  forall release, release ∈ state.releases -> release.status.active = true ->
    state.WorkedOn release.operationId

/-- A dispatch of an active release that is the last one outstanding does not
end in an exception that passes `start_release`. -/
def HandlesLast (config : ServiceConfig) (state : State) (action : Action) : Prop :=
  match action with
  | .finish call course =>
      forall operationId, outstanding? (state.calls call) = some operationId ->
        state.isActive operationId = true ->
          handled config.target.agentId operationId course = true ∨
            Exists fun other : Nat => other ≠ call ∧
              outstanding? (state.calls other) = some operationId
  | _ => True

section Steps

variable {config : ServiceConfig} {before after : State} {action : Action}

/-- A call other than the one that moves keeps its dispatch. -/
theorem workedOn_of_other {call other : Nat} {phase : CallPhase} {operationId : String}
    (different : other ≠ call) (outstanding : outstanding? (before.calls other) = some operationId)
    {moved : State} (calls : moved.calls = (before.setCall call phase).calls) :
    moved.WorkedOn operationId := by
  refine ⟨other, ?_⟩
  rw [calls, State.calls_setCall_ne _ different]
  exact outstanding

/-- A call that starts from idle takes nobody's dispatch away. -/
theorem workedOn_of_idle {call : Nat} {phase : CallPhase} (idle : before.calls call = .idle)
    {operationId : String} (worked : before.WorkedOn operationId) {moved : State}
    (calls : moved.calls = (before.setCall call phase).calls) : moved.WorkedOn operationId := by
  rcases worked with ⟨other, outstanding⟩
  refine workedOn_of_other (fun same => ?_) outstanding calls
  rw [same, idle] at outstanding
  cases outstanding

/-- The end of a dispatch leaves the work on every other operation alone. -/
theorem workedOn_of_different {call : Nat} {phase : CallPhase} {release : KubernetesRelease}
    {request : KubernetesReleaseRequest}
    (dispatching : before.calls call = .dispatching release request) {operationId : String}
    (different : operationId ≠ release.operationId) (worked : before.WorkedOn operationId)
    {moved : State} (calls : moved.calls = (before.setCall call phase).calls) :
    moved.WorkedOn operationId := by
  rcases worked with ⟨other, outstanding⟩
  refine workedOn_of_other (fun same => ?_) outstanding calls
  rw [same, dispatching] at outstanding
  exact different (Option.some.inj outstanding).symm

/-- A conditional update that settles its row leaves active rows of other
operations only. -/
theorem active_of_updateActive {operationId : String}
    {change : KubernetesRelease -> KubernetesRelease}
    (settles : forall release, (change release).status.active = false)
    {release : KubernetesRelease}
    (listed : release ∈ (before.updateActive operationId change).releases)
    (active : release.status.active = true) :
    release ∈ before.releases ∧ release.operationId ≠ operationId := by
  rcases before.mem_updateActive.mp listed with
    ⟨earlier, earlierListed, ⟨_, _, same⟩ | ⟨other, same⟩⟩
  · subst same
    rw [settles earlier] at active
    cases active
  · subst same
    exact ⟨earlierListed, fun own => other ⟨own, active⟩⟩

theorem State.Attended.step (attended : before.Attended)
    (allowed : HandlesLast config before action) (move : Move config before action after) :
    after.Attended := by
  cases move with
  | answered call intent fresh release idle found active =>
      intro other listed otherActive
      exact workedOn_of_idle idle (attended other listed otherActive) rfl
  | reopened call intent fresh release idle found settled =>
      intro other listed active
      rcases List.mem_map.mp listed with ⟨earlier, earlierListed, same⟩
      split at same
      · rename_i own
        subst same
        refine ⟨call, ?_⟩
        rw [State.calls_setAnswer, State.calls_setCall_self]
        exact congrArg some own.symm
      · subst same
        exact workedOn_of_idle idle (attended earlier earlierListed active) rfl
  | created call intent fresh idle missing unused =>
      intro other listed active
      rcases List.mem_cons.mp listed with new | old
      · subst new
        refine ⟨call, ?_⟩
        rw [State.calls_setAnswer, State.calls_setCall_self]
        rfl
      · exact workedOn_of_idle idle (attended other old active) rfl
  | recorded call course release request result dispatching outcome =>
      intro other listed active
      rcases active_of_updateActive (fun _ => ReleaseStatus.active_ofResult result.status) listed
        active with ⟨earlier, different⟩
      exact workedOn_of_different dispatching different (attended other earlier active) rfl
  | unavailable call course release request message dispatching outcome =>
      intro other listed active
      rcases active_of_updateActive (fun _ => rfl) listed active with ⟨earlier, different⟩
      exact workedOn_of_different dispatching different (attended other earlier active) rfl
  | escaped call course release request error dispatching outcome other =>
      intro row listed active
      by_cases own : row.operationId = release.operationId
      · have outstanding : outstanding? (before.calls call) = some release.operationId := by
          rw [dispatching]
          rfl
        have isActive := before.isActive_iff.mpr ⟨row, listed, own, active⟩
        rcases allowed release.operationId outstanding isActive with handled | ⟨helper, apart, still⟩
        · have passed := escapes_runBackend config.target.agentId release.operationId course
          rw [handled, outcome] at passed
          cases error with
          | runtimeError message => exact absurd rfl (other message)
          | _ => cases passed
        · rw [own]
          exact workedOn_of_other apart still rfl
      · exact workedOn_of_different dispatching own (attended row listed active) rfl
  | cancelled operationId accepted =>
      intro other listed active
      have settles : forall release : KubernetesRelease,
          (release.applyCancel accepted).status.active = false := by
        intro release
        cases accepted <;> rfl
      rcases active_of_updateActive settles listed active with ⟨earlier, _⟩
      exact attended other earlier active

end Steps

/-- In every run in which no exception passes `start_release` while its call is
the last one that works on an active release: every active release is worked
on.  So the release of a call that has returned or raised is settled unless
another dispatch of it is outstanding, and a start that is answered without a
dispatch is answered with a release that somebody works on. -/
theorem no_stranded_release (config : ServiceConfig) (state : State)
    (reached : (machine config).ReachableUnder (HandlesLast config) state) :
    state.Attended ∧
      forall (call : Nat) (intent : Intent) (fresh operationId : String) (after : State),
        step config state (.start call intent fresh) = some after ->
          after.calls call = .returned operationId -> after.WorkedOn operationId := by
  have attended : forall {reachedState : State},
      (machine config).ReachableUnder (HandlesLast config) reachedState ->
        reachedState.Attended := by
    intro reachedState run
    refine run.invariant ?_ ?_
    · rintro start ⟨⟩ release impossible
      cases impossible
    · intro before action after _ inductionHypothesis allowed stepped
      exact inductionHypothesis.step allowed (step_move stepped)
  refine ⟨attended reached, ?_⟩
  intro call intent fresh operationId after stepped returned
  have later := attended (reached.next (.start call intent fresh) trivial stepped)
  cases step_move stepped with
  | answered _ _ _ release idle found active =>
      rw [State.calls_setCall_self] at returned
      cases returned
      exact later release (existing_eq_some found).1 active
  | reopened _ _ _ release idle found settled =>
      rw [State.calls_setAnswer, State.calls_setCall_self] at returned
      cases returned
  | created _ _ _ idle missing unused =>
      rw [State.calls_setAnswer, State.calls_setCall_self] at returned
      cases returned

/-- The condition on runs is exact: a step that does not meet it leaves an
active release that nobody works on. -/
theorem stranded_of_escape {config : ServiceConfig} {before after : State} {call : Nat}
    {course : Course} (stepped : step config before (.finish call course) = some after)
    (escaping : ¬ HandlesLast config before (.finish call course)) : ¬ after.Attended := by
  unfold HandlesLast at escaping
  simp only [not_forall, not_or] at escaping
  rcases escaping with ⟨operationId, outstanding, isActive, unhandled, alone⟩
  rcases before.isActive_iff.mp isActive with ⟨release, listed, own, active⟩
  have passed := escapes_runBackend config.target.agentId operationId course
  rw [Bool.eq_false_of_not_eq_true unhandled] at passed
  intro attended
  cases step_move stepped with
  | recorded _ _ current request result dispatching outcome =>
      rw [dispatching] at outstanding
      cases outstanding
      rw [outcome] at passed
      cases passed
  | unavailable _ _ current request message dispatching outcome =>
      rw [dispatching] at outstanding
      cases outstanding
      rw [outcome] at passed
      cases passed
  | escaped _ _ current request error dispatching outcome other =>
      rw [dispatching] at outstanding
      cases outstanding
      rcases attended release listed active with ⟨helper, still⟩
      rw [own] at still
      by_cases same : helper = call
      · rw [same, State.calls_setCall_self] at still
        cases still
      · rw [State.calls_setCall_ne _ same] at still
        exact alone ⟨helper, same, still⟩

/-- The end of a dispatch, if there is one, is handled. -/
def handlesAll (config : ServiceConfig) (state : State) : Action -> Bool
  | .finish call course =>
      match outstanding? (state.calls call) with
      | some operationId => handled config.target.agentId operationId course
      | none => true
  | _ => true

theorem handlesLast_of_handlesAll {config : ServiceConfig} (state : State) (action : Action)
    (all : handlesAll config state action = true) : HandlesLast config state action := by
  cases action with
  | finish call course =>
      intro operationId outstanding _
      simp only [handlesAll, outstanding] at all
      exact .inl all
  | _ => trivial

/-- The dispatch times out, and the release is settled. -/
theorem no_stranded_release_timeout :
    Exists fun state : State => state.Attended ∧
      state.releases = [(sampleRelease "k8s-1").applyUnavailable] := by
  rcases (machine sampleService).exists_reachableUnder_of_replay
    (fun state action => handlesAll sampleService state action = true)
    [.start 0 sampleIntent "k8s-1", .finish 0 .timedOut] .initial rfl
    (fun state => state.releases = [(sampleRelease "k8s-1").applyUnavailable])
    (by decide +kernel) with ⟨state, reached, tested⟩
  exact ⟨state, (no_stranded_release sampleService state
    (reached.mono handlesLast_of_handlesAll)).1, of_decide_eq_true tested⟩

/-- A start while the agent is not connected, and a second one. -/
def offlineRun : List Action :=
  [.start 0 sampleIntent "k8s-1", .finish 0 (.served .pair .initial []),
    .start 1 sampleIntent "k8s-2"]

def offlineState : State :=
  ((machine sampleService).replay (fun _ _ => True) .initial offlineRun).getD .initial

/-- The agent is not connected.  The exception of the gateway leaves the row
`validating`, and the next start of the release is answered with it although
nobody works on it. -/
theorem stranded_offline :
    (machine sampleService).Reachable offlineState ∧
      offlineState.releases.map (fun release => (release.operationId, release.status)) =
        [("k8s-1", .validating)] ∧
      offlineState.calls 0 = .raised "k8s-1" (.lookupError "agent is not connected") ∧
      offlineState.calls 1 = .returned "k8s-1" ∧ ¬ offlineState.WorkedOn "k8s-1" := by
  have replayed : (machine sampleService).replay (fun _ _ => True) .initial offlineRun =
      some offlineState := rfl
  have first : offlineState.calls 0 =
      .raised "k8s-1" (.lookupError "agent is not connected") := by decide +kernel
  have second : offlineState.calls 1 = .returned "k8s-1" := by decide +kernel
  refine ⟨Transition.Machine.reachableUnder_of_replay offlineRun (.start rfl) replayed,
    by decide +kernel, first, second, ?_⟩
  rintro ⟨call, outstanding⟩
  match call with
  | 0 =>
      rw [first] at outstanding
      cases outstanding
  | 1 =>
      rw [second] at outstanding
      cases outstanding
  | beyond + 2 =>
      have idle : offlineState.calls (beyond + 2) = .idle := rfl
      rw [idle] at outstanding
      cases outstanding

end Service
end ControlPlane
end DjangoOps
