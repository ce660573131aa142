import Mathlib.Logic.Equiv.Basic
import DjangoOps.Gateway.Isolation
import DjangoOps.ControlPlane.ReleaseService

namespace DjangoOps
namespace ControlPlane
namespace Service

open Protocol Gateway

/-!
# The identity of a retry

A release whose dispatch ended without a result of the agent must be retried
under its own operation id, because the agent recognises an operation by
nothing else.  The rows of a target keep at most one open row for every
identity, so this holds as long as the row stays open.  The failure frames of
the gateway carry error codes that close it.
-/

/-! ## Rows -/

/-- What every step keeps of a row. -/
structure Revises (earlier later : KubernetesRelease) : Prop where
  operationId : later.operationId = earlier.operationId
  identity : identity later = identity earlier

/-- The rows are known by their operation ids, and at most one row of an
identity is open. -/
structure Coherent (state : State) : Prop where
  unique : (state.releases.map KubernetesRelease.operationId).Nodup
  single : forall first, first ∈ state.releases -> forall second, second ∈ state.releases ->
    identity first = identity second -> first.isOpen = true -> second.isOpen = true ->
      first = second

section Rows

variable {state : State} {config : ServiceConfig}

theorem Coherent.eq_of_operationId (coherent : Coherent state)
    {first second : KubernetesRelease} (firstListed : first ∈ state.releases)
    (secondListed : second ∈ state.releases)
    (same : first.operationId = second.operationId) : first = second :=
  List.inj_on_of_nodup_map coherent.unique firstListed secondListed same

theorem isOpen_of_active {release : KubernetesRelease} (active : release.status.active = true) :
    release.isOpen = true := by
  unfold KubernetesRelease.isOpen
  rw [active, Bool.true_or]

theorem isOpen_of_recoverable {release : KubernetesRelease} (code : String)
    (failed : release.status = .failed) (errorCode : release.errorCode = code)
    (recoverable : code ∈ recoverableErrors) : release.isOpen = true := by
  unfold KubernetesRelease.isOpen
  rw [failed, errorCode, decide_eq_true recoverable]
  rfl

/-- Changing rows in place keeps the rows coherent when no row is opened. -/
theorem Coherent.map (coherent : Coherent state) {after : State}
    {change : KubernetesRelease -> KubernetesRelease}
    (rows : after.releases = state.releases.map change)
    (revises : forall release, release ∈ state.releases -> Revises release (change release))
    (opens : forall release, release ∈ state.releases -> (change release).isOpen = true ->
      release.isOpen = true) : Coherent after where
  unique := by
    have same : (state.releases.map change).map KubernetesRelease.operationId =
        state.releases.map KubernetesRelease.operationId := by
      rw [List.map_map]
      exact List.map_congr_left fun release listed => (revises release listed).operationId
    rw [rows, same]
    exact coherent.unique
  single := by
    intro first firstListed second secondListed same firstOpen secondOpen
    rw [rows] at firstListed secondListed
    rcases List.mem_map.mp firstListed with ⟨earlier, earlierListed, rfl⟩
    rcases List.mem_map.mp secondListed with ⟨other, otherListed, rfl⟩
    rw [(revises earlier earlierListed).identity, (revises other otherListed).identity] at same
    rw [coherent.single earlier earlierListed other otherListed same
      (opens earlier earlierListed firstOpen) (opens other otherListed secondOpen)]

/-- A conditional update does not open a row that was closed. -/
theorem Coherent.updateActive (coherent : Coherent state) {operationId : String}
    {change : KubernetesRelease -> KubernetesRelease}
    (revises : forall release, Revises release (change release)) :
    Coherent (state.updateActive operationId change) := by
  refine coherent.map rfl (fun release _ => ?_) (fun release _ opened => ?_)
  · split
    · exact revises release
    · exact ⟨rfl, rfl⟩
  · by_cases own : release.operationId = operationId ∧ release.status.active = true
    · exact isOpen_of_active own.2
    · rwa [if_neg own] at opened

theorem existing_eq_some {intent : Intent} {release : KubernetesRelease}
    (found : state.existing config intent = some release) :
    release ∈ state.releases ∧ identity release = intentIdentity config intent ∧
      release.isOpen = true := by
  have tested := List.find?_some found
  rw [Bool.and_eq_true] at tested
  exact ⟨List.mem_of_find?_eq_some found, matchesIntent_iff.mp tested.1, tested.2⟩

/-- The query of `start_release` finds the open row of an identity. -/
theorem Coherent.existing_of_open (coherent : Coherent state) {intent : Intent}
    {release : KubernetesRelease} (listed : release ∈ state.releases)
    (same : identity release = intentIdentity config intent) (opened : release.isOpen = true) :
    state.existing config intent = some release := by
  cases found : state.existing config intent with
  | none =>
      have refused := List.find?_eq_none.mp found release listed
      rw [matchesIntent_iff.mpr same, opened] at refused
      exact absurd rfl refused
  | some other =>
      rcases existing_eq_some found with ⟨otherListed, otherSame, otherOpen⟩
      rw [coherent.single other otherListed release listed (otherSame.trans same.symm)
        otherOpen opened]

theorem Coherent.created (coherent : Coherent state) {intent : Intent} {fresh : String}
    {previous : Option KubernetesRelease} (missing : state.existing config intent = none)
    (unused : fresh ∉ state.releases.map KubernetesRelease.operationId) {after : State}
    (rows : after.releases = .create config intent fresh previous :: state.releases) :
    Coherent after where
  unique := by
    rw [rows, List.map_cons]
    exact List.nodup_cons.mpr ⟨unused, coherent.unique⟩
  single := by
    have absent : forall release, release ∈ state.releases ->
        identity release = intentIdentity config intent -> release.isOpen = true -> False := by
      intro release listed same opened
      have found := coherent.existing_of_open listed same opened
      rw [missing] at found
      cases found
    intro first firstListed second secondListed same firstOpen secondOpen
    rw [rows] at firstListed secondListed
    rcases List.mem_cons.mp firstListed with firstNew | firstOld <;>
      rcases List.mem_cons.mp secondListed with secondNew | secondOld
    · rw [firstNew, secondNew]
    · exact (absent second secondOld (by rw [← same, firstNew]; rfl) secondOpen).elim
    · exact (absent first firstOld (by rw [same, secondNew]; rfl) firstOpen).elim
    · exact coherent.single first firstOld second secondOld same firstOpen secondOpen

theorem Coherent.reopened (coherent : Coherent state) {intent : Intent}
    {release : KubernetesRelease} (found : state.existing config intent = some release) :
    Coherent (state.reopen release.operationId) := by
  rcases existing_eq_some found with ⟨listed, _, opened⟩
  refine coherent.map rfl (fun other _ => ?_) (fun other otherListed otherOpen => ?_)
  · split <;> exact ⟨rfl, rfl⟩
  · split at otherOpen
    · rename_i own
      rw [coherent.eq_of_operationId otherListed listed own]
      exact opened
    · exact otherOpen

end Rows

theorem Coherent.step {config : ServiceConfig} {before after : State} {action : Action}
    (coherent : Coherent before) (move : Move config before action after) : Coherent after := by
  cases move with
  | answered => exact ⟨coherent.unique, coherent.single⟩
  | reopened call intent fresh release idle found settled =>
      have rows := coherent.reopened found
      exact ⟨rows.unique, rows.single⟩
  | created call intent fresh idle missing unused => exact coherent.created missing unused rfl
  | recorded call course release request result dispatching outcome =>
      have rows : Coherent (before.updateActive release.operationId fun current =>
          release.applyResult current result) :=
        coherent.updateActive fun _ => ⟨rfl, rfl⟩
      exact ⟨rows.unique, rows.single⟩
  | unavailable call course release request message dispatching outcome =>
      have rows : Coherent (before.updateActive release.operationId
          KubernetesRelease.applyUnavailable) :=
        coherent.updateActive fun _ => ⟨rfl, rfl⟩
      exact ⟨rows.unique, rows.single⟩
  | escaped => exact ⟨coherent.unique, coherent.single⟩
  | cancelled operationId accepted => exact coherent.updateActive fun _ => ⟨rfl, rfl⟩

theorem coherent_of_reachable {config : ServiceConfig} {state : State}
    (reached : (machine config).Reachable state) : Coherent state := by
  refine reached.invariant ?_ ?_
  · rintro start ⟨⟩
    exact ⟨List.nodup_nil, fun _ impossible => nomatch impossible⟩
  · intro before action after _ inductionHypothesis _ stepped
    exact inductionHypothesis.step (step_move stepped)

/-! ## Answers -/

/-- The step records a failure frame of the gateway as the result of an active
release. -/
def recordsFailureFrame (config : ServiceConfig) (state : State) : Action -> Bool
  | .finish call course =>
      match outstanding? (state.calls call) with
      | some operationId =>
          state.isActive operationId && course.synthesised config.target.agentId operationId
      | none => false
  | _ => false

/-- The guard of the runs in which retries keep their identity: a step does not record
a failure frame that the gateway has made as the answer to a release that is still
active. -/
def KeepsAnswers (config : ServiceConfig) (state : State) (action : Action) : Prop :=
  recordsFailureFrame config state action = false

instance (config : ServiceConfig) (state : State) (action : Action) :
    Decidable (KeepsAnswers config state action) :=
  inferInstanceAs (Decidable (_ = _))

/-- A row is closed only by the agent or by a cancellation. -/
def State.Answered (state : State) : Prop :=
  forall release, release ∈ state.releases -> release.isOpen = false ->
    release.status = .cancelled ∨ state.answers release.operationId = .given

section Answers

variable {config : ServiceConfig} {before after : State} {action : Action}

theorem recordAnswer_given {operationId : String} {course : Course}
    (given : before.answers operationId = .given) :
    before.recordAnswer config operationId course = .given := by
  unfold State.recordAnswer
  rw [given]
  split
  · split <;> rfl
  · rfl

/-- A result that is not a frame of the gateway is one of the agent. -/
theorem authored_of_ok {agentId operationId : String} {course : Course} {result : ReleaseResult}
    (outcome : runBackend agentId operationId course = .ok result)
    (kept : course.synthesised agentId operationId = false) :
    course.authored agentId operationId = true := by
  rcases result_of_runBackend outcome with ⟨found, last, _⟩
  unfold Course.synthesised at kept
  unfold Course.authored
  rw [last] at kept ⊢
  exact decide_eq_true (of_decide_eq_false kept)

/-- What a conditional update keeps of the rows that it does not write. -/
theorem State.Answered.updateActive (answered : before.Answered) {operationId : String}
    {answer : Answer} {change : KubernetesRelease -> KubernetesRelease}
    (revises : forall release, Revises release (change release))
    (given : before.answers operationId = .given -> answer = .given)
    (written : forall release, release ∈ before.releases -> release.operationId = operationId ->
      release.status.active = true -> (change release).isOpen = false ->
        (change release).status = .cancelled ∨ answer = .given) :
    ((before.setAnswer operationId answer).updateActive operationId change).Answered := by
  intro release listed closed
  rcases ((before.setAnswer operationId answer).mem_updateActive).mp listed with
    ⟨earlier, earlierListed, ⟨own, active, same⟩ | ⟨_, same⟩⟩
  · subst same
    rcases written earlier earlierListed own active closed with cancelled | answerGiven
    · exact .inl cancelled
    · refine .inr ?_
      change (before.setAnswer operationId answer).answers (change earlier).operationId = .given
      rw [(revises earlier).operationId, own, State.answers_setAnswer_self]
      exact answerGiven
  · subst same
    rcases answered earlier earlierListed closed with cancelled | earlierGiven
    · exact .inl cancelled
    · refine .inr ?_
      change (before.setAnswer operationId answer).answers earlier.operationId = .given
      by_cases own : earlier.operationId = operationId
      · rw [own, State.answers_setAnswer_self]
        exact given (own ▸ earlierGiven)
      · rw [State.answers_setAnswer_ne _ own]
        exact earlierGiven

theorem State.Answered.step (answered : before.Answered)
    (allowed : KeepsAnswers config before action) (move : Move config before action after) :
    after.Answered := by
  cases move with
  | answered => exact answered
  | reopened call intent fresh release idle found settled =>
      intro other listed closed
      rcases List.mem_map.mp listed with ⟨earlier, earlierListed, same⟩
      split at same
      · subst same
        cases closed
      · rename_i different
        subst same
        rcases answered earlier earlierListed closed with cancelled | given
        · exact .inl cancelled
        · exact .inr ((State.answers_setAnswer_ne _ different _).trans given)
  | created call intent fresh idle missing unused =>
      intro other listed closed
      rcases List.mem_cons.mp listed with new | old
      · subst new
        cases closed
      · have different : other.operationId ≠ fresh := fun same =>
          unused (List.mem_map.mpr ⟨other, old, same⟩)
        rcases answered other old closed with cancelled | given
        · exact .inl cancelled
        · exact .inr ((State.answers_setAnswer_ne _ different _).trans given)
  | recorded call course release request result dispatching outcome =>
      refine State.Answered.updateActive answered (fun _ => ⟨rfl, rfl⟩) recordAnswer_given ?_
      intro earlier listed own active _
      have isActive : before.isActive release.operationId = true :=
        before.isActive_iff.mpr ⟨earlier, listed, own, active⟩
      have kept : course.synthesised config.target.agentId release.operationId = false := by
        unfold KeepsAnswers recordsFailureFrame at allowed
        simp only [dispatching, outstanding?, isActive, Bool.true_and] at allowed
        exact allowed
      refine .inr ?_
      unfold State.recordAnswer
      rw [authored_of_ok outcome kept, isActive]
      rfl
  | unavailable call course release request message dispatching outcome =>
      refine State.Answered.updateActive answered (fun _ => ⟨rfl, rfl⟩) recordAnswer_given ?_
      intro earlier listed own active closed
      have opened : (KubernetesRelease.applyUnavailable earlier).isOpen = true :=
        isOpen_of_recoverable "AGENT_UNAVAILABLE" rfl rfl (by decide)
      rw [opened] at closed
      cases closed
  | escaped call course release request error dispatching outcome other =>
      intro earlier listed closed
      rcases answered earlier listed closed with cancelled | given
      · exact .inl cancelled
      · refine .inr ?_
        change (before.setAnswer release.operationId _).answers earlier.operationId = .given
        by_cases own : earlier.operationId = release.operationId
        · rw [own, State.answers_setAnswer_self]
          exact recordAnswer_given (own ▸ given)
        · rw [State.answers_setAnswer_ne _ own]
          exact given
  | cancelled operationId accepted =>
      intro release listed closed
      rcases before.mem_updateActive.mp listed with
        ⟨earlier, earlierListed, ⟨own, active, same⟩ | ⟨_, same⟩⟩
      · subst same
        cases accepted with
        | true => exact .inl rfl
        | false =>
            have opened : (KubernetesRelease.applyCancel false earlier).isOpen = true :=
              isOpen_of_recoverable "CANCEL_UNAVAILABLE" rfl rfl (by decide)
            rw [opened] at closed
            cases closed
      · subst same
        exact answered earlier earlierListed closed

end Answers

theorem answered_of_reachable {config : ServiceConfig} {state : State}
    (reached : (machine config).ReachableUnder (KeepsAnswers config) state) : state.Answered := by
  refine reached.invariant ?_ ?_
  · rintro start ⟨⟩ release impossible
    cases impossible
  · intro before action after _ inductionHypothesis allowed stepped
    exact inductionHypothesis.step allowed (step_move stepped)

/-- In every run that records no failure frame of the gateway for an active
release: once a dispatch of a release has ended without a result of the agent,
and the release was not cancelled, every later `start_release` of the same
identity is answered with that row and its operation id, and creates no row. -/
theorem retry_identity (config : ServiceConfig) (state : State)
    (reached : (machine config).ReachableUnder (KeepsAnswers config) state)
    (release : KubernetesRelease) (listed : release ∈ state.releases)
    (missing : state.answers release.operationId = .missing)
    (uncancelled : release.status ≠ .cancelled) (intent : Intent)
    (same : identity release = intentIdentity config intent) (call : Nat)
    (idle : state.calls call = .idle) (fresh : String) :
    Exists fun after : State => step config state (.start call intent fresh) = some after ∧
      operation? (after.calls call) = some release.operationId ∧
      after.releases.map KubernetesRelease.operationId =
        state.releases.map KubernetesRelease.operationId := by
  have opened : release.isOpen = true := by
    by_contra closed
    rcases answered_of_reachable reached release listed (Bool.eq_false_of_not_eq_true closed) with
      cancelled | given
    · exact uncancelled cancelled
    · rw [missing] at given
      cases given
  have found := (coherent_of_reachable reached.reachable).existing_of_open listed same opened
  simp only [step, State.start, idle, if_true, found]
  by_cases active : release.status.active = true
  · rw [if_pos active]
    refine ⟨_, rfl, ?_, rfl⟩
    rw [State.calls_setCall_self]
    rfl
  · rw [if_neg active]
    refine ⟨_, rfl, ?_, ?_⟩
    · rw [State.calls_setAnswer, State.calls_setCall_self]
      rfl
    · change (List.map _ state.releases).map _ = _
      rw [List.map_map]
      refine List.map_congr_left fun other _ => ?_
      change (if _ then _ else _ : KubernetesRelease).operationId = _
      split <;> rfl

/-! ## The failure frames of the gateway -/

theorem runBackend_of_synthesised {agentId operationId : String} {course : Course}
    (made : course.synthesised agentId operationId = true) :
    Exists fun result : ReleaseResult =>
      runBackend agentId operationId course = .ok result ∧ result.status = "failed" ∧
        Exists fun code : FailureCode => result.errorCode = code.text := by
  cases last : course.result? agentId operationId with
  | none =>
      rw [Course.synthesised, last] at made
      cases made
  | some found =>
      rw [Course.synthesised, last] at made
      rcases Course.result_gateway last (of_decide_eq_true made) with ⟨failed, _, code⟩
      cases course with
      | served gatewayConfig gateway deliveries =>
          simp only [Course.result?] at last
          split at last
          · cases last
          · rename_i accepted
            refine ⟨⟨found.2.status, nonzero found.2.helmRevision,
              nonzero found.2.previousRevision, found.2.rollbackStatus, found.2.errorCode⟩,
              ?_, failed, code⟩
            simp only [runBackend, Option.not_isSome_iff_eq_none.mp accepted, collect, last,
              throughFuture]
      | _ => cases last

/-- The condition on runs is exact: a step that does not meet it closes the row
of an unanswered release, and the next start of its identity creates another
row under another operation id. -/
theorem second_row_of_failureFrame {config : ServiceConfig} {before after : State}
    {call : Nat} {course : Course} (coherent : Coherent before)
    (stepped : step config before (.finish call course) = some after)
    (records : recordsFailureFrame config before (.finish call course) = true) :
    Exists fun release : KubernetesRelease => release ∈ after.releases ∧
      release.status = .failed ∧
      forall (intent : Intent) (fresh : String) (retry : Nat), after.calls retry = .idle ->
        identity release = intentIdentity config intent ->
        fresh ∉ after.releases.map KubernetesRelease.operationId ->
        Exists fun later : State => step config after (.start retry intent fresh) = some later ∧
          operation? (later.calls retry) = some fresh := by
  have later : Coherent after := coherent.step (step_move stepped)
  unfold recordsFailureFrame at records
  cases phase : before.calls call with
  | dispatching release request =>
      simp only [phase, outstanding?, Bool.and_eq_true] at records
      rcases before.isActive_iff.mp records.1 with ⟨row, listed, own, active⟩
      rcases runBackend_of_synthesised records.2 with ⟨result, outcome, failed, code, errorCode⟩
      simp only [step, State.finish, phase, outcome, Option.some.injEq] at stepped
      have written : release.applyResult row result ∈ after.releases := by
        subst stepped
        exact (State.mem_updateActive _).mpr ⟨row, listed, .inl ⟨own, active, rfl⟩⟩
      have status : (release.applyResult row result).status = .failed := by
        change ReleaseStatus.ofResult result.status = .failed
        rw [failed]
        decide
      have closed : (release.applyResult row result).isOpen = false := by
        have unlisted : truncate 48 code.text ∉ recoverableErrors := by
          cases code <;> decide +kernel
        unfold KubernetesRelease.isOpen
        rw [status]
        change (_ || (_ && decide (truncate 48 result.errorCode ∈ recoverableErrors))) = false
        rw [errorCode, decide_eq_false unlisted]
        rfl
      refine ⟨_, written, status, fun intent fresh retry idle same unused => ?_⟩
      have missing : after.existing config intent = none := by
        cases found : after.existing config intent with
        | none => rfl
        | some other =>
            exfalso
            rcases existing_eq_some found with ⟨otherListed, otherSame, otherOpen⟩
            have earlier : other ∈ before.releases := by
              subst stepped
              rcases (State.mem_updateActive _).mp otherListed with
                ⟨origin, _, ⟨_, _, changed⟩ | ⟨_, kept⟩⟩
              · subst changed
                have shut : (release.applyResult origin result).isOpen =
                    (release.applyResult row result).isOpen := rfl
                rw [shut, closed] at otherOpen
                cases otherOpen
              · subst kept
                assumption
            have rowSame : identity other = identity row := by
              rw [otherSame, ← same]
              rfl
            have equal := coherent.single other earlier row listed rowSame otherOpen
              (isOpen_of_active active)
            have sameRow := later.eq_of_operationId otherListed written
              (by rw [equal]; rfl)
            rw [sameRow, closed] at otherOpen
            cases otherOpen
      simp only [step, State.start, idle, if_true, missing]
      have absent : (after.releases.map KubernetesRelease.operationId).contains fresh = false := by
        by_contra present
        exact unused (List.contains_iff_mem.mp (Bool.eq_true_of_not_eq_false present))
      rw [if_neg (by rw [absent]; exact Bool.false_ne_true)]
      refine ⟨_, rfl, ?_⟩
      rw [State.calls_setAnswer, State.calls_setCall_self]
      rfl
  | _ =>
      simp only [phase, outstanding?] at records
      cases records

/-! ## A target of the agent `alpha` -/

/-- The digest is an injective function with the value of SHA-256 at the empty
values. -/
def sampleService : ServiceConfig where
  target := ⟨"alpha", "shop", "shop", "file:shop"⟩
  sha256 := Equiv.swap "\x7b\x7d"
    "44136fa355b3678a1146ad16f7e8649e94fb4fc21fe77e8310c060f61caaff8a"

def sampleIntent : Intent :=
  ⟨"registry.example/shop@sha256:" ++ String.ofList (List.replicate 64 'a'), "0.1.0", "\x7b\x7d",
    "unknown"⟩

def sampleRelease (operationId : String) : KubernetesRelease :=
  .create sampleService sampleIntent operationId none

/-- The agent connects. -/
def connecting : List Gateway.Action :=
  [.connect 0, .firstFrame 0 (some (helloOf "alpha" "alpha-token")), .register 0]

/-- Its stream is lost while a job runs, and the consumer reads to the end. -/
def losing (operationId : String) : List Gateway.Action :=
  [.openKubernetes 0 "alpha" (releaseRequest sampleService sampleIntent (sampleRelease operationId)),
    .yieldControl 0, .cancelStream 0, .closed 0, .disconnect 0, .failNext 0, .deliver 0,
    .advance 0, .finalise 0]

/-- The state of the gateway after some actions. -/
def gatewayAfter (actions : List Gateway.Action) : Gateway.State :=
  ((Gateway.machine .pair).replay (fun _ _ => True) .initial actions).getD .initial

/-- A dispatch whose stream is lost. -/
def lostCourse (operationId : String) : Course :=
  .served .pair (gatewayAfter connecting)
    ((gatewayAfter (connecting ++ losing operationId)).calls 0).received

/-- After a timeout, the retry is answered with the row that timed out. -/
theorem retry_identity_timeout :
    Exists fun state : State => Exists fun after : State =>
      step sampleService state (.start 1 sampleIntent "k8s-2") = some after ∧
        operation? (after.calls 1) = some "k8s-1" := by
  rcases (machine sampleService).exists_reachableUnder_of_replay (KeepsAnswers sampleService)
    [.start 0 sampleIntent "k8s-1", .finish 0 .timedOut] .initial rfl
    (fun state =>
      state.releases = [(sampleRelease "k8s-1").applyUnavailable] ∧
        state.answers "k8s-1" = .missing ∧ state.calls 1 = .idle)
    (by decide +kernel) with ⟨state, reached, tested⟩
  rcases of_decide_eq_true tested with ⟨rows, missing, idle⟩
  rcases retry_identity sampleService state reached (sampleRelease "k8s-1").applyUnavailable
    (by rw [rows]; exact .head _) missing (by decide) sampleIntent rfl 1 idle "k8s-2" with
    ⟨after, stepped, same, _⟩
  exact ⟨state, after, stepped, same⟩

/-- The stream is lost during a dispatch.  The gateway yields one failure
frame, the release fails with `AGENT_DISCONNECTED`, and the retry creates a
second row under a fresh operation id. -/
theorem retry_second_row :
    Exists fun state : State => (machine sampleService).Reachable state ∧
      ((gatewayAfter (connecting ++ losing "k8s-1")).calls 0).received =
        [.failure .kubernetes "k8s-1" 1 .agentDisconnected] ∧
      state.releases.map (fun release =>
          (release.operationId, release.status, release.errorCode)) =
        [("k8s-2", .validating, ""), ("k8s-1", .failed, "AGENT_DISCONNECTED")] ∧
      state.answers "k8s-1" = .missing ∧ operation? (state.calls 1) = some "k8s-2" := by
  rcases (machine sampleService).exists_reachableUnder_of_replay (fun _ _ => True)
    [.start 0 sampleIntent "k8s-1", .finish 0 (lostCourse "k8s-1"),
      .start 1 sampleIntent "k8s-2"] .initial rfl
    (fun state =>
      ((gatewayAfter (connecting ++ losing "k8s-1")).calls 0).received =
          [.failure .kubernetes "k8s-1" 1 .agentDisconnected] ∧
        state.releases.map (fun release =>
            (release.operationId, release.status, release.errorCode)) =
          [("k8s-2", .validating, ""), ("k8s-1", .failed, "AGENT_DISCONNECTED")] ∧
        state.answers "k8s-1" = .missing ∧ operation? (state.calls 1) = some "k8s-2")
    (by decide +kernel) with ⟨state, reached, tested⟩
  exact ⟨state, reached, of_decide_eq_true tested⟩

end Service
end ControlPlane
end DjangoOps
