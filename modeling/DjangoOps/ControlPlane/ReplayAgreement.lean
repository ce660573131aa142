import DjangoOps.ControlPlane.Replay

namespace DjangoOps
namespace Agent

open Protocol

/-! ## The requests that the agent holds -/

/-- The agent works on a release request, or has worked on it. -/
def State.Holds (state : State) (request : KubernetesReleaseRequest) : Prop :=
  state.loop = .examined (.kubernetes request) ∨
    (Exists fun worker : Nat => state.loop = .admitted request worker ∨
      state.loop = .begun request worker) ∨
    Exists fun worker : Nat => (state.workers worker).request = .kubernetes request

section Holds

variable {config : AgentConfig} {before after : State} {action : Action} {events : List Event}
  {request : KubernetesReleaseRequest}

theorem holds_of_worker (stepped : step config before action = some (after, events))
    {worker : Nat} (own : (after.workers worker).request = .kubernetes request) :
    before.Holds request := by
  have move := step_worker_move stepped worker
  generalize after.workers worker = record at move own
  cases move with
  | prepared carried release kind loop fresh =>
      change carried = .kubernetes request at own
      rw [own] at loop
      exact .inl loop
  | diagnosing carried diagnostics kind loop fresh =>
      change carried = .kubernetes request at own
      rw [own] at kind
      cases kind
  | _ => exact .inr (.inr ⟨worker, own⟩)

/-- The agent comes by a release request by receiving it. -/
theorem holds_step (stepped : step config before action = some (after, events))
    (holds : after.Holds request) :
    before.Holds request ∨ action = .receive (.kubernetesRelease request) := by
  rcases holds with examined | ⟨worker, admitted | begun⟩ | ⟨worker, own⟩
  · have move := step_loop_move stepped
    rw [examined] at move
    generalize loop : LoopPhase.examined (.kubernetes request) = place at move
    cases move with
    | same => exact .inl (.inl loop.symm)
    | examined frame carried waiting request? safe =>
        cases loop
        cases frame with
        | kubernetesRelease release =>
            cases request?
            exact .inr rfl
        | _ => cases request?
    | _ => cases loop
  · have move := step_loop_move stepped
    rw [admitted] at move
    generalize loop : LoopPhase.admitted request worker = place at move
    cases move with
    | same => exact .inl (.inr (.inl ⟨worker, .inl loop.symm⟩))
    | admitted release _ earlier own =>
        cases loop
        exact .inl (.inl earlier)
    | _ => cases loop
  · have move := step_loop_move stepped
    rw [begun] at move
    generalize loop : LoopPhase.begun request worker = place at move
    cases move with
    | same => exact .inl (.inr (.inl ⟨worker, .inr loop.symm⟩))
    | begun release _ io earlier own =>
        cases loop
        exact .inl (.inr (.inl ⟨worker, .inl earlier⟩))
    | _ => cases loop
  · exact .inl (holds_of_worker stepped own)

end Holds
end Agent

namespace ControlPlane
namespace Replay

open Protocol Gateway Service

universe u

/-!
# Replays are recognised by the agent

The service and one agent, which takes the requests that the runtime backend
sends, any number of times and in any order, and requests of other origin whose
job ids are not operation ids of releases.
-/

variable {Number : Type u}

/-- The release service and the agent that its requests reach. -/
structure State where
  service : Lifecycle.State
  agent : Agent.State

inductive Action
  | service (action : Lifecycle.Action)
  | agent (action : Agent.Action)

def step (setting : Lifecycle.Setting) (config : Agent.AgentConfig) (state : State) :
    Action -> Option State
  | .service action =>
      (Lifecycle.step setting state.service action).map fun service =>
        { state with service := service }
  | .agent action =>
      (Agent.step config state.agent action).map fun result => { state with agent := result.1 }

/-- A service without releases, and an agent that has never run. -/
def machine (setting : Lifecycle.Setting) (config : Agent.AgentConfig) :
    Transition.Machine State Action where
  initial := fun state => state = ⟨.initial, .initial⟩
  step := step setting config

/-- A request as the runtime backend sends it. -/
def Sent (python : Python Number) (service : Lifecycle.State)
    (request : KubernetesReleaseRequest) : Prop :=
  Exists fun target : Nat => Exists fun token : String =>
    Exists fun offered : KubernetesReleaseRequest => offered ∈ service.requests target ∧
      correlate python token offered = .ok request

/-- Starts come through the validation, and the agent is sent requests of the service
under the operation ids that the service draws. -/
def Conforms (python : Python Number) (state : State) : Action -> Prop
  | .service action => Lifecycle.Offered python state.service action
  | .agent (.receive (.kubernetesRelease request)) =>
      Sent python state.service request ∨ ¬ Lifecycle.Drawn request.jobId
  | .agent _ => True

structure State.Sound (python : Python Number) (setting : Lifecycle.Setting)
    (config : Agent.AgentConfig) (state : State) : Prop where
  rows : state.service.Sound setting
  consistent : state.service.Consistent python setting
  ledger : Agent.Invariant config state.agent
  received : forall request, state.agent.Holds request -> Lifecycle.Drawn request.jobId ->
    Sent python state.service request

section Run

variable {python : Python Number} {setting : Lifecycle.Setting} {config : Agent.AgentConfig}
  {before after : State} {action : Action}

theorem Sent.mono {service later : Lifecycle.State} {statement : Lifecycle.Action}
    (move : Lifecycle.Move setting service statement later) {request : KubernetesReleaseRequest}
    (sent : Sent python service request) : Sent python later request := by
  rcases sent with ⟨target, token, offered, listed, correlated⟩
  refine ⟨target, token, offered, ?_, correlated⟩
  cases move with
  | dispatched call written intent release phase =>
      change offered ∈ Function.update service.requests written _ target
      by_cases own : target = written
      · subst own
        rw [Function.update_self]
        exact .tail _ listed
      · rwa [Function.update_of_ne own]
  | _ => exact listed

theorem State.Sound.step (sound : before.Sound python setting config)
    (conforms : Conforms python before action)
    (stepped : Replay.step setting config before action = some after) :
    after.Sound python setting config := by
  cases action with
  | service statement =>
      rcases Option.map_eq_some_iff.mp stepped with ⟨service, taken, rfl⟩
      have move := Lifecycle.step_move taken
      exact
        { rows := sound.rows.step move
          consistent := sound.consistent.step sound.rows conforms move
          ledger := sound.ledger
          received := fun request holds drawn => (sound.received request holds drawn).mono move }
  | agent statement =>
      rcases Option.map_eq_some_iff.mp stepped with ⟨⟨agent, events⟩, taken, rfl⟩
      refine
        { rows := sound.rows, consistent := sound.consistent
          ledger := ⟨sound.ledger.accounted.step sound.ledger.placed taken,
            sound.ledger.placed.step taken⟩
          received := fun request holds drawn => ?_ }
      rcases Agent.holds_step taken holds with earlier | received
      · exact sound.received request earlier drawn
      · subst received
        rcases conforms with sent | foreign
        · exact sent
        · exact absurd drawn foreign

theorem sound_of_reachable {state : State}
    (reached : (machine setting config).ReachableUnder (Conforms python) state) :
    state.Sound python setting config := by
  refine reached.invariant ?_ ?_
  · rintro start ⟨⟩
    refine
      { rows := Lifecycle.sound_initial setting
        consistent := Lifecycle.consistent_initial python setting
        ledger := ⟨.initial config, .initial⟩
        received := fun request holds _ => ?_ }
    rcases holds with impossible | ⟨_, impossible | impossible⟩ | ⟨_, impossible⟩ <;>
      cases impossible
  · intro earlier action later _ inductionHypothesis conforms stepped
    exact inductionHypothesis.step conforms stepped

end Run

/-! ## Agreement -/

/-- No two requests of a target carry different values with one digest. -/
def NoCollision (setting : Lifecycle.Setting) (service : Lifecycle.State) : Prop :=
  forall target first second, first ∈ service.requests target ->
    second ∈ service.requests target ->
      setting.sha256 first.valuesJson = setting.sha256 second.valuesJson ->
        first.valuesJson = second.valuesJson

section Agreement

variable {python : Python Number} {setting : Lifecycle.Setting}

/-- What a correlated request shares with the one that was offered. -/
theorem correlate_ok {token : String} {offered request : KubernetesReleaseRequest}
    (correlated : correlate python token offered = .ok request) :
    Exists fun valuesJson : String =>
      injectReleaseCorrelation python token offered.valuesJson offered.jobId = .ok valuesJson ∧
        request = { offered with valuesJson := valuesJson } := by
  rcases bind_eq_ok correlated with ⟨valuesJson, injected, made⟩
  cases made
  exact ⟨valuesJson, injected, rfl⟩

/-- The requests of one row are made of the same values. -/
theorem offered_agree {service : Lifecycle.State} (rows : service.Sound setting)
    (consistent : service.Consistent python setting)
    (noCollision : NoCollision setting service) {target other : Nat}
    {first second : KubernetesReleaseRequest} (firstSent : first ∈ service.requests target)
    (secondSent : second ∈ service.requests other) (same : first.jobId = second.jobId) :
    first = second ∧ Lifecycle.Drawn first.jobId ∧
      Exists fun clean : List (String × Json Number) => (Json.object clean).Distinct ∧
        first.valuesJson = Json.dumps python.numerals (.object clean) := by
  rcases consistent.requested target first firstSent with
    ⟨row, listed, intent, ⟨arguments, accepted⟩, identified, rfl⟩
  rcases consistent.requested other second secondSent with
    ⟨twin, twinListed, theirs, ⟨theirArguments, theirAccepted⟩, theirIdentified, rfl⟩
  have oneTarget := rows.owned target other row twin listed twinListed same
  subst oneTarget
  have oneRow := (rows.coherent target).eq_of_operationId listed twinListed same
  subst oneRow
  rw [identified] at theirIdentified
  unfold intentIdentity at theirIdentified
  rw [Prod.mk.injEq, Prod.mk.injEq] at theirIdentified
  have values : intent.values = theirs.values :=
    noCollision target _ _ firstSent secondSent theirIdentified.2.2
  have compatibility := compatibility_of_values accepted theirAccepted values
  rcases startIntent_ok accepted with ⟨clean, sanitized, _, _, made⟩
  refine ⟨?_, (consistent.rooted target row listed).1, clean,
    (sanitizeValues_ok arguments.distinct sanitized).1, ?_⟩
  · unfold releaseRequest
    rw [theirIdentified.1, values, compatibility]
  · exact congrArg Intent.values made

/-- What is sent for one operation id is one request. -/
theorem sent_agree {service : Lifecycle.State} (rows : service.Sound setting)
    (consistent : service.Consistent python setting)
    (noCollision : NoCollision setting service)
    {first second : KubernetesReleaseRequest} (firstSent : Sent python service first)
    (secondSent : Sent python service second) (same : first.jobId = second.jobId) :
    first = second := by
  rcases firstSent with ⟨target, token, offered, listed, correlated⟩
  rcases secondSent with ⟨other, draw, twin, twinListed, twinCorrelated⟩
  rcases correlate_ok correlated with ⟨values, injected, rfl⟩
  rcases correlate_ok twinCorrelated with ⟨theirValues, theirInjected, rfl⟩
  rcases offered_agree rows consistent noCollision listed twinListed same with ⟨rfl, drawn, _⟩
  rw [injectReleaseCorrelation_token python _ drawn.nonempty token draw, theirInjected] at injected
  cases injected
  rfl

/-- An entry that the agent finds under an operation id carries the fingerprint
of the request. -/
theorem State.Sound.fingerprint_of_entry {state : State} {config : Agent.AgentConfig}
    (sound : state.Sound python setting config) (noCollision : NoCollision setting state.service)
    {request : KubernetesReleaseRequest} (held : state.agent.Holds request)
    (drawn : Lifecycle.Drawn request.jobId) {job : Agent.PersistedJob}
    (found : state.agent.ledger.lookup request.jobId = some job) :
    job.fingerprint = Agent.kubernetesFingerprint config.sha256 request := by
  rcases sound.ledger.accounted.written request.jobId job found with ⟨worker, release, wrote⟩
  have theirs : state.agent.Holds release := .inr (.inr ⟨worker, wrote.request⟩)
  have theirsDrawn : Lifecycle.Drawn release.jobId := wrote.named ▸ drawn
  have same := sent_agree sound.rows sound.consistent noCollision
    (sound.received release theirs theirsDrawn) (sound.received request held drawn) wrote.named
  rw [wrote.fingerprint, same]

end Agreement

/-- `values_digest` of the values of a call, as `start_release` computes it. -/
def digest (python : Python Number) (setting : Lifecycle.Setting) (arguments : Arguments Number) :
    Except PyException String :=
  (startIntent python arguments).map fun intent => setting.sha256 intent.values

/-- SHA-256 tells the values of two accepted calls apart. -/
def Separates (python : Python Number) (setting : Lifecycle.Setting)
    (first second : Arguments Number) : Prop :=
  forall left right : Intent, startIntent python first = .ok left ->
    startIntent python second = .ok right ->
      setting.sha256 left.values = setting.sha256 right.values -> left.values = right.values

/-- A call without a block and the same call with nothing but a correlation id
in its block have different digests, when the first is accepted. -/
theorem digest_ne_of_bare {python : Python Number} {setting : Lifecycle.Setting}
    {first second : Arguments Number} (same : SameButCorrelation first second) (bare : first.Bare)
    (present : ¬ second.Bare) (separates : Separates python setting first second) {left : Intent}
    (accepted : startIntent python first = .ok left) :
    digest python setting first ≠ digest python setting second := by
  rcases startIntent_of_bare python same bare present accepted with ⟨right, other, different⟩
  unfold digest
  rw [accepted, other]
  intro equal
  exact different (separates left right accepted other (Except.ok.inj equal))

/-- What decides whether the digest depends on the correlation id of a client. -/
theorem digest_eq_iff {python : Python Number} {setting : Lifecycle.Setting}
    {first second : Arguments Number} (same : SameButCorrelation first second)
    (separates : Separates python setting first second) {left right : Intent}
    (firstAccepted : startIntent python first = .ok left)
    (secondAccepted : startIntent python second = .ok right) :
    digest python setting first = digest python setting second <->
      (first.Bare <-> second.Bare) := by
  constructor
  · intro equal
    constructor
    · intro bare
      by_contra present
      exact digest_ne_of_bare same bare present separates firstAccepted equal
    · intro bare
      by_contra present
      refine digest_ne_of_bare same.symm bare present ?_ secondAccepted equal.symm
      exact fun left right leftOk rightOk hashes =>
        (separates right left rightOk leftOk hashes.symm).symm
  · intro alike
    unfold digest
    rw [startIntent_of_sameButCorrelation python same alike]

/-- In every run in which starts come through the validation and the agent
echoes the previous revision or zero: any two requests made for one row are
correlated without an error, whatever `secrets` draws, and agree in the eleven
fields of the fingerprint.  So the agent never finds another fingerprint under
an operation id, and answers with the stored result or asks for recovery.
Every row has the digest of accepted arguments, and the digest is computed
without an operation id.

Two calls that differ in the correlation id of the client only have the same
digest when both or none of them have an observability block with members, and
are refused alike in this case; accepted calls have the same digest in no other
case.  A block in which the client has supplied nothing but a correlation id is
stored as a block that is switched off, while no block is stored for an empty
one, so this id alone turns a retry into a new release. -/
theorem replays_agree (python : Python Number) (setting : Lifecycle.Setting)
    (config : Agent.AgentConfig) (state : State)
    (reached : (machine setting config).ReachableUnder (Conforms python) state)
    (noCollision : NoCollision setting state.service) :
    (forall (target : Nat) (first second : KubernetesReleaseRequest) (token draw : String),
      first ∈ state.service.requests target -> second ∈ state.service.requests target ->
        first.jobId = second.jobId ->
          Exists fun left : KubernetesReleaseRequest =>
            Exists fun right : KubernetesReleaseRequest =>
              correlate python token first = .ok left ∧ correlate python draw second = .ok right ∧
                Agent.SameOperation left right) ∧
      (forall (request : KubernetesReleaseRequest) (worker : Nat) (job : Agent.PersistedJob),
        state.agent.loop = .admitted request worker -> Lifecycle.Drawn request.jobId ->
          state.agent.ledger.lookup request.jobId = some job ->
            Agent.answerExisting job (Agent.kubernetesFingerprint config.sha256 request) =
              match job.state, job.result with
              | .completed, some result => result
              | _, _ => .failed "RECOVERY_REQUIRED") ∧
      (forall (target : Nat) (release : KubernetesRelease),
        release ∈ state.service.releases target ->
          Exists fun arguments : Arguments Number =>
            digest python setting arguments = .ok release.valuesDigest) ∧
      (forall first second : Arguments Number, SameButCorrelation first second ->
        (first.Bare <-> second.Bare) ->
          digest python setting first = digest python setting second) ∧
      forall (first second : Arguments Number) (left right : Intent),
        SameButCorrelation first second -> Separates python setting first second ->
          startIntent python first = .ok left -> startIntent python second = .ok right ->
            (digest python setting first = digest python setting second <->
              (first.Bare <-> second.Bare)) := by
  have sound := sound_of_reachable reached
  refine ⟨?_, ?_, ?_, ?_, ?_⟩
  · intro target first second token draw firstSent secondSent same
    rcases offered_agree sound.rows sound.consistent noCollision firstSent secondSent same with
      ⟨rfl, drawn, clean, distinct, written⟩
    rcases injectReleaseCorrelation_ok python token first.jobId distinct with ⟨values, injected⟩
    rw [← written] at injected
    have again := injected
    rw [injectReleaseCorrelation_token python _ drawn.nonempty token draw] at again
    refine ⟨{ first with valuesJson := values }, { first with valuesJson := values }, ?_, ?_,
      ⟨rfl, rfl, rfl, rfl, rfl, rfl, rfl, rfl, rfl, rfl, rfl⟩⟩
    · unfold correlate
      rw [injected]
      rfl
    · unfold correlate
      rw [again]
      rfl
  · intro request worker job loop drawn found
    have fingerprint := sound.fingerprint_of_entry noCollision
      (.inr (.inl ⟨worker, .inl loop⟩)) drawn found
    unfold Agent.answerExisting
    exact if_neg (not_not.mpr fingerprint)
  · intro target release listed
    rcases sound.consistent.rooted target release listed with
      ⟨_, intent, ⟨arguments, accepted⟩, same⟩
    refine ⟨arguments, ?_⟩
    unfold digest
    rw [accepted]
    exact congrArg Except.ok (congrArg (fun key => key.2.2) same).symm
  · intro first second same alike
    unfold digest
    rw [startIntent_of_sameButCorrelation python same alike]
  · intro first second left right same separates firstAccepted secondAccepted
    exact digest_eq_iff same separates firstAccepted secondAccepted

/-! ## A replay after a crash of the agent -/

theorem noCollision_of_injective {setting : Lifecycle.Setting} (service : Lifecycle.State)
    (injective : Function.Injective setting.sha256) : NoCollision setting service :=
  fun _ _ _ _ _ same => injective same

/-- The endpoint of the sample, as `urlsplit` takes it apart. -/
def samplePython : Python Int where
  numerals := .decimal
  repr := fun _ => ""
  urlsplit := fun _ => .ok ⟨"http", some "otel", none, none, "", ""⟩

/-- A call with an empty observability block. -/
def bareArguments : Arguments Int where
  image := sampleIntent.image
  values := [("observability", .object [])]
  chartVersion := "0.1.0"
  distinct := by
    refine .object _ (List.nodup_singleton _) fun member listed => ?_
    rw [List.mem_singleton.mp listed]
    exact .object _ List.nodup_nil fun _ impossible => nomatch impossible

/-- The same call with a correlation id in the block. -/
def correlatedArguments : Arguments Int where
  image := sampleIntent.image
  values := [("observability", .object [("correlationId", .string "mine")])]
  chartVersion := "0.1.0"
  distinct := by
    refine .object _ (List.nodup_singleton _) fun member listed => ?_
    rw [List.mem_singleton.mp listed]
    refine .object _ (List.nodup_singleton _) fun inner innerListed => ?_
    rw [List.mem_singleton.mp innerListed]
    exact .string "mine"

/-- Both calls are accepted, they differ in the correlation id only, and the
digests of their values are different. -/
theorem digest_depends_on_correlation :
    SameButCorrelation bareArguments correlatedArguments ∧
      Exists fun left : String => Exists fun right : String =>
        digest samplePython Lifecycle.sampleSetting bareArguments = .ok left ∧
          digest samplePython Lifecycle.sampleSetting correlatedArguments = .ok right ∧
          left ≠ right := by
  have bare : startIntent samplePython bareArguments =
      .ok { sampleIntent with values := "\x7b\x7d" } := by
    decide +kernel
  have correlated : startIntent samplePython correlatedArguments =
      .ok { sampleIntent with
        values := "\x7b\"observability\":\x7b\"enabled\":false\x7d\x7d" } := by
    decide +kernel
  refine ⟨⟨rfl, rfl, rfl, _, _, rfl, rfl, rfl⟩, _, _, congrArg _ bare, congrArg _ correlated, ?_⟩
  have injective : Function.Injective Lifecycle.sampleSetting.sha256 := Equiv.injective _
  exact fun same => absurd (injective same) (by decide)

/-- The observability block is on, and the client has supplied a correlation id. -/
def observedArguments : Arguments Int where
  image := sampleIntent.image
  values := [("observability", .object [("enabled", .bool true),
    ("otlpEndpoint", .string "http://otel:4318"), ("correlationId", .string "mine")])]
  chartVersion := "0.1.0"
  distinct := by
    refine .object _ (List.nodup_singleton _) fun member listed => ?_
    rw [List.mem_singleton.mp listed]
    refine .object _ (by decide) fun inner innerListed => ?_
    simp only [List.mem_cons, List.not_mem_nil, or_false] at innerListed
    rcases innerListed with rfl | rfl | rfl
    · exact .bool true
    · exact .string _
    · exact .string _

def observedIntent : Intent :=
  { sampleIntent with
    values := "\x7b\"observability\":\x7b\"correlationId\":\"\",\"enabled\":true," ++
      "\"otlpEndpoint\":\"http://otel:4318\",\"serviceNamespace\":\"djangoops\"\x7d\x7d" }

theorem startIntent_observed : startIntent samplePython observedArguments = .ok observedIntent := by
  decide +kernel

def observedId : String := "k8s-0123456789abcdef0123"

def offeredRequest : KubernetesReleaseRequest :=
  releaseRequest sampleService observedIntent
    (.create sampleService observedIntent observedId none)

/-- The request as the agent gets it, with its own id in the block. -/
def observedRequest : KubernetesReleaseRequest :=
  { offeredRequest with
    valuesJson := "\x7b\"observability\":\x7b\"correlationId\":\"k8s-0123456789abcdef0123\"," ++
      "\"enabled\":true,\"otlpEndpoint\":\"http://otel:4318\"," ++
        "\"serviceNamespace\":\"djangoops\"\x7d\x7d" }

theorem correlate_observed (token : String) :
    correlate samplePython token offeredRequest = .ok observedRequest := by
  have injected : injectReleaseCorrelation samplePython "" offeredRequest.valuesJson observedId =
      .ok observedRequest.valuesJson := by
    decide +kernel
  rw [injectReleaseCorrelation_token samplePython _ (by decide) "" token] at injected
  unfold correlate
  change (injectReleaseCorrelation samplePython token offeredRequest.valuesJson observedId).bind
    _ = _
  rw [injected]
  rfl

/-- The steps of the sample that conform. -/
def observes (state : State) : Action -> Bool
  | .service (.lockTarget _ _ intent) => decide (intent = observedIntent)
  | .service (.create _ operationId) => decide (operationId = observedId)
  | .service (.record _ (.ok _)) => false
  | .agent (.receive (.kubernetesRelease request)) =>
      decide (request = observedRequest) && decide (offeredRequest ∈ state.service.requests 7)
  | _ => true

theorem conforms_of_observes (state : State) (action : Action)
    (observed : observes state action = true) : Conforms samplePython state action := by
  cases action with
  | service statement =>
      cases statement with
      | lockTarget call target intent =>
          rw [observes, decide_eq_true_eq] at observed
          exact ⟨observedArguments, observed ▸ startIntent_observed⟩
      | create call operationId =>
          rw [observes, decide_eq_true_eq] at observed
          exact ⟨"0123456789abcdef0123".toList, by decide, by decide, observed⟩
      | record call outcome =>
          cases outcome with
          | ok result => cases observed
          | error error => trivial
      | _ => trivial
  | agent activity =>
      cases activity with
      | receive frame =>
          cases frame with
          | kubernetesRelease request =>
              rw [observes, Bool.and_eq_true, decide_eq_true_eq, decide_eq_true_eq] at observed
              exact .inl ⟨7, "", offeredRequest, observed.2, observed.1 ▸ correlate_observed ""⟩
          | _ => trivial
      | _ => trivial

/-- A dispatch fails, the agent dies while it works on the operation, and the
retry reaches its next process. -/
def replayedRun : List Action :=
  [.service (.lockTarget 0 7 observedIntent), .service (.selectExisting 0),
    .service (.selectPrevious 0), .service (.create 0 observedId), .service (.commit 0),
    .agent .connect, .agent (.receive (.kubernetesRelease observedRequest)), .agent (.admitJob 0),
    .agent (.begin (.sample 5)), .agent .launch, .agent .crash,
    .service (.record 0 (.error (.runtimeError ""))), .service (.reload 0),
    .service (.lockTarget 1 7 observedIntent), .service (.selectExisting 1), .service (.reopen 1),
    .service (.refresh 1), .service (.commit 1), .agent .connect,
    .agent (.receive (.kubernetesRelease observedRequest)), .agent (.admitJob 1)]

/-- The agent recognises the retry and asks for recovery. -/
theorem replays_agree_recovery :
    Exists fun state : State =>
      (machine Lifecycle.sampleSetting .sample).ReachableUnder (Conforms samplePython) state ∧
        (state.service.requests 7).length = 2 ∧
        state.agent.loop = .admitted observedRequest 1 ∧
        Exists fun job : Agent.PersistedJob =>
          state.agent.ledger.lookup observedId = some job ∧
            Agent.answerExisting job
                (Agent.kubernetesFingerprint Agent.AgentConfig.sample.sha256 observedRequest) =
              .failed "RECOVERY_REQUIRED" := by
  rcases (machine Lifecycle.sampleSetting .sample).exists_reachableUnder_of_replay
    (fun state action => observes state action = true) replayedRun ⟨.initial, .initial⟩ rfl
    (fun state => (state.service.requests 7).length = 2 ∧
      state.agent.loop = .admitted observedRequest 1 ∧
      (state.agent.ledger.lookup observedId).map (fun job => (job.state, job.result)) =
        some (.inFlight, none))
    (by decide +kernel) with ⟨state, reached, tested⟩
  rcases of_decide_eq_true tested with ⟨twice, loop, entry⟩
  rcases Option.map_eq_some_iff.mp entry with ⟨job, found, inFlight⟩
  have conforming := reached.mono conforms_of_observes
  have injective : Function.Injective Lifecycle.sampleSetting.sha256 := Equiv.injective _
  have answer := (replays_agree samplePython Lifecycle.sampleSetting .sample state conforming
    (noCollision_of_injective state.service injective)).2.1 observedRequest 1 job loop
      ⟨"0123456789abcdef0123".toList, by decide, by decide, rfl⟩ found
  rw [(Prod.mk.inj inFlight).1] at answer
  exact ⟨state, conforming, twice, loop, job, found, answer⟩

end Replay
end ControlPlane
end DjangoOps
