import DjangoOps.Link.System

namespace DjangoOps
namespace Link

open Protocol

/-!
# What becomes of a request

The receive loop of the agent takes the requests in the order in which the
gateway sent them, one at a time.  It starts a job, or sends a result itself,
or drops the request without a word.  Both peers allow the agent four jobs at
once, but the gateway frees a slot when the consumer of a job is done with it,
and the agent when its goroutine is.
-/

/-- The outcomes that do not leave a request without an answer: its job is started, or
a terminal frame for its id is sent. -/
inductive Settles (request : Request) : Agent.Event -> Prop
  | started : Settles request (.started request)
  | answered (frame : AgentFrame) (terminal : frame.isTerminal = true)
      (named : frame.event?.map Prod.fst = some request.jobId) : Settles request (.frame frame)

/-- The request that the receive loop is busy with. -/
inductive Held : Agent.LoopPhase -> List Request -> Prop
  | waiting : Held .waiting []
  | examined (request : Request) : Held (.examined request) [request]
  | admitted (request : KubernetesReleaseRequest) (worker : Nat) :
      Held (.admitted request worker) [.kubernetes request]
  | begun (request : KubernetesReleaseRequest) (worker : Nat) :
      Held (.begun request worker) [.kubernetes request]
  | answering (jobId : String) (result : Agent.PersistedResult) (request : Request)
      (named : request.jobId = jobId) : Held (.answering jobId result) [request]

/-- The requests that were sent are, in this order, those that a job was started
for or that were answered, the one that the receive loop is busy with, and
those that it has not taken yet. -/
def State.Accounted (state : State) : Prop :=
  Exists fun settled : List Request => Exists fun held : List Request =>
    List.Forall₂ Settles settled state.outcomes ∧ Held state.agent.loop held ∧
      state.requested = settled ++ held ++ state.toAgent.filterMap ControlFrame.request?

theorem not_dropped_of_settles {settled : List Request} {outcomes : List Agent.Event}
    (settles : List.Forall₂ Settles settled outcomes) (request : Request) :
    .dropped request ∉ outcomes := by
  induction settles with
  | nil => exact List.not_mem_nil
  | cons first _ inductionHypothesis =>
      intro listed
      rcases List.mem_cons.mp listed with same | later
      · rw [← same] at first
        cases first
      · exact inductionHypothesis later

/-- No request has been dropped. -/
theorem State.Accounted.not_dropped {state : State} (accounted : state.Accounted)
    (request : Request) : .dropped request ∉ state.outcomes := by
  rcases accounted with ⟨settled, held, settles, _⟩
  exact not_dropped_of_settles settles request

/-- The agent finds room for the request that it takes or admits, and has not
seen its job id. -/
def State.admits (state : State) : Action -> Bool
  | .receive =>
      match state.toAgent with
      | .diagnostics request :: _ => decide (request.jobId ∉ state.agent.completed)
      | _ => true
  | .agent (.admitJob _) =>
      match state.agent.loop with
      | .examined request =>
          decide (request.jobId ∉ state.agent.active ∧
            state.agent.active.entries.length < Agent.maxActiveJobs)
      | _ => true
  | _ => true

def Admits (state : State) (action : Action) : Prop := state.admits action = true

instance (state : State) (action : Action) : Decidable (Admits state action) :=
  inferInstanceAs (Decidable (_ = _))

section Steps

variable {setting : Setting} {before : State}

/-! ## Safe job ids -/

/-- Every request on the stream names a safe job id. -/
def State.NamesSafely (state : State) : Prop :=
  forall frame request, ControlFrame.request? frame = some request -> frame ∈ state.toAgent ->
    safeJobID request.jobId = true

theorem State.NamesSafely.step {after : State} {action : Action} (safely : before.NamesSafely)
    (queued : before.gateway.NamesSafely) (move : Move setting before action after) :
    after.NamesSafely := by
  cases move with
  | gateway => exact safely
  | yielded yielded gateway sends =>
      intro frame request asks listed
      rcases List.mem_append.mp listed with earlier | last
      · exact safely frame request asks earlier
      · rw [List.mem_singleton] at last
        subst last
        rcases Gateway.pending_of_sends sends with ⟨stream, pending⟩
        exact queued stream frame request asks pending
  | read => exact safely
  | agent => exact safely
  | received _ rest _ _ head =>
      intro frame request asks listed
      refine safely frame request asks ?_
      rw [head]
      exact .tail _ listed
  | heartbeat => exact safely

theorem namesSafely_of_reachable {guard : State -> Action -> Prop} {state : State}
    (reached : (machine setting).ReachableUnder guard state) : state.NamesSafely := by
  refine reached.invariant ?_ ?_
  · rintro start ⟨earlier, agent, _, _, rfl⟩ frame request _ listed
    cases listed
  · intro before action after reached inductionHypothesis _ stepped
    exact inductionHypothesis.step
      (Gateway.namesSafely_of_reachable (ran_of_reachable reached).gateway) (step_move stepped)

/-! ## The steps of the receive loop -/

/-- The receive loop takes a frame that does not make it drop a request. -/
theorem State.Accounted.received (accounted : before.Accounted) (safely : before.NamesSafely)
    {frame : ControlFrame} {rest : List ControlFrame} {agent : Agent.State}
    {events : List Agent.Event} (head : before.toAgent = frame :: rest)
    (admitted : Admits before .receive)
    (stepped : Agent.step setting.agent before.agent (.receive frame) = some (agent, events)) :
    { before with
      agent := agent
      toAgent := rest
      toGateway := before.toGateway ++ events.filterMap Agent.Event.frame?
      outcomes := before.outcomes ++ events : State }.Accounted := by
  rcases accounted with ⟨settled, held, outcomes, holds, requested⟩
  simp only [Agent.step, Agent.State.receive] at stepped
  split at stepped
  · rename_i waiting
    rw [waiting] at holds
    cases holds
    rw [head] at requested
    have silent : forall (request : Request) (loop : Agent.LoopPhase),
        ControlFrame.request? frame = some request -> Held loop [request] ->
        ({ before with
          agent := { before.agent with loop := loop }
          toAgent := rest
          toGateway := before.toGateway ++ []
          outcomes := before.outcomes ++ [] } : State).Accounted := by
      intro request loop asks holds
      refine ⟨settled, [request], ?_, holds, ?_⟩
      · simpa only [List.append_nil] using outcomes
      · rw [List.filterMap_cons_some asks] at requested
        change before.requested = _
        rw [requested]
        simp only [List.append_nil, List.append_assoc, List.cons_append, List.nil_append]
    split at stepped
    · rename_i request
      split at stepped
      · rename_i cause
        rcases cause with unsafeId | completed
        · have safe := safely _ _ rfl (by rw [head]; exact .head _)
          cases safe.symm.trans unsafeId
        · simp only [Admits, State.admits, head, decide_eq_true_eq] at admitted
          exact absurd completed admitted
      · cases stepped
        exact silent (.diagnostics request) _ rfl (.examined _)
    · rename_i request
      split at stepped
      · cases stepped
        exact silent (.kubernetes request) _ rfl (.answering _ _ _ rfl)
      · cases stepped
        exact silent (.kubernetes request) _ rfl (.examined _)
    · have skipped : forall same : Agent.State, same.loop = .waiting ->
          ({ before with
            agent := same
            toAgent := rest
            toGateway := before.toGateway ++ []
            outcomes := before.outcomes ++ [] } : State).Accounted := by
        intro same still
        refine ⟨settled, [], ?_, ?_, requested⟩
        · simpa only [List.append_nil] using outcomes
        · rw [still]
          exact .waiting
      split at stepped <;> cases stepped
      · exact skipped _ waiting
      · exact skipped _ waiting
  · cases stepped

theorem movesLoop_of_ofLoop {agent : Agent.State} {action : Agent.Action}
    (goes : agent.goesOn action = true) (own : ofLoop action = true) :
    action.movesLoop = true := by
  cases action with
  | receive => cases goes
  | admitJob => rfl
  | begin => rfl
  | launch => rfl
  | answer => rfl
  | _ => cases own

/-- A goroutine moves, or the receive loop goes on with its request: it keeps the
request in its hands, or is through with it and shows what came of it. -/
theorem State.Accounted.agent (accounted : before.Accounted) {action : Agent.Action}
    (goes : before.agent.goesOn action = true) (admitted : Admits before (.agent action))
    {agent : Agent.State} {events : List Agent.Event}
    (stepped : Agent.step setting.agent before.agent action = some (agent, events)) :
    { before with
      agent := agent
      toGateway := before.toGateway ++ events.filterMap Agent.Event.frame?
      outcomes := if ofLoop action then before.outcomes ++ events else before.outcomes
        : State }.Accounted := by
  rcases accounted with ⟨settled, held, outcomes, holds, requested⟩
  have settle : forall (request : Request) (event : Agent.Event), held = [request] ->
      events = [event] -> Settles request event -> agent.loop = .waiting ->
      ofLoop action = true ->
      ({ before with
        agent := agent
        toGateway := before.toGateway ++ events.filterMap Agent.Event.frame?
        outcomes := if ofLoop action then before.outcomes ++ events else before.outcomes
          } : State).Accounted := by
    intro request event single seen settles done own
    subst single seen
    refine ⟨settled ++ [request], [], ?_, ?_, ?_⟩
    · rw [own]
      exact List.rel_append outcomes (.cons settles .nil)
    · rw [done]
      exact .waiting
    · rw [List.append_nil]
      exact requested
  have keep : forall kept : List Request, held = kept -> Held agent.loop kept ->
      (ofLoop action = true -> events = []) ->
      ({ before with
        agent := agent
        toGateway := before.toGateway ++ events.filterMap Agent.Event.frame?
        outcomes := if ofLoop action then before.outcomes ++ events else before.outcomes
          } : State).Accounted := by
    rintro _ rfl still silent
    refine ⟨settled, held, ?_, still, requested⟩
    change List.Forall₂ Settles settled
      (if ofLoop action then before.outcomes ++ events else before.outcomes)
    split
    · rename_i own
      rw [silent own, List.append_nil]
      exact outcomes
    · exact outcomes
  have move := Agent.step_loop_move stepped
  generalize place : agent.loop = loop at move keep settle
  cases move with
  | same _ _ outside =>
      refine keep held rfl holds fun own => ?_
      rw [movesLoop_of_ofLoop goes own] at outside
      cases outside
  | connected => cases goes
  | disconnected => cases goes
  | crashed => cases goes
  | rejected => cases goes
  | invalid => cases goes
  | examined => cases goes
  | dropped request _ loop cause =>
      simp only [Admits, State.admits, loop, decide_eq_true_eq] at admitted
      rcases cause with active | full
      · exact absurd active admitted.1
      · omega
  | admitted release worker loop =>
      rw [loop] at holds
      cases holds
      exact keep _ rfl (.admitted _ _) fun _ => rfl
  | diagnosing request worker loop =>
      rw [loop] at holds
      cases holds
      exact settle _ _ rfl rfl .started rfl rfl
  | refused request worker io result loop =>
      rw [loop] at holds
      cases holds
      exact keep _ rfl (.answering _ _ _ rfl) fun _ => rfl
  | begun request worker io loop =>
      rw [loop] at holds
      cases holds
      exact keep _ rfl (.begun _ _) fun _ => rfl
  | launched request worker loop =>
      rw [loop] at holds
      cases holds
      exact settle _ _ rfl rfl .started rfl rfl
  | answered jobId result delivered loop =>
      rw [loop] at holds
      cases holds with
      | answering _ _ request named =>
          have arrives : delivered = true := goes
          subst arrives named
          exact settle request _ rfl rfl (.answered _ rfl rfl) rfl rfl

theorem State.Accounted.step {after : State} {action : Action} (accounted : before.Accounted)
    (safely : before.NamesSafely) (admitted : Admits before action)
    (move : Move setting before action after) : after.Accounted := by
  cases move with
  | gateway => exact accounted
  | yielded frame gateway =>
      rcases accounted with ⟨settled, held, outcomes, holds, requested⟩
      refine ⟨settled, held, outcomes, holds, ?_⟩
      simp only [State.requested, List.filterMap_append] at requested ⊢
      rw [requested]
      simp only [List.append_assoc]
  | read => exact accounted
  | agent _ _ _ goes stepped => exact accounted.agent goes admitted stepped
  | received _ _ _ _ head stepped => exact accounted.received safely head admitted stepped
  | heartbeat => exact accounted

/-- A step that does not meet the condition drops a request. -/
theorem Admits.of_accounted {after : State} {action : Action} (accounted : after.Accounted)
    (move : Move setting before action after) : Admits before action := by
  unfold Admits State.admits
  cases move with
  | received frame rest agent events head stepped =>
      dsimp only
      rw [head]
      cases frame with
      | diagnostics request =>
          refine decide_eq_true fun completed => accounted.not_dropped (.diagnostics request) ?_
          simp only [Agent.step, Agent.State.receive] at stepped
          split at stepped
          · rw [if_pos (.inr completed)] at stepped
            cases stepped
            exact List.mem_append.mpr (.inr (.head _))
          · cases stepped
      | _ => rfl
  | agent action agent events goes stepped =>
      cases action with
      | admitJob worker =>
          dsimp only
          cases loop : before.agent.loop with
          | examined request =>
              refine decide_eq_true ?_
              by_contra refused
              have cause : request.jobId ∈ before.agent.active ∨
                  Agent.maxActiveJobs ≤ before.agent.active.entries.length := by
                by_cases active : request.jobId ∈ before.agent.active
                · exact .inl active
                · exact .inr (Nat.le_of_not_lt fun room => refused ⟨active, room⟩)
              refine accounted.not_dropped request ?_
              simp only [Agent.step, Agent.State.admitJob, loop] at stepped
              rw [if_pos cause] at stepped
              cases stepped
              exact List.mem_append.mpr (.inr (.head _))
          | _ => rfl
      | _ => rfl
  | _ => rfl

end Steps

/-- In every run in which the agent finds a free slot and a new job id for each
request that it takes, every request of the gateway is on its way to the agent,
in the hands of the receive loop, started, or answered by a terminal frame for
its job.  Once the loop has taken them all, each is started or answered.  A step
that does not meet the condition, and no other, ends this. -/
theorem requests_settled (setting : Setting) (state : State)
    (reached : (machine setting).ReachableUnder Admits state) :
    state.Accounted ∧
      (state.agent.loop = .waiting -> state.toAgent = [] ->
        List.Forall₂ Settles state.requested state.outcomes) ∧
      forall action after, step setting state action = some after ->
        (after.Accounted <-> Admits state action) := by
  have accounted : state.Accounted := by
    refine reached.invariant ?_ ?_
    · rintro start ⟨earlier, agent, _, connected, rfl⟩
      unfold Agent.State.connect at connected
      split at connected <;> cases connected
      exact ⟨[], [], .nil, .waiting, rfl⟩
    · intro before action after reached inductionHypothesis admitted stepped
      exact inductionHypothesis.step (namesSafely_of_reachable reached) admitted
        (step_move stepped)
  refine ⟨accounted, ?_, ?_⟩
  · intro waiting drained
    rcases accounted with ⟨settled, held, outcomes, holds, requested⟩
    rw [waiting] at holds
    cases holds
    rw [drained] at requested
    simp only [List.append_nil, List.filterMap_nil] at requested
    rw [requested]
    exact outcomes
  · intro action after stepped
    have move := step_move stepped
    exact ⟨fun still => .of_accounted still move,
      fun admitted => accounted.step (namesSafely_of_reachable reached) admitted move⟩

/-! ## A fifth job beside a goroutine that has sent its result -/

def Setting.sample : Setting :=
  { gateway := .pair, agent := .sample, stream := 0 }

/-- The first connection of an agent that has never run. -/
def State.sample : State :=
  .connected { Agent.State.initial with connection := 1, loop := .waiting }

theorem initial_sample : (machine .sample).initial .sample :=
  ⟨.initial, _, .start rfl, rfl, rfl⟩

/-- The agent `alpha` is greeted. -/
def greeting : List Action :=
  [.gateway (.connect 0), .gateway (.firstFrame 0 (some (Gateway.helloOf "alpha" "alpha-token"))),
    .gateway (.register 0)]

/-- A job is opened, and its request travels to the agent. -/
def dispatch (call : Nat) (jobId : String) : List Action :=
  [.gateway (.openDiagnostics call "alpha" jobId "current"), .yieldControl, .receive,
    .agent (.admitJob call)]

/-- The first of four jobs ends, and its consumer has seen the result. -/
def firstEnds : List Action :=
  [.agent (.finish 0 (.diagnostics [] "healthy")), .agent (.send 0 true), .readFrame,
    .gateway (.deliver 0), .gateway (.advance 0), .gateway (.finalise 0)]

def fourJobs : List Action :=
  greeting ++ dispatch 0 "job-1" ++ dispatch 1 "job-2" ++ dispatch 2 "job-3" ++
    dispatch 3 "job-4" ++ firstEnds

def fifthRequest : Request := .diagnostics ⟨"job-5", "current"⟩

/-- When the goroutine has freed its slot, the fifth job is started. -/
theorem requests_settled_fifth :
    Exists fun state : State => fifthRequest ∈ state.requested ∧
      List.Forall₂ Settles state.requested state.outcomes := by
  rcases (machine .sample).exists_reachableUnder_of_replay Admits
    (fourJobs ++ [.agent (.mark 0), .agent (.done 0)] ++ dispatch 4 "job-5") .sample
    initial_sample
    (fun state => state.agent.loop = .waiting ∧ state.toAgent = [] ∧
      fifthRequest ∈ state.requested) (by decide +kernel) with ⟨state, reached, tested⟩
  rcases of_decide_eq_true tested with ⟨waiting, drained, asked⟩
  exact ⟨state, asked, (requests_settled .sample state reached).2.1 waiting drained⟩

/-- When it has not, the gateway admits the fifth job and the agent drops its
request: no job is started for it and nothing answers it. -/
theorem request_swallowed :
    Exists fun state : State => (machine .sample).Reachable state ∧
      state.agent.loop = .waiting ∧ state.toAgent = [] ∧ state.toGateway = [] ∧
      fifthRequest ∈ state.requested ∧
      (forall outcome, outcome ∈ state.outcomes -> ¬Settles fifthRequest outcome) ∧
      ¬state.Accounted := by
  rcases (machine .sample).exists_reachableUnder_of_replay (fun _ _ => True)
    (fourJobs ++ dispatch 4 "job-5") .sample initial_sample
    (fun state => state.agent.loop = .waiting ∧ state.toAgent = [] ∧ state.toGateway = [] ∧
      fifthRequest ∈ state.requested ∧
      state.outcomes = [.started (.diagnostics ⟨"job-1", "current"⟩),
        .started (.diagnostics ⟨"job-2", "current"⟩),
        .started (.diagnostics ⟨"job-3", "current"⟩),
        .started (.diagnostics ⟨"job-4", "current"⟩), .dropped fifthRequest])
    (by decide +kernel) with ⟨state, reached, tested⟩
  rcases of_decide_eq_true tested with ⟨waiting, drained, unread, asked, outcomes⟩
  refine ⟨state, reached, waiting, drained, unread, asked, ?_, ?_⟩
  · intro outcome listed settles
    rw [outcomes] at listed
    cases settles with
    | started => exact absurd listed (by decide)
    | answered frame =>
        simp only [List.mem_cons, reduceCtorEq, List.not_mem_nil, or_self] at listed
  · intro accounted
    refine accounted.not_dropped fifthRequest ?_
    rw [outcomes]
    decide

end Link
end DjangoOps
