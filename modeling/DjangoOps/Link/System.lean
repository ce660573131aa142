import DjangoOps.Agent.Frame
import DjangoOps.Gateway.Readers

namespace DjangoOps
namespace Link

open Protocol

/-!
# The gateway and one agent over one stream

A stream is two ordered lists of frames: what `Connect` has yielded and the
receive loop of the agent has not taken, and what the agent has sent and the
session reader has not taken.  The tasks of the gateway and the goroutines of
the agent interleave freely, and the other streams of the gateway are left
open: whoever is behind them may send anything.

The stream stays.  Neither side ends it, and what the agent sends on it
arrives; only a goroutine left over from an earlier connection can fail to
send.  The three logs exist in neither program: `yielded` remembers the frames
of `Connect`, `outcomes` what became of the requests that the receive loop took,
and `cancelled` the job ids whose cancellation was asked for.
-/

/-- The two programs, and the `Connect` call of the agent's stream. -/
structure Setting where
  gateway : Gateway.GatewayConfig
  agent : Agent.AgentConfig
  stream : Nat

/-- The gateway, one agent, and what is on its way between the two, oldest first.  The
other fields record what the gateway has yielded, what the receive loop has made of
it, and the cancellations that somebody has asked for. -/
structure State where
  gateway : Gateway.State
  agent : Agent.State
  toAgent : List ControlFrame
  toGateway : List AgentFrame
  yielded : List ControlFrame
  outcomes : List Agent.Event
  cancelled : List String

/-- A task of the gateway or of the agent goes on, or a frame passes from one to the
other. -/
inductive Action
  | gateway (action : Gateway.Action)
  | yieldControl
  | readFrame
  | agent (action : Agent.Action)
  | receive
  | heartbeat (unixMillis : Int)

/-- The actions of the receive loop.  What can be seen of them is what becomes
of a request. -/
def ofLoop : Agent.Action -> Bool
  | .receive _ => true
  | .admitJob _ => true
  | .begin _ => true
  | .launch => true
  | .answer _ => true
  | _ => false

/-- The job id of a call of `AgentGateway.cancel`. -/
def cancelled? : Gateway.Action -> Option String
  | .cancel _ jobId => some jobId
  | _ => none

namespace State

/-- An agent that has just connected to a gateway on which nothing has happened. -/
def connected (agent : Agent.State) : State :=
  { gateway := .initial, agent := agent, toAgent := [], toGateway := [], yielded := []
    outcomes := [], cancelled := [] }

/-- The requests that the gateway has sent, oldest first. -/
def requested (state : State) : List Request := state.yielded.filterMap ControlFrame.request?

def gatewayStep (setting : Setting) (state : State) (action : Gateway.Action) : Option State :=
  (Gateway.step setting.gateway state.gateway action).map fun gateway =>
    { state with
      gateway := gateway, cancelled := state.cancelled ++ (cancelled? action).toList }

def agentStep (setting : Setting) (state : State) (action : Agent.Action) : Option State :=
  (Agent.step setting.agent state.agent action).map fun result =>
    { state with
      agent := result.1
      toGateway := state.toGateway ++ result.2.filterMap Agent.Event.frame?
      outcomes := if ofLoop action then state.outcomes ++ result.2 else state.outcomes }

/-- `Connect` yields the next frame of its outgoing queue. -/
def yieldControl (setting : Setting) (state : State) : Option State :=
  match state.gateway.sends? (.yieldControl setting.stream) with
  | none => none
  | some frame =>
      { state with
        toAgent := state.toAgent ++ [frame]
        yielded := state.yielded ++ [frame] }.gatewayStep setting (.yieldControl setting.stream)

/-- The session reader takes the next frame. -/
def readFrame (setting : Setting) (state : State) : Option State :=
  match state.toGateway with
  | [] => none
  | frame :: rest =>
      { state with toGateway := rest }.gatewayStep setting (.readFrame setting.stream frame)

/-- The receive loop of the agent takes the next frame. -/
def receive (setting : Setting) (state : State) : Option State :=
  match state.toAgent with
  | [] => none
  | frame :: rest => { state with toAgent := rest }.agentStep setting (.receive frame)

end State

def step (setting : Setting) (state : State) : Action -> Option State
  | .gateway action =>
      if action.besides setting.stream then state.gatewayStep setting action else none
  | .yieldControl => state.yieldControl setting
  | .readFrame => state.readFrame setting
  | .agent action => if state.agent.goesOn action then state.agentStep setting action else none
  | .receive => state.receive setting
  | .heartbeat unixMillis =>
      some { state with toGateway := state.toGateway ++ [.heartbeat unixMillis] }

/-- The two programs from the moment the agent has opened its stream.  It may
have run before, on other connections. -/
def machine (setting : Setting) : Transition.Machine State Action where
  initial := fun state => Exists fun earlier : Agent.State => Exists fun agent : Agent.State =>
    (Agent.machine setting.agent).Reachable earlier ∧ earlier.connect = some agent ∧
      state = .connected agent
  step := step setting

/-! ## What one step changes -/

/-- What a step can do to the two programs and the stream between them. -/
inductive Move (setting : Setting) (before : State) : Action -> State -> Prop
  | gateway (action : Gateway.Action) (gateway : Gateway.State)
      (allowed : action.besides setting.stream = true)
      (stepped : Gateway.step setting.gateway before.gateway action = some gateway) :
      Move setting before (.gateway action)
        { before with
          gateway := gateway, cancelled := before.cancelled ++ (cancelled? action).toList }
  | yielded (frame : ControlFrame) (gateway : Gateway.State)
      (sends : before.gateway.sends? (.yieldControl setting.stream) = some frame)
      (stepped : Gateway.step setting.gateway before.gateway (.yieldControl setting.stream) =
        some gateway) :
      Move setting before .yieldControl
        { before with
          gateway := gateway
          toAgent := before.toAgent ++ [frame]
          yielded := before.yielded ++ [frame] }
  | read (frame : AgentFrame) (rest : List AgentFrame) (gateway : Gateway.State)
      (head : before.toGateway = frame :: rest)
      (stepped : Gateway.step setting.gateway before.gateway (.readFrame setting.stream frame) =
        some gateway) :
      Move setting before .readFrame { before with gateway := gateway, toGateway := rest }
  | agent (action : Agent.Action) (agent : Agent.State) (events : List Agent.Event)
      (goes : before.agent.goesOn action = true)
      (stepped : Agent.step setting.agent before.agent action = some (agent, events)) :
      Move setting before (.agent action)
        { before with
          agent := agent
          toGateway := before.toGateway ++ events.filterMap Agent.Event.frame?
          outcomes := if ofLoop action then before.outcomes ++ events else before.outcomes }
  | received (frame : ControlFrame) (rest : List ControlFrame) (agent : Agent.State)
      (events : List Agent.Event) (head : before.toAgent = frame :: rest)
      (stepped : Agent.step setting.agent before.agent (.receive frame) = some (agent, events)) :
      Move setting before .receive
        { before with
          agent := agent
          toAgent := rest
          toGateway := before.toGateway ++ events.filterMap Agent.Event.frame?
          outcomes := before.outcomes ++ events }
  | heartbeat (unixMillis : Int) :
      Move setting before (.heartbeat unixMillis)
        { before with toGateway := before.toGateway ++ [.heartbeat unixMillis] }

section Steps

variable {setting : Setting} {before after : State} {action : Action}

/-- Every step is one of the listed ones. -/
theorem step_move (stepped : step setting before action = some after) :
    Move setting before action after := by
  cases action with
  | gateway action =>
      simp only [step] at stepped
      split at stepped
      · rename_i allowed
        rcases Option.map_eq_some_iff.mp stepped with ⟨gateway, moved, rfl⟩
        exact .gateway action gateway allowed moved
      · cases stepped
  | yieldControl =>
      simp only [step, State.yieldControl] at stepped
      split at stepped
      · cases stepped
      · rename_i frame sends
        rcases Option.map_eq_some_iff.mp stepped with ⟨gateway, moved, rfl⟩
        have log : before.cancelled = before.cancelled ++
            (cancelled? (.yieldControl setting.stream)).toList := (List.append_nil _).symm
        rw [← log]
        exact .yielded frame gateway sends moved
  | readFrame =>
      simp only [step, State.readFrame] at stepped
      split at stepped
      · cases stepped
      · rename_i frame rest head
        rcases Option.map_eq_some_iff.mp stepped with ⟨gateway, moved, rfl⟩
        have log : before.cancelled = before.cancelled ++
            (cancelled? (.readFrame setting.stream frame)).toList := (List.append_nil _).symm
        rw [← log]
        exact .read frame rest gateway head moved
  | agent action =>
      simp only [step] at stepped
      split at stepped
      · rename_i goes
        rcases Option.map_eq_some_iff.mp stepped with ⟨⟨agent, events⟩, moved, rfl⟩
        exact .agent action agent events goes moved
      · cases stepped
  | receive =>
      simp only [step, State.receive] at stepped
      split at stepped
      · cases stepped
      · rename_i frame rest head
        rcases Option.map_eq_some_iff.mp stepped with ⟨⟨agent, events⟩, moved, rfl⟩
        exact .received frame rest agent events head moved
  | heartbeat unixMillis =>
      cases stepped
      exact .heartbeat unixMillis

/-- Each of the two programs has made a run of its own. -/
structure State.Ran (setting : Setting) (state : State) : Prop where
  gateway : (Gateway.machine setting.gateway).Reachable state.gateway
  agent : (Agent.machine setting.agent).Reachable state.agent

theorem reachable_of_agent_step {config : Agent.AgentConfig} {before after : Agent.State}
    {action : Agent.Action} {events : List Agent.Event}
    (reached : (Agent.machine config).Reachable before)
    (stepped : Agent.step config before action = some (after, events)) :
    (Agent.machine config).Reachable after := by
  refine reached.next action trivial ?_
  change Option.map Prod.fst (Agent.step config before action) = _
  rw [stepped]
  rfl

/-- A run of the link is a run of the gateway, and continues a run of the agent. -/
theorem ran_of_reachable {guard : State -> Action -> Prop} {state : State}
    (reached : (machine setting).ReachableUnder guard state) : state.Ran setting := by
  refine reached.invariant ?_ ?_
  · rintro start ⟨earlier, agent, ran, connected, rfl⟩
    have opened : Agent.step setting.agent earlier .connect = some (agent, []) := by
      change Agent.silent earlier.connect = _
      rw [connected]
      rfl
    exact ⟨.start rfl, reachable_of_agent_step ran opened⟩
  · rintro before action after _ ⟨gateway, agent⟩ _ stepped
    cases step_move stepped with
    | gateway own _ _ moved => exact ⟨gateway.next own trivial moved, agent⟩
    | yielded _ _ _ moved =>
        exact ⟨gateway.next (.yieldControl setting.stream) trivial moved, agent⟩
    | read frame _ _ _ moved =>
        exact ⟨gateway.next (.readFrame setting.stream frame) trivial moved, agent⟩
    | agent _ _ _ _ moved => exact ⟨gateway, reachable_of_agent_step agent moved⟩
    | received _ _ _ _ _ moved => exact ⟨gateway, reachable_of_agent_step agent moved⟩
    | heartbeat => exact ⟨gateway, agent⟩

end Steps

end Link
end DjangoOps
