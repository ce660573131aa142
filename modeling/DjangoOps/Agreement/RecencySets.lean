import DjangoOps.Agent.Admission
import DjangoOps.ControlPlane.TerminalOutcomes
import DjangoOps.Gateway.Admission

namespace DjangoOps

open Recency

/-!
# Three memories of the most recent ids

The gateway and the agent remember the jobs they have completed, and the
telemetry remembers the outcomes it has observed.  The three are written
separately; each is a memory of the most recent items.
-/

namespace Gateway

/-- A gateway that has completed nothing yet. -/
def State.withoutCompleted (state : State) : State :=
  { state with completedJobs := ∅, completedOrder := [] }

end Gateway

namespace Agent

/-- An agent that has completed nothing yet. -/
def State.withoutCompleted (state : State) : State :=
  { state with completed := ∅, completedOrder := [] }

end Agent

namespace ControlPlane
namespace Observability
namespace Telemetry

/-- A telemetry that has observed nothing yet. -/
def withoutSeen (telemetry : Telemetry) : Telemetry :=
  { telemetry with seen := ∅, order := [] }

end Telemetry
end Observability
end ControlPlane

namespace Agreement

/-- Each of the three holds the most recent ids under every sequence of insertions:
the completed jobs of the gateway, those of the agent, and the rows that the
telemetry has seen.  They are written in two languages and with different
containers, but forget in the same order and never before they are full. -/
theorem recency_sets :
    (forall (config : Gateway.GatewayConfig) (state : Gateway.State),
      Remembers config.maxCompletedJobs (Gateway.State.rememberCompleted config)
        Gateway.State.completedMemory state.withoutCompleted) ∧
      (forall state : Agent.State,
        Remembers 256 Agent.State.markCompleted Agent.State.completedMemory
          state.withoutCompleted) ∧
      forall telemetry : ControlPlane.Observability.Telemetry,
        Remembers 2048 ControlPlane.Observability.Telemetry.remembered
          ControlPlane.Observability.Telemetry.seenMemory telemetry.withoutSeen := by
  refine ⟨fun config state => ?_, fun state => ?_, fun telemetry => ?_⟩
  · refine remembers_of_insert config.completed_pos rfl ?_ ?_
    · exact Gateway.completedMemory_rememberCompleted config
    · exact fun _ _ known => if_pos known
  · refine remembers_of_insert (by decide) rfl ?_ ?_
    · exact Agent.completedMemory_markCompleted
    · exact fun _ _ known => if_pos known
  · refine remembers_of_insert (by decide) rfl ?_ ?_
    · exact ControlPlane.Observability.Telemetry.seenMemory_remembered
    · exact fun _ _ known => ControlPlane.Observability.Telemetry.remembered_of_mem known

end Agreement
end DjangoOps
