import DjangoOps.Foundation.Table
import DjangoOps.Foundation.Transition
import Mathlib.Logic.Function.Basic

namespace DjangoOps
namespace Startup

open Transition

universe u

/-!
# Services that wait for one another

A service may start when the services that it depends on are healthy.  Services
also stop and become unhealthy at any time.  When every dependency is a service
with a test of its health, and dependencies do not go in circles, all services
can be brought up again from every state.
-/

structure Service (Name : Type u) where
  dependsOn : List Name
  tested : Bool
  deriving DecidableEq

/-- Services under names of their own. -/
structure Project (Name : Type u) where
  services : List (Name × Service Name)
  distinct : (services.map Prod.fst).Nodup

inductive Status
  | stopped
  | running
  | healthy
  deriving DecidableEq

inductive Action (Name : Type u)
  | start (name : Name)
  | pass (name : Name)
  | fail (name : Name)
  | stop (name : Name)

/-- What the orchestrator does to bring services up. -/
def Action.starting {Name : Type u} : Action Name -> Bool
  | .start _ => true
  | .pass _ => true
  | .fail _ => false
  | .stop _ => false

/-- What a status may become while services are brought up. -/
def Status.Rises : Status -> Status -> Prop
  | .stopped, _ => True
  | .running, after => after ≠ .stopped
  | .healthy, after => after = .healthy

theorem Status.Rises.refl (status : Status) : status.Rises status := by
  cases status with
  | stopped => exact trivial
  | running => exact fun same => nomatch same
  | healthy => exact rfl

theorem Status.Rises.trans {first second third : Status} (front : first.Rises second)
    (back : second.Rises third) : first.Rises third := by
  cases first with
  | stopped => exact trivial
  | running =>
      cases second with
      | stopped => exact absurd rfl front
      | running => exact back
      | healthy =>
          intro same
          rw [show third = .healthy from back] at same
          cases same
  | healthy =>
      rw [show second = .healthy from front] at back
      exact back

namespace Project

variable {Name : Type u} [DecidableEq Name] (project : Project Name)

def service? (name : Name) : Option (Service Name) :=
  (project.services.find? fun entry => decide (entry.1 = name)).map Prod.snd

/-- The services that it depends on are healthy. -/
def ready (state : Name -> Status) (service : Service Name) : Bool :=
  service.dependsOn.all fun other => decide (state other = .healthy)

def step (state : Name -> Status) : Action Name -> Option (Name -> Status)
  | .start name =>
      (project.service? name).bind fun service =>
        if state name = .stopped ∧ ready state service = true then
          some (Function.update state name .running)
        else none
  | .pass name =>
      (project.service? name).bind fun service =>
        if service.tested = true ∧ state name = .running then
          some (Function.update state name .healthy)
        else none
  | .fail name =>
      if state name = .healthy then some (Function.update state name .running) else none
  | .stop name =>
      if state name = .stopped then none else some (Function.update state name .stopped)

/-- Nothing runs at first. -/
def machine : Machine (Name -> Status) (Action Name) where
  initial := fun state => forall name, state name = .stopped
  step := project.step

/-- One action that brings a service up. -/
abbrev Brings (before after : Name -> Status) : Prop :=
  project.machine.StepUnder (fun _ action => action.starting = true) before after

/-- A service is up when it runs, and is healthy if it has a test. -/
def Up (state : Name -> Status) (name : Name) (service : Service Name) : Prop :=
  state name ≠ .stopped ∧ (service.tested = true -> state name = .healthy)

def AllUp (state : Name -> Status) : Prop :=
  forall name service, (name, service) ∈ project.services -> Up state name service

/-- Every dependency is a service with a test and of a smaller rank. -/
structure Sound (rank : Name -> Nat) : Prop where
  depends : forall name service, (name, service) ∈ project.services ->
    forall other, other ∈ service.dependsOn -> rank other < rank name ∧
      Exists fun dependency : Service Name =>
        (other, dependency) ∈ project.services ∧ dependency.tested = true

variable {project}

theorem service?_of_mem {name : Name} {service : Service Name}
    (listed : (name, service) ∈ project.services) : project.service? name = some service := by
  unfold service?
  rw [Table.find?_of_nodup project.distinct listed]
  rfl

theorem mem_of_service? {name : Name} {service : Service Name}
    (found : project.service? name = some service) : (name, service) ∈ project.services := by
  rcases Option.map_eq_some_iff.mp found with ⟨entry, listed, rfl⟩
  have named := List.find?_some listed
  rw [← of_decide_eq_true named]
  exact List.mem_of_find?_eq_some listed

/-- States that differ at one service that has risen. -/
theorem rises_update {state : Name -> Status} {name : Name} {status : Status}
    (risen : (state name).Rises status) (other : Name) :
    (state other).Rises (Function.update state name status other) := by
  by_cases same : other = name
  · rw [same, Function.update_self]
    exact risen
  · rw [Function.update_of_ne same]
    exact .refl _

omit [DecidableEq Name] in
theorem Up.of_rises {before after : Name -> Status} {name : Name} {service : Service Name}
    (up : Up before name service) (risen : (before name).Rises (after name)) :
    Up after name service := by
  refine ⟨?_, fun tested => ?_⟩
  · have running := up.1
    cases status : before name with
    | stopped => exact absurd status running
    | running =>
        rw [status] at risen
        exact risen
    | healthy =>
        rw [status] at risen
        rw [show after name = .healthy from risen]
        exact fun same => nomatch same
  · rw [up.2 tested] at risen
    exact risen

/-- States that are reached by bringing services up. -/
abbrev Path (project : Project Name) : (Name -> Status) -> (Name -> Status) -> Prop :=
  Relation.ReflTransGen project.Brings

/-- A service whose dependencies are healthy can be brought up. -/
theorem bring {name : Name} {service : Service Name} (listed : (name, service) ∈ project.services)
    (state : Name -> Status) (healthy : forall other, other ∈ service.dependsOn ->
      state other = .healthy) : Exists fun after : Name -> Status =>
    project.Path state after ∧ Up after name service ∧
      forall other, (state other).Rises (after other) := by
  have found := service?_of_mem listed
  have started : Exists fun middle : Name -> Status => project.Path state middle ∧
      middle name ≠ .stopped ∧ forall other, (state other).Rises (middle other) := by
    by_cases stopped : state name = .stopped
    · refine ⟨Function.update state name .running, .single ⟨.start name, rfl, ?_⟩, ?_, ?_⟩
      · change (project.service? name).bind _ = _
        rw [found]
        refine if_pos ⟨stopped, List.all_eq_true.mpr fun other depends => ?_⟩
        exact decide_eq_true (healthy other depends)
      · rw [Function.update_self]
        exact fun same => nomatch same
      · refine rises_update ?_
        rw [stopped]
        exact trivial
    · exact ⟨state, .refl, stopped, fun _ => .refl _⟩
  rcases started with ⟨middle, path, running, risen⟩
  by_cases tested : service.tested = true ∧ middle name = .running
  · refine ⟨Function.update middle name .healthy, path.tail ⟨.pass name, rfl, ?_⟩, ?_, ?_⟩
    · change (project.service? name).bind _ = _
      rw [found]
      exact if_pos tested
    · rw [Up, Function.update_self]
      exact ⟨fun same => (nomatch same), fun _ => rfl⟩
    · intro other
      refine (risen other).trans (rises_update ?_ other)
      rw [tested.2]
      exact fun same => nomatch same
  · refine ⟨middle, path, ⟨running, fun has => ?_⟩, risen⟩
    cases status : middle name with
    | stopped => exact absurd status running
    | running => exact absurd ⟨has, status⟩ tested
    | healthy => rfl

/-- What can be done for each service can be done for several of them. -/
theorem bring_list {services : List (Name × Service Name)}
    (each : forall entry, entry ∈ services -> forall state, Exists fun after : Name -> Status =>
      project.Path state after ∧ Up after entry.1 entry.2 ∧
        forall other, (state other).Rises (after other))
    (state : Name -> Status) : Exists fun after : Name -> Status =>
      project.Path state after ∧ (forall entry, entry ∈ services -> Up after entry.1 entry.2) ∧
        forall other, (state other).Rises (after other) := by
  induction services generalizing state with
  | nil => exact ⟨state, .refl, fun _ impossible => (nomatch impossible), fun _ => .refl _⟩
  | cons first rest inductionHypothesis =>
      rcases each first (.head _) state with ⟨middle, front, up, risen⟩
      rcases inductionHypothesis (fun entry listed => each entry (.tail _ listed)) middle with
        ⟨after, back, others, further⟩
      refine ⟨after, front.trans back, ?_, fun other => (risen other).trans (further other)⟩
      intro entry listed
      rcases List.mem_cons.mp listed with rfl | later
      · exact up.of_rises (further entry.1)
      · exact others entry later

/-- In a sound project every service can be brought up, by induction on its rank. -/
theorem Sound.bring {rank : Name -> Nat} (sound : project.Sound rank) (bound : Nat) :
    forall name service, (name, service) ∈ project.services -> rank name < bound ->
      forall state : Name -> Status, Exists fun after : Name -> Status =>
        project.Path state after ∧ Up after name service ∧
          forall other, (state other).Rises (after other) := by
  induction bound with
  | zero => exact fun _ _ _ impossible => absurd impossible (Nat.not_lt_zero _)
  | succ bound inductionHypothesis =>
      intro name service listed small state
      let needed := project.services.filter fun entry => decide (entry.1 ∈ service.dependsOn)
      have each : forall entry, entry ∈ needed -> forall state : Name -> Status,
          Exists fun after : Name -> Status => project.Path state after ∧
            Up after entry.1 entry.2 ∧ forall other, (state other).Rises (after other) := by
        intro entry member
        rcases List.mem_filter.mp member with ⟨own, depends⟩
        have lower := (sound.depends name service listed entry.1 (of_decide_eq_true depends)).1
        exact inductionHypothesis entry.1 entry.2 own (by omega)
      rcases bring_list each state with ⟨middle, front, up, risen⟩
      have ready : forall other, other ∈ service.dependsOn -> middle other = .healthy := by
        intro other depends
        rcases (sound.depends name service listed other depends).2 with ⟨dependency, own, tested⟩
        exact (up (other, dependency)
          (List.mem_filter.mpr ⟨own, decide_eq_true depends⟩)).2 tested
      rcases Project.bring listed middle ready with ⟨after, back, done, further⟩
      exact ⟨after, front.trans back, done, fun other => (risen other).trans (further other)⟩

/-- Whatever has stopped or failed, a sound project can be brought up. -/
theorem Sound.recovers {rank : Name -> Nat} (sound : project.Sound rank) (state : Name -> Status) :
    Exists fun after : Name -> Status => project.Path state after ∧ project.AllUp after := by
  have each : forall entry, entry ∈ project.services -> forall state : Name -> Status,
      Exists fun after : Name -> Status => project.Path state after ∧
        Up after entry.1 entry.2 ∧ forall other, (state other).Rises (after other) :=
    fun entry listed => sound.bring _ entry.1 entry.2 listed (Nat.lt_succ_self _)
  rcases bring_list each state with ⟨after, path, up, _⟩
  exact ⟨after, path, fun name service listed => up (name, service) listed⟩

/-- The action starts a service or finds it healthy, and its dependencies are
healthy in front of a start. -/
theorem brought_of_step {before after : Name -> Status} {action : Action Name}
    (starting : action.starting = true) (stepped : project.step before action = some after) :
    Exists fun name : Name => Exists fun service : Service Name =>
      (name, service) ∈ project.services ∧
        ((before name = .stopped ∧ after = Function.update before name .running ∧
            forall other, other ∈ service.dependsOn -> before other = .healthy) ∨
          (before name = .running ∧ after = Function.update before name .healthy)) := by
  cases action with
  | fail name | stop name => cases starting
  | start name =>
      rcases Option.bind_eq_some_iff.mp stepped with ⟨service, found, moved⟩
      split at moved
      · rename_i started
        cases moved
        refine ⟨name, service, mem_of_service? found, .inl ⟨started.1, rfl, ?_⟩⟩
        exact fun other depends => of_decide_eq_true (List.all_eq_true.mp started.2 other depends)
      · cases moved
  | pass name =>
      rcases Option.bind_eq_some_iff.mp stepped with ⟨service, found, moved⟩
      split at moved
      · rename_i tested
        cases moved
        exact ⟨name, service, mem_of_service? found, .inr ⟨tested.2, rfl⟩⟩
      · cases moved

/-- The dependencies of what runs are healthy. -/
def Ready (project : Project Name) (state : Name -> Status) : Prop :=
  forall name service, (name, service) ∈ project.services -> state name ≠ .stopped ->
    forall other, other ∈ service.dependsOn -> state other = .healthy

/-- While services are brought up, one that runs has healthy dependencies. -/
theorem ready_of_starting {state : Name -> Status}
    (reached : project.machine.ReachableUnder (fun _ action => action.starting = true) state) :
    project.Ready state := by
  refine reached.invariant ?_ ?_
  · intro state initial name service _ running
    exact absurd (initial name) running
  · intro before action after _ kept starting stepped name service listed running other depends
    rcases brought_of_step starting stepped with
      ⟨own, brought, named, ⟨stopped, rfl, ready⟩ | ⟨ran, rfl⟩⟩
    · have healthy : before other = .healthy := by
        by_cases same : name = own
        · subst same
          have one := (service?_of_mem listed).symm.trans (service?_of_mem named)
          exact ready other (Option.some.inj one ▸ depends)
        · rw [Function.update_of_ne same] at running
          exact kept name service listed running other depends
      have different : other ≠ own := by
        rintro rfl
        rw [stopped] at healthy
        cases healthy
      rw [Function.update_of_ne different]
      exact healthy
    · have healthy : before other = .healthy := by
        refine kept name service listed ?_ other depends
        by_cases same : name = own
        · rw [same, ran]
          exact fun impossible => nomatch impossible
        · rw [Function.update_of_ne same] at running
          exact running
      by_cases same : other = own
      · rw [same, Function.update_self]
      · rw [Function.update_of_ne same]
        exact healthy

/-! ## Services that are stopped -/

theorem stopped_of_step {before after : Name -> Status} {action : Action Name} {name : Name}
    (still : before name = .stopped) (other : action ≠ .start name)
    (stepped : project.step before action = some after) : after name = .stopped := by
  have apart : forall {own : Name} {status : Status}, before own ≠ .stopped ->
      Function.update before own status name = .stopped := by
    intro own status running
    rw [Function.update_of_ne]
    · exact still
    · rintro rfl
      exact running still
  cases action with
  | start own =>
      rcases Option.bind_eq_some_iff.mp stepped with ⟨service, _, moved⟩
      split at moved
      · cases moved
        rw [Function.update_of_ne]
        · exact still
        · rintro rfl
          exact other rfl
      · cases moved
  | pass own =>
      rcases Option.bind_eq_some_iff.mp stepped with ⟨service, _, moved⟩
      split at moved
      · rename_i tested
        cases moved
        refine apart ?_
        rw [tested.2]
        exact fun same => nomatch same
      · cases moved
  | fail own =>
      change (if before own = .healthy then _ else _) = _ at stepped
      split at stepped
      · rename_i healthy
        cases stepped
        refine apart ?_
        rw [healthy]
        exact fun same => nomatch same
      · cases stepped
  | stop own =>
      change (if before own = .stopped then _ else _) = _ at stepped
      split at stepped
      · cases stepped
      · rename_i running
        cases stepped
        exact apart running

/-- What is left of a state when some services are stopped. -/
def stopAll (names : List Name) (state : Name -> Status) (name : Name) : Status :=
  if name ∈ names then .stopped else state name

/-- Services are stopped one after the other. -/
theorem path_stopAll (project : Project Name) (names : List Name) (state : Name -> Status) :
    Relation.ReflTransGen (project.machine.StepUnder fun _ action =>
      Exists fun name : Name => name ∈ names ∧ action = .stop name) state
      (stopAll names state) := by
  induction names generalizing state with
  | nil => exact .refl
  | cons first rest inductionHypothesis =>
      have later : Relation.ReflTransGen (project.machine.StepUnder fun _ action =>
          Exists fun name : Name => name ∈ first :: rest ∧ action = .stop name)
          (Function.update state first .stopped)
          (stopAll rest (Function.update state first .stopped)) := by
        refine (inductionHypothesis _).lift id ?_
        rintro before after ⟨action, ⟨name, listed, rfl⟩, stepped⟩
        exact ⟨_, ⟨name, .tail _ listed, rfl⟩, stepped⟩
      have same : stopAll rest (Function.update state first .stopped) =
          stopAll (first :: rest) state := by
        funext name
        unfold stopAll
        by_cases inside : name ∈ rest
        · rw [if_pos inside, if_pos (.tail _ inside)]
        · rw [if_neg inside]
          by_cases own : name = first
          · rw [own, Function.update_self, if_pos (.head _)]
          · rw [Function.update_of_ne own, if_neg]
            exact fun listed => (List.mem_cons.mp listed).elim own inside
      rw [same] at later
      by_cases down : state first = .stopped
      · have still : Function.update state first .stopped = state := by
          rw [← down]
          exact Function.update_eq_self first state
        rw [still] at later
        exact later
      · exact .head ⟨.stop first, ⟨first, .head _, rfl⟩, if_neg down⟩ later

end Project
end Startup
end DjangoOps
