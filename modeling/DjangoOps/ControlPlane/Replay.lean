import DjangoOps.Agent.LedgerSafety
import DjangoOps.ControlPlane.Correlation
import DjangoOps.ControlPlane.OpenRows

namespace DjangoOps
namespace ControlPlane
namespace Lifecycle

open Protocol Gateway Mutex Service

universe u

/-!
# The requests of one release

Every request of a row is made of the row and of values that have its digest.
So the requests of a row agree, as long as the digest has no collisions and the
row keeps its previous revision; and the row keeps it when the agent echoes it.
-/

variable {Number : Type u}

/-- An operation id as `start_release` draws it. -/
def Drawn (operationId : String) : Prop :=
  Exists fun digits : List Char => digits.length = 20 ∧
    (digits.all fun char => char.isDigit || decide (97 ≤ char.toNat ∧ char.toNat ≤ 102)) = true ∧
      operationId = String.ofList ("k8s-".toList ++ digits)

theorem Drawn.nonempty {operationId : String} (drawn : Drawn operationId) : operationId ≠ "" := by
  rcases drawn with ⟨digits, _, _, rfl⟩
  intro empty
  have chars := congrArg String.toList empty
  rw [String.toList_ofList] at chars
  cases chars

/-- The intent of a call that the validation has let through. -/
def Admitted (python : Python Number) (intent : Intent) : Prop :=
  Exists fun arguments : Arguments Number => startIntent python arguments = .ok intent

/-- The result names the previous revision of its request, or none. -/
def Echoes (result : ReleaseResult) : Phase -> Prop
  | .dispatching _ _ request =>
      result.previousRevision.getD 0 = 0 ∨
        result.previousRevision.getD 0 = request.previousRevision
  | _ => True

/-- The runs of the service: starts come through the validation, draw their
operation ids, and are answered by an agent that echoes the previous revision. -/
def Offered (python : Python Number) (state : State) : Action -> Prop
  | .lockTarget _ _ intent => Admitted python intent
  | .create _ operationId => Drawn operationId
  | .record call (.ok result) => Echoes result (state.calls call)
  | _ => True

/-- What a row keeps while it is in the table. -/
structure Keeps (earlier later : KubernetesRelease) : Prop where
  revises : Revises earlier later
  previous : later.previousHelmRevision.getD 0 = earlier.previousHelmRevision.getD 0

theorem Keeps.refl (release : KubernetesRelease) : Keeps release release := ⟨⟨rfl, rfl⟩, rfl⟩

theorem Keeps.trans {first second third : KubernetesRelease} (left : Keeps first second)
    (right : Keeps second third) : Keeps first third where
  revises := ⟨right.revises.operationId.trans left.revises.operationId,
    right.revises.identity.trans left.revises.identity⟩
  previous := right.previous.trans left.previous

/-- A later version of the row is in the table. -/
def Kept (state : State) (target : Nat) (release : KubernetesRelease) : Prop :=
  Exists fun row : KubernetesRelease => row ∈ state.releases target ∧ Keeps release row

/-- The requests, and the calls that are about to make one, agree with the rows. -/
structure State.Consistent (python : Python Number) (setting : Setting) (state : State) : Prop where
  intents : forall call target intent stage, state.calls call = .starting target intent stage ->
    Admitted python intent
  rooted : forall target release, release ∈ state.releases target ->
    Drawn release.operationId ∧ Exists fun intent : Intent => Admitted python intent ∧
      identity release = intentIdentity (setting.service target) intent
  committing : forall call target intent release dispatch,
    state.calls call = .starting target intent (.committing release dispatch) ->
      Kept state target release
  dispatching : forall call target release request,
    state.calls call = .dispatching target release request ->
      Kept state target release ∧
        request.previousRevision = release.previousHelmRevision.getD 0
  requested : forall target request, request ∈ state.requests target ->
    Exists fun row : KubernetesRelease => row ∈ state.releases target ∧
      Exists fun intent : Intent => Admitted python intent ∧
        identity row = intentIdentity (setting.service target) intent ∧
        request = releaseRequest (setting.service target) intent row

section Steps

variable {python : Python Number} {setting : Setting} {before after : State} {action : Action}

/-- A conditional update keeps the rows when its change keeps the row it writes. -/
theorem kept_updateActive (table : Service.State) {operationId : String}
    {change : KubernetesRelease -> KubernetesRelease}
    (keeps : forall row, row ∈ table.releases -> row.operationId = operationId ->
      Keeps row (change row)) {release : KubernetesRelease} (listed : release ∈ table.releases) :
    Exists fun later : KubernetesRelease =>
      later ∈ (table.updateActive operationId change).releases ∧ Keeps release later := by
  by_cases own : release.operationId = operationId ∧ release.status.active = true
  · exact ⟨change release, table.mem_updateActive.mpr ⟨release, listed, .inl ⟨own.1, own.2, rfl⟩⟩,
      keeps release listed own.1⟩
  · exact ⟨release, table.mem_updateActive.mpr ⟨release, listed, .inr ⟨own, rfl⟩⟩, .refl release⟩

theorem kept_of_update {target : Nat} {rows : List KubernetesRelease}
    (releases : after.releases = Function.update before.releases target rows)
    (keeps : forall release, release ∈ before.releases target ->
      Exists fun later : KubernetesRelease => later ∈ rows ∧ Keeps release later)
    {other : Nat} {release : KubernetesRelease} (listed : release ∈ before.releases other) :
    Kept after other release := by
  unfold Kept
  rw [releases]
  by_cases same : other = target
  · subst same
    rw [Function.update_self]
    exact keeps release listed
  · rw [Function.update_of_ne same]
    exact ⟨release, listed, .refl release⟩

/-- The result of a dispatch leaves the previous revision as the request has it. -/
theorem previous_applyResult {release row : KubernetesRelease} {result : ReleaseResult}
    {revision : Nat} (echo : result.previousRevision.getD 0 = 0 ∨
      result.previousRevision.getD 0 = revision)
    (sent : revision = release.previousHelmRevision.getD 0)
    (same : row.previousHelmRevision.getD 0 = release.previousHelmRevision.getD 0) :
    (release.applyResult row
      { result with previousRevision := result.previousRevision.bind nonzero
        }).previousHelmRevision.getD 0 = row.previousHelmRevision.getD 0 := by
  unfold KubernetesRelease.applyResult
  dsimp only
  rw [same]
  cases given : result.previousRevision with
  | none => rfl
  | some value =>
      rw [given] at echo
      rw [Option.bind_some]
      unfold nonzero
      split
      · rfl
      · rename_i positive
        rcases echo with zero | echoed
        · exact absurd zero positive
        · exact echoed.trans sent

/-- Every row stays in the table under its identity and previous revision. -/
theorem State.Consistent.kept_step (consistent : before.Consistent python setting)
    (sound : before.Sound setting) (offered : Offered python before action)
    (move : Move setting before action after) {target : Nat} {release : KubernetesRelease}
    (listed : release ∈ before.releases target) : Kept after target release := by
  cases move with
  | reopened call written intent existing phase =>
      refine kept_of_update rfl (fun row rowListed => ?_) listed
      refine ⟨_, List.mem_map.mpr ⟨row, rowListed, rfl⟩, ?_⟩
      split <;> exact ⟨⟨rfl, rfl⟩, rfl⟩
  | created call written intent previous fresh phase unused =>
      exact kept_of_update rfl (fun row rowListed => ⟨row, .tail _ rowListed, .refl row⟩) listed
  | recorded call written current request result phase =>
      refine kept_of_update rfl (fun row rowListed => ?_) listed
      refine kept_updateActive (before.table written) ?_ rowListed
      intro other otherListed own
      refine ⟨⟨rfl, rfl⟩, ?_⟩
      rcases consistent.dispatching call written current request phase with
        ⟨⟨later, laterListed, keeps⟩, sent⟩
      have same : other = later := (sound.coherent written).eq_of_operationId otherListed
        laterListed (own.trans keeps.revises.operationId.symm)
      have echo : Echoes result (before.calls call) := offered
      rw [phase] at echo
      exact previous_applyResult echo sent (same ▸ keeps.previous)
  | unavailable call written current request message phase =>
      refine kept_of_update rfl (fun row rowListed => ?_) listed
      refine kept_updateActive (before.table written) ?_ rowListed
      exact fun _ _ _ => ⟨⟨rfl, rfl⟩, rfl⟩
  | cancelled call written operationId accepted phase =>
      refine kept_of_update rfl (fun row rowListed => ?_) listed
      refine kept_updateActive (before.table written) ?_ rowListed
      exact fun _ _ _ => ⟨⟨rfl, rfl⟩, rfl⟩
  | _ => exact ⟨release, listed, .refl release⟩

theorem releaseRequest_of_keeps {config : ServiceConfig} {intent : Intent}
    {release row : KubernetesRelease} (keeps : Keeps release row) :
    releaseRequest config intent row = releaseRequest config intent release := by
  unfold releaseRequest
  rw [keeps.revises.operationId, keeps.previous]

theorem State.Consistent.kept (consistent : before.Consistent python setting)
    (sound : before.Sound setting) (offered : Offered python before action)
    (move : Move setting before action after) {target : Nat} {release : KubernetesRelease}
    (kept : Kept before target release) : Kept after target release := by
  rcases kept with ⟨row, listed, keeps⟩
  rcases consistent.kept_step sound offered move listed with ⟨later, laterListed, still⟩
  exact ⟨later, laterListed, keeps.trans still⟩

theorem State.Consistent.intents_step (consistent : before.Consistent python setting)
    (offered : Offered python before action) (move : Move setting before action after)
    {target : Nat} {intent : Intent} {stage : Stage}
    (phase : after.calls action.call = .starting target intent stage) : Admitted python intent := by
  cases move with
  | locked call written theirs idle free =>
      rw [Action.call, State.calls_enter_self] at phase
      cases phase
      exact offered
  | answered call written theirs existing earlier selected active =>
      rw [Action.call, State.calls_enter_self] at phase
      cases phase
      exact consistent.intents call target intent _ earlier
  | found call written theirs existing earlier selected settled =>
      rw [Action.call, State.calls_enter_self] at phase
      cases phase
      exact consistent.intents call target intent _ earlier
  | missed call written theirs earlier missing =>
      rw [Action.call, State.calls_enter_self] at phase
      cases phase
      exact consistent.intents call target intent _ earlier
  | reopened call written theirs existing earlier =>
      rw [Action.call, State.calls_enter_self] at phase
      cases phase
      exact consistent.intents call target intent _ earlier
  | refreshed call written theirs operationId release earlier read =>
      rw [Action.call, State.calls_enter_self] at phase
      cases phase
      exact consistent.intents call target intent _ earlier
  | searched call written theirs earlier =>
      rw [Action.call, State.calls_enter_self] at phase
      cases phase
      exact consistent.intents call target intent _ earlier
  | created call written theirs previous fresh earlier unused =>
      rw [Action.call, State.calls_enter_self] at phase
      cases phase
      exact consistent.intents call target intent _ earlier
  | _ =>
      rw [Action.call, State.calls_enter_self] at phase
      cases phase

theorem State.Consistent.rooted_step (consistent : before.Consistent python setting)
    (offered : Offered python before action) (move : Move setting before action after)
    {target : Nat} {release : KubernetesRelease} (listed : release ∈ after.releases target) :
    Drawn release.operationId ∧ Exists fun intent : Intent => Admitted python intent ∧
      identity release = intentIdentity (setting.service target) intent := by
  rcases move.rows.origin listed with
    ⟨earlier, earlierListed, revises⟩ | ⟨_, intent, previous, phase, made, index⟩
  · rcases consistent.rooted target earlier earlierListed with ⟨drawn, intent, admitted, same⟩
    exact ⟨revises.operationId ▸ drawn, intent, admitted, revises.identity.trans same⟩
  · refine ⟨?_, intent, consistent.intents _ target intent _ phase, made ▸ rfl⟩
    cases move with
    | created call written theirs earlier fresh own unused =>
        rw [← (List.cons.inj index).1]
        exact offered
    | _ => exact absurd index (List.ne_cons_self)

theorem Move.kept_of_committing
    (move : Move setting before action after) {target : Nat} {intent : Intent}
    {release : KubernetesRelease} {dispatch : Bool}
    (phase : after.calls action.call = .starting target intent (.committing release dispatch)) :
    Kept after target release := by
  cases move with
  | answered call written theirs existing earlier selected active =>
      rw [Action.call, State.calls_enter_self] at phase
      cases phase
      exact ⟨release, (existing_eq_some selected).1, .refl release⟩
  | refreshed call written theirs operationId read earlier row =>
      rw [Action.call, State.calls_enter_self] at phase
      cases phase
      exact ⟨release, (row?_eq_some row).1, .refl release⟩
  | created call written theirs previous fresh earlier unused =>
      rw [Action.call, State.calls_enter_self] at phase
      cases phase
      refine ⟨.create (setting.service target) intent fresh previous, ?_, .refl _⟩
      change _ ∈ Function.update before.releases target _ target
      rw [Function.update_self]
      exact .head _
  | _ =>
      rw [Action.call, State.calls_enter_self] at phase
      cases phase

theorem State.Consistent.dispatching_step (consistent : before.Consistent python setting)
    (move : Move setting before action after) {target : Nat} {release : KubernetesRelease}
    {request : KubernetesReleaseRequest}
    (phase : after.calls action.call = .dispatching target release request) :
    Kept after target release ∧
      request.previousRevision = release.previousHelmRevision.getD 0 := by
  cases move with
  | dispatched call written intent current earlier =>
      rw [Action.call, State.calls_enter_self] at phase
      cases phase
      exact ⟨consistent.committing call target intent release true earlier, rfl⟩
  | _ =>
      rw [Action.call, State.calls_enter_self] at phase
      cases phase

theorem State.Consistent.requested_step (consistent : before.Consistent python setting)
    (sound : before.Sound setting) (offered : Offered python before action)
    (move : Move setting before action after) {target : Nat} {request : KubernetesReleaseRequest}
    (sent : request ∈ after.requests target) :
    Exists fun row : KubernetesRelease => row ∈ after.releases target ∧
      Exists fun intent : Intent => Admitted python intent ∧
        identity row = intentIdentity (setting.service target) intent ∧
        request = releaseRequest (setting.service target) intent row := by
  have earlier : request ∈ before.requests target ->
      Exists fun row : KubernetesRelease => row ∈ after.releases target ∧
        Exists fun intent : Intent => Admitted python intent ∧
          identity row = intentIdentity (setting.service target) intent ∧
          request = releaseRequest (setting.service target) intent row := by
    intro already
    rcases consistent.requested target request already with
      ⟨row, listed, intent, admitted, same, made⟩
    rcases consistent.kept_step sound offered move listed with ⟨later, laterListed, keeps⟩
    exact ⟨later, laterListed, intent, admitted, keeps.revises.identity.trans same,
      made.trans (releaseRequest_of_keeps keeps).symm⟩
  cases move with
  | dispatched call written intent release phase =>
      by_cases own : target = written
      · subst own
        change request ∈ Function.update before.requests target _ target at sent
        rw [Function.update_self] at sent
        rcases List.mem_cons.mp sent with rfl | already
        · rcases consistent.committing call target intent release true phase with
            ⟨row, listed, keeps⟩
          rcases sound.staged call target intent _ phase with ⟨same, _⟩
          exact ⟨row, listed, intent, consistent.intents call target intent _ phase,
            keeps.revises.identity.trans same, (releaseRequest_of_keeps keeps).symm⟩
        · exact earlier already
      · change request ∈ Function.update before.requests written _ target at sent
        rw [Function.update_of_ne own] at sent
        exact earlier sent
  | _ => exact earlier sent

theorem State.Consistent.step (consistent : before.Consistent python setting)
    (sound : before.Sound setting) (offered : Offered python before action)
    (move : Move setting before action after) : after.Consistent python setting where
  intents := by
    intro call target intent stage phase
    by_cases own : call = action.call
    · subst own
      exact consistent.intents_step offered move phase
    · rw [move.calls_ne own] at phase
      exact consistent.intents call target intent stage phase
  rooted := fun _ _ listed => consistent.rooted_step offered move listed
  committing := by
    intro call target intent release dispatch phase
    by_cases own : call = action.call
    · subst own
      exact move.kept_of_committing phase
    · rw [move.calls_ne own] at phase
      exact consistent.kept sound offered move
        (consistent.committing call target intent release dispatch phase)
  dispatching := by
    intro call target release request phase
    by_cases own : call = action.call
    · subst own
      exact consistent.dispatching_step move phase
    · rw [move.calls_ne own] at phase
      rcases consistent.dispatching call target release request phase with ⟨kept, sent⟩
      exact ⟨consistent.kept sound offered move kept, sent⟩
  requested := fun _ _ sent => consistent.requested_step sound offered move sent

theorem consistent_initial (python : Python Number) (setting : Setting) :
    State.initial.Consistent python setting where
  intents := fun _ _ _ _ impossible => nomatch impossible
  rooted := fun _ _ impossible => nomatch impossible
  committing := fun _ _ _ _ _ impossible => nomatch impossible
  dispatching := fun _ _ _ _ impossible => nomatch impossible
  requested := fun _ _ impossible => nomatch impossible

end Steps

end Lifecycle
end ControlPlane
end DjangoOps
