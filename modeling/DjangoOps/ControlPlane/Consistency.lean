import DjangoOps.ControlPlane.MutationMoves

namespace DjangoOps
namespace ControlPlane

open Protocol Gateway OperationsService

universe u

/-!
# The constraints of the database

Every statement of the console keeps the constraints, so they hold in every
reachable state.  The calls refer to rows by keys that the sequences have
given out.
-/

namespace Database

variable {database : Database}

theorem mem_of_target? {pk : Nat} {row : TargetRow}
    (found : database.target? pk = some row) : row ∈ database.targets ∧ row.pk = pk :=
  ⟨List.mem_of_find?_eq_some found, of_decide_eq_true (List.find?_some found :)⟩

theorem operation?_of_mem (consistent : database.Consistent) {row : OperationRow}
    (listed : row ∈ database.operations) : database.operation? row.pk = some row :=
  consistent.operations.find?_of_mem listed

theorem release?_of_mem (consistent : database.Consistent) {row : ReleaseRow}
    (listed : row ∈ database.releases) : database.release? row.pk = some row :=
  consistent.releases.find?_of_mem listed

theorem Consistent.operationStatement (consistent : database.Consistent)
    {operations : List OperationRow} {sequence : Nat}
    (keyed : Table.Keyed OperationRow.pk sequence operations) :
    ({ database with operations := operations, operationSequence := sequence }).Consistent :=
  { consistent with operations := keyed }

theorem Consistent.createTarget (consistent : database.Consistent) {row : TargetRow}
    (numbered : row.pk = database.targetSequence) :
    (database.execute (.createTarget row)).Consistent := by
  refine { consistent with
    targets := consistent.targets.insert numbered, referred := ?_, owned := ?_ }
  · intro release listed
    rcases consistent.referred release listed with ⟨target, known, same⟩
    exact ⟨target, .tail _ known, same⟩
  · intro release target listed known same
    rcases List.mem_cons.mp known with rfl | earlier
    · rcases consistent.referred release listed with ⟨other, present, referred⟩
      have smaller := consistent.targets.below other present
      omega
    · exact consistent.owned release target listed earlier same

theorem Consistent.saveTarget (consistent : database.Consistent) (pk : Nat)
    (validation : TargetValidation) (validatedAt : Nat) :
    (database.execute (.saveTarget pk validation validatedAt)).Consistent := by
  refine { consistent with
    targets := consistent.targets.update pk fun _ => rfl, referred := ?_, owned := ?_ }
  · intro release listed
    rcases consistent.referred release listed with ⟨target, known, same⟩
    by_cases own : target.pk = pk
    · exact ⟨_, Table.mem_update.mpr (.inl ⟨target, known, own, rfl⟩), same⟩
    · exact ⟨target, Table.mem_update.mpr (.inr ⟨known, own⟩), same⟩
  · intro release target listed known same
    rcases Table.mem_update.mp known with ⟨earlier, present, _, rfl⟩ | ⟨present, _⟩
    · exact consistent.owned release earlier listed present same
    · exact consistent.owned release target listed present same

theorem Consistent.deleteTarget (consistent : database.Consistent) {pk : Nat}
    (free : database.isProtected pk = false) :
    (database.execute (.deleteTarget pk)).Consistent := by
  refine { consistent with
    targets := consistent.targets.filter _, referred := ?_, owned := ?_ }
  · intro release listed
    rcases consistent.referred release listed with ⟨target, known, same⟩
    refine ⟨target, List.mem_filter.mpr ⟨known, decide_eq_true fun own => ?_⟩, same⟩
    exact List.any_eq_false.mp free release listed (decide_eq_true (same.symm.trans own))
  · intro release target listed known same
    exact consistent.owned release target listed (List.mem_of_mem_filter known) same

theorem Consistent.createRelease (consistent : database.Consistent) {row : ReleaseRow}
    {target : TargetRow} (numbered : row.pk = database.releaseSequence)
    (known : target ∈ database.targets) (refers : row.target = target.pk)
    (belongs : row.project = target.fields.project) :
    (database.execute (.createRelease row)).Consistent := by
  refine { consistent with
    releases := consistent.releases.insert numbered, referred := ?_, owned := ?_ }
  · intro release listed
    rcases List.mem_cons.mp listed with rfl | earlier
    · exact ⟨target, known, refers.symm⟩
    · exact consistent.referred release earlier
  · intro release other listed present same
    rcases List.mem_cons.mp listed with rfl | earlier
    · rw [belongs, consistent.targets.unique known present (refers.symm.trans same.symm)]
    · exact consistent.owned release other earlier present same

theorem Consistent.updateRelease (consistent : database.Consistent) (pk : Nat)
    (change : KubernetesRelease -> KubernetesRelease) :
    (database.execute (.updateRelease pk change)).Consistent := by
  refine { consistent with
    releases := consistent.releases.update pk fun _ => rfl, referred := ?_, owned := ?_ }
  · intro release listed
    rcases Table.mem_update.mp listed with ⟨earlier, known, _, rfl⟩ | ⟨known, _⟩
    · exact consistent.referred earlier known
    · exact consistent.referred release known
  · intro release target listed present same
    rcases Table.mem_update.mp listed with ⟨earlier, known, _, rfl⟩ | ⟨known, _⟩
    · exact consistent.owned earlier target known present same
    · exact consistent.owned release target known present same

end Database

namespace Console

variable {Number : Type u} {setting : Setting Number}

/-- A statement that a call executes is one of those that keep the constraints. -/
theorem consistent_of_move {database : Database} {call after : Call} {input : Input Number}
    {statement : Option Statement} (consistent : database.Consistent)
    (move : Move setting database call input statement after) :
    (State.execute database statement).Consistent := by
  cases move with
  | issued user mutation drawn effect idle resolved =>
      cases resolved with
      | created projectId agentId diagnostic agent member =>
          exact consistent.operationStatement (consistent.operations.insert rfl)
      | _ => exact consistent
  | opened target agentId intent drawn effect opening transaction =>
      cases transaction with
      | reopened locked row found listed own settled => exact consistent.updateRelease _ _
      | created locked found =>
          exact consistent.createRelease rfl (Database.mem_of_target? found).1 rfl rfl
      | _ => exact consistent
  | targetCreated fields drawn creating free => exact consistent.createTarget rfl
  | targetStored target validation now storing => exact consistent.saveTarget _ _ _
  | targetRemoved target removing free => exact consistent.deleteTarget free
  | releaseRecorded row agentId request course result dispatching =>
      rw [State.execute]
      exact consistent.updateRelease _ _
  | releaseUnavailable row agentId request course dispatching =>
      rw [State.execute]
      exact consistent.updateRelease _ _
  | releaseClosed release accepted closing =>
      rw [State.execute]
      exact consistent.updateRelease _ _
  | consumed operation write scheduled =>
      exact consistent.operationStatement (consistent.operations.update _ fun _ => rfl)
  | saved operation project status errorCode row saving present =>
      exact consistent.operationStatement (consistent.operations.update _ fun _ => rfl)
  | updated operation status errorCode answer updating =>
      exact consistent.operationStatement (consistent.operations.update _ fun _ => rfl)
  | trimmed operation stale deleting =>
      exact consistent.operationStatement (consistent.operations.filter _)
  | _ => exact consistent

def State.Consistent (state : State) : Prop := state.database.Consistent

theorem consistent_of_reachable {admissible : Database -> Prop}
    {guard : State -> Nat × Input Number -> Prop} {state : State}
    (reached : (machine setting admissible).ReachableUnder guard state) : state.Consistent := by
  refine reached.invariant ?_ ?_
  · intro start starts
    exact starts.consistent
  · intro before action after _ consistent _ stepped
    rcases action with ⟨number, input⟩
    rcases step_move stepped with ⟨_, statement, call, move, rfl⟩
    exact consistent_of_move consistent move

end Console
end ControlPlane
end DjangoOps
