import DjangoOps.Foundation.GraphQL
import Mathlib.Data.List.Infix
import Mathlib.Data.Nat.Cast.Basic

namespace DjangoOps
namespace ControlPlane

open GraphQL

/-!
# The limits of a query

`_resource_error` of the GraphQL view walks over the operations of a document
and into the fragments that they spread.  A fragment that is being walked over
is active and not entered again, so the walk ends on every document; on a
document whose fragments can be expanded it counts what stands in the
expansion.

The parser is a parameter, the recursion of the interpreter has no limit, and
the results of the walk are its two counters.
-/

/-- The variables `max_depth` and `fields`. -/
structure Counters where
  maxDepth : Nat
  fields : Nat
  deriving DecidableEq

namespace Counters

/-- `max_depth = max(max_depth, depth)` -/
def reach (counters : Counters) (depth : Nat) : Counters :=
  { counters with maxDepth := max counters.maxDepth depth }

/-- `fields += 1` -/
def count (counters : Counters) : Counters :=
  { counters with fields := counters.fields + 1 }

/-- What stands in the selections of a set at a depth is added. -/
def add (counters : Counters) (depth : Nat) (expanded : List Selection) : Counters where
  maxDepth := max counters.maxDepth (depth + levels expanded)
  fields := counters.fields + fieldNodes expanded

theorem add_nil {counters : Counters} {depth : Nat} (reached : depth ≤ counters.maxDepth) :
    counters.add depth [] = counters := by
  unfold add
  rw [levels, fieldNodes, Nat.add_zero, Nat.add_zero, Nat.max_eq_left reached]

theorem add_leaf (counters : Counters) (depth : Nat) (more : List Selection) :
    counters.count.add depth more = counters.add depth (.field none :: more) := by
  simp only [add, count, levels, fieldNodes, Selection.levels, Selection.fieldNodes, mk.injEq]
  omega

theorem add_field (counters : Counters) (depth : Nat) (inner more : List Selection) :
    ((counters.count.reach (depth + 1)).add (depth + 1) inner).add depth more =
      counters.add depth (.field (some inner) :: more) := by
  simp only [add, count, reach, levels, fieldNodes, Selection.levels, Selection.fieldNodes,
    mk.injEq]
  omega

theorem add_inlineFragment (counters : Counters) (depth : Nat) (inner more : List Selection) :
    ((counters.reach depth).add depth inner).add depth more =
      counters.add depth (.inlineFragment inner :: more) := by
  simp only [add, reach, levels, fieldNodes, Selection.levels, Selection.fieldNodes, mk.injEq]
  omega

theorem add_append (counters : Counters) (depth : Nat) (inner more : List Selection) :
    ((counters.reach depth).add depth inner).add depth more =
      counters.add depth (inner ++ more) := by
  simp only [add, reach, levels_append, fieldNodes_append, mk.injEq]
  omega

/-- A depth that was reached stays reached behind an inner set. -/
theorem le_inner {counters : Counters} {depth : Nat} (reached : depth ≤ counters.maxDepth)
    (deeper : Nat) (expanded : List Selection) :
    depth ≤ ((counters.reach deeper).add deeper expanded).maxDepth :=
  Nat.le_trans (Nat.le_trans reached (Nat.le_max_left _ _)) (Nat.le_max_left _ _)

end Counters

/-! ## The walk, one rule for every branch -/

section Walk

variable (fragments : Fragments)

mutual

/-- `walk` returns, with the counters that it leaves. -/
inductive Walks : List String -> Nat -> Option (List Selection) -> Counters -> Counters -> Prop
  | absent (active : List String) (depth : Nat) (counters : Counters) :
      Walks active depth none counters counters
  | present {active : List String} {depth : Nat} {selections : List Selection}
      {counters after : Counters}
      (loop : Loops active depth selections (counters.reach depth) after) :
      Walks active depth (some selections) counters after

/-- The loop over the selections of a set. -/
inductive Loops : List String -> Nat -> List Selection -> Counters -> Counters -> Prop
  | done (active : List String) (depth : Nat) (counters : Counters) :
      Loops active depth [] counters counters
  | field {active : List String} {depth : Nat} {selectionSet : Option (List Selection)}
      {rest : List Selection} {counters middle after : Counters}
      (inner : Walks active (depth + 1) selectionSet counters.count middle)
      (behind : Loops active depth rest middle after) :
      Loops active depth (.field selectionSet :: rest) counters after
  | entered {active : List String} {depth : Nat} {name : String} {body rest : List Selection}
      {counters middle after : Counters} (inactive : name ∉ active)
      (found : Dictionary.get name fragments = some body)
      (inner : Walks (name :: active) depth (some body) counters middle)
      (behind : Loops active depth rest middle after) :
      Loops active depth (.fragmentSpread name :: rest) counters after
  | skipped {active : List String} {depth : Nat} {name : String} {rest : List Selection}
      {counters after : Counters}
      (blocked : name ∈ active ∨ Dictionary.get name fragments = none)
      (behind : Loops active depth rest counters after) :
      Loops active depth (.fragmentSpread name :: rest) counters after
  | inlineFragment {active : List String} {depth : Nat} {selectionSet rest : List Selection}
      {counters middle after : Counters}
      (inner : Walks active depth (some selectionSet) counters middle)
      (behind : Loops active depth rest middle after) :
      Loops active depth (.inlineFragment selectionSet :: rest) counters after

end

/-! ## The walk as a function -/

/-- The fragments that are not active. -/
def inactive (active : List String) : Nat :=
  ((fragments.map Prod.fst).filter fun name => decide (name ∉ active)).length

variable {fragments}

/-- A fragment that is entered is active from then on. -/
theorem inactive_lt {name : String} {active : List String} {body : List Selection}
    (found : Dictionary.get name fragments = some body) (missing : name ∉ active) :
    inactive fragments (name :: active) < inactive fragments active := by
  have listed : name ∈ fragments.map Prod.fst :=
    List.mem_map_of_mem (Dictionary.mem_of_get found)
  have fewer : ((fragments.map Prod.fst).filter fun other => decide (other ∉ name :: active)) =
      ((fragments.map Prod.fst).filter fun other => decide (other ∉ active)).filter
        fun other => decide (other ≠ name) := by
    rw [List.filter_filter]
    refine List.filter_congr fun other _ => ?_
    simp only [List.mem_cons, not_or, Bool.decide_and, ne_eq]
  unfold inactive
  rw [fewer]
  apply List.length_filter_lt_length_iff_exists.mpr
  refine ⟨name, List.mem_filter.mpr ⟨listed, decide_eq_true missing⟩, ?_⟩
  simp only [ne_eq, not_true_eq_false, decide_false, Bool.false_eq_true, not_false_eq_true]

variable (fragments)

mutual

/-- `walk` -/
def walk (active : List String) (depth : Nat) (selectionSet : Option (List Selection))
    (counters : Counters) : Counters :=
  match selectionSet with
  | none => counters
  | some selections => walkSelections active depth selections (counters.reach depth)
termination_by (inactive fragments active, sizeOf selectionSet)

def walkSelections (active : List String) (depth : Nat) (selections : List Selection)
    (counters : Counters) : Counters :=
  match selections with
  | [] => counters
  | .field selectionSet :: rest =>
      walkSelections active depth rest (walk active (depth + 1) selectionSet counters.count)
  | .fragmentSpread name :: rest =>
      walkSelections active depth rest
        (if missing : name ∉ active then
          match found : Dictionary.get name fragments with
          | some body =>
              have := inactive_lt found missing
              walk (name :: active) depth (some body) counters
          | none => counters
        else counters)
  | .inlineFragment selectionSet :: rest =>
      walkSelections active depth rest (walk active depth (some selectionSet) counters)
termination_by (inactive fragments active, sizeOf selections)

end

variable {fragments}

theorem walkSelections_entered {active : List String} {name : String} {body : List Selection}
    (missing : name ∉ active) (found : Dictionary.get name fragments = some body) (depth : Nat)
    (rest : List Selection) (counters : Counters) :
    walkSelections fragments active depth (.fragmentSpread name :: rest) counters =
      walkSelections fragments active depth rest
        (walk fragments (name :: active) depth (some body) counters) := by
  rw [walkSelections, dif_pos missing]
  split
  · rename_i other same
    rw [found] at same
    cases same
    rfl
  · rename_i same
    rw [found] at same
    cases same

theorem walkSelections_skipped {active : List String} {name : String}
    (blocked : name ∈ active ∨ Dictionary.get name fragments = none) (depth : Nat)
    (rest : List Selection) (counters : Counters) :
    walkSelections fragments active depth (.fragmentSpread name :: rest) counters =
      walkSelections fragments active depth rest counters := by
  rw [walkSelections]
  by_cases missing : name ∉ active
  · rw [dif_pos missing]
    split
    · rename_i body same
      rw [blocked.resolve_left missing] at same
      cases same
    · rfl
  · rw [dif_neg missing]

mutual

/-- The function takes the rules, and so the walk ends. -/
theorem walks_walk (active : List String) (depth : Nat) (selectionSet : Option (List Selection))
    (counters : Counters) : Walks fragments active depth selectionSet counters
      (walk fragments active depth selectionSet counters) := by
  match selectionSet with
  | none =>
      rw [walk]
      exact .absent active depth counters
  | some selections =>
      rw [walk]
      exact .present (loops_walkSelections active depth selections _)
termination_by (inactive fragments active, sizeOf selectionSet)

theorem loops_walkSelections (active : List String) (depth : Nat) (selections : List Selection)
    (counters : Counters) : Loops fragments active depth selections counters
      (walkSelections fragments active depth selections counters) := by
  match selections with
  | [] =>
      rw [walkSelections]
      exact .done active depth counters
  | .field selectionSet :: rest =>
      rw [walkSelections]
      exact .field (walks_walk active (depth + 1) selectionSet _)
        (loops_walkSelections active depth rest _)
  | .fragmentSpread name :: rest =>
      by_cases missing : name ∉ active
      · cases found : Dictionary.get name fragments with
        | some body =>
            have fewer := inactive_lt found missing
            rw [walkSelections_entered missing found]
            exact .entered missing found (walks_walk (name :: active) depth (some body) _)
              (loops_walkSelections active depth rest _)
        | none =>
            rw [walkSelections_skipped (Or.inr found)]
            exact .skipped (Or.inr found) (loops_walkSelections active depth rest _)
      · rw [not_not] at missing
        rw [walkSelections_skipped (Or.inl missing)]
        exact .skipped (Or.inl missing) (loops_walkSelections active depth rest _)
  | .inlineFragment selectionSet :: rest =>
      rw [walkSelections]
      exact .inlineFragment (walks_walk active depth (some selectionSet) _)
        (loops_walkSelections active depth rest _)
termination_by (inactive fragments active, sizeOf selections)

end

/-- The rules leave no choice. -/
theorem Walks.eq_walk {active : List String} {depth : Nat}
    {selectionSet : Option (List Selection)} {counters after : Counters}
    (walked : Walks fragments active depth selectionSet counters after) :
    after = walk fragments active depth selectionSet counters := by
  refine @Walks.rec fragments
    (fun active depth selectionSet counters after _ =>
      after = walk fragments active depth selectionSet counters)
    (fun active depth selections counters after _ =>
      after = walkSelections fragments active depth selections counters)
    ?absent ?present ?done ?field ?entered ?skipped ?inlineFragment
    active depth selectionSet counters after walked
  case absent =>
    intro active depth counters
    rw [walk]
  case present =>
    intro active depth selections counters after _ loop
    rw [walk, loop]
  case done =>
    intro active depth counters
    rw [walkSelections]
  case field =>
    intro active depth selectionSet rest counters middle after _ _ inner behind
    rw [walkSelections, behind, inner]
  case entered =>
    intro active depth name body rest counters middle after missing found _ _ inner behind
    rw [walkSelections_entered missing found, behind, inner]
  case skipped =>
    intro active depth name rest counters after blocked _ behind
    rw [walkSelections_skipped blocked, behind]
  case inlineFragment =>
    intro active depth selectionSet rest counters middle after _ _ inner behind
    rw [walkSelections, behind, inner]

/-! ## The walk and the expansion -/

/-- Where every fragment is defined and none spreads itself, none is active
when it is spread, and the walk counts what stands in the expansion. -/
theorem walkSelections_expansion (acyclic : Acyclic fragments)
    (used : forall name other, Uses fragments name other ->
      (Dictionary.get other fragments).isSome = true)
    (active : List String) (selections : List Selection)
    (own : forall name, Spreads name selections -> (Dictionary.get name fragments).isSome = true)
    (behind : forall name, name ∈ active -> forall other, Spreads other selections ->
      Relation.TransGen (Uses fragments) name other) :
    Exists fun expanded : List Selection => Expands fragments selections expanded ∧
      forall depth counters, depth ≤ counters.maxDepth ->
        walkSelections fragments active depth selections counters =
          counters.add depth expanded := by
  match selections with
  | [] =>
      refine ⟨[], .nil, ?_⟩
      intro depth counters reached
      rw [walkSelections, Counters.add_nil reached]
  | first :: rest =>
      rcases walkSelections_expansion acyclic used active rest
        (fun name inside => own name (.later first inside))
        (fun name listed other inside => behind name listed other (.later first inside)) with
        ⟨more, restExpands, restCounts⟩
      cases first with
      | field selectionSet =>
          cases selectionSet with
          | none =>
              refine ⟨.field none :: more, .leaf restExpands, ?_⟩
              intro depth counters reached
              rw [walkSelections, walk, restCounts depth counters.count reached,
                Counters.add_leaf]
          | some inner =>
              rcases walkSelections_expansion acyclic used active inner
                (fun name inside => own name (.field inside rest))
                (fun name listed other inside => behind name listed other (.field inside rest)) with
                ⟨expanded, innerExpands, innerCounts⟩
              refine ⟨.field (some expanded) :: more, .field innerExpands restExpands, ?_⟩
              intro depth counters reached
              rw [walkSelections, walk, innerCounts _ _ (Nat.le_max_right _ _), restCounts,
                Counters.add_field]
              exact Counters.le_inner reached _ expanded
      | fragmentSpread name =>
          have spread : Spreads name (.fragmentSpread name :: rest) := .here rest
          rcases Option.isSome_iff_exists.mp (own name spread) with ⟨body, found⟩
          have missing : name ∉ active := fun listed =>
            acyclic name (behind name listed name spread)
          have fewer := inactive_lt found missing
          have uses : forall other, Spreads other body -> Uses fragments name other :=
            fun other inside => ⟨body, found, inside⟩
          rcases walkSelections_expansion acyclic used (name :: active) body
            (fun other inside => used name other (uses other inside))
            (fun earlier listed other inside => by
              rcases List.mem_cons.mp listed with rfl | before
              · exact .single (uses other inside)
              · exact (behind earlier before name spread).tail (uses other inside)) with
            ⟨expanded, innerExpands, innerCounts⟩
          refine ⟨expanded ++ more, .spread found innerExpands restExpands, ?_⟩
          intro depth counters reached
          rw [walkSelections_entered missing found, walk, innerCounts _ _ (Nat.le_max_right _ _),
            restCounts, Counters.add_append]
          exact Counters.le_inner reached _ expanded
      | inlineFragment inner =>
          rcases walkSelections_expansion acyclic used active inner
            (fun name inside => own name (.inlineFragment inside rest))
            (fun name listed other inside =>
              behind name listed other (.inlineFragment inside rest)) with
            ⟨expanded, innerExpands, innerCounts⟩
          refine ⟨.inlineFragment expanded :: more, .inlineFragment innerExpands restExpands, ?_⟩
          intro depth counters reached
          rw [walkSelections, walk, innerCounts _ _ (Nat.le_max_right _ _), restCounts,
            Counters.add_inlineFragment]
          exact Counters.le_inner reached _ expanded
termination_by (inactive fragments active, sizeOf selections)

/-- The walk over the set of an operation. -/
theorem walk_expansion (acyclic : Acyclic fragments) {selections : List Selection}
    (defined : Defined fragments selections) :
    Exists fun expanded : List Selection => Expands fragments selections expanded ∧
      forall depth counters, walk fragments [] depth (some selections) counters =
        (counters.reach depth).add depth expanded := by
  rcases walkSelections_expansion acyclic defined.used [] selections defined.own
    (fun name listed => absurd listed List.not_mem_nil) with ⟨expanded, expands, counts⟩
  refine ⟨expanded, expands, ?_⟩
  intro depth counters
  rw [walk, counts _ _ (Nat.le_max_right _ _)]

end Walk

/-! ## Documents -/

/-- The `selection_set` of a definition that is no fragment. -/
def walkDefinition (fragments : Fragments) (counters : Counters) :
    Definition -> Counters
  | .operation selectionSet => walk fragments [] 1 (some selectionSet) counters
  | .fragment _ _ => counters
  | .typeSystem => walk fragments [] 1 none counters

/-- The counters when every operation is walked over. -/
def countDocument (document : Document) : Counters :=
  document.definitions.foldl (walkDefinition document.fragments) ⟨0, 0⟩

/-- The settings that bound a query. -/
structure Limits where
  maxDepth : Int
  maxFields : Int
  introspection : Bool

/-- `_resource_error` behind the parser. -/
def documentError (limits : Limits) (query : String) (document : Document) : Option String :=
  let counters := countDocument document
  if limits.maxDepth < counters.maxDepth then some "QUERY_TOO_DEEP"
  else if limits.maxFields < counters.fields then some "QUERY_TOO_COMPLEX"
  else if limits.introspection = false ∧
      ("__schema".toList <:+: query.toList ∨ "__type".toList <:+: query.toList) then
    some "INTROSPECTION_DISABLED"
  else none

/-- `_resource_error` -/
def resourceError {Error : Type} (parse : String -> Except Error Document) (limits : Limits)
    (query : String) : Except Error (Option String) :=
  (parse query).map (documentError limits query)

/-- The loop over the definitions of a document, with the counters in front of it and
behind it: operations are walked over, and fragments only where they are spread. -/
inductive Counts (fragments : Fragments) : List Definition -> Counters -> Counters -> Prop
  | done (counters : Counters) : Counts fragments [] counters counters
  | operation {selectionSet : List Selection} {rest : List Definition}
      {counters middle after : Counters}
      (walked : Walks fragments [] 1 (some selectionSet) counters middle)
      (behind : Counts fragments rest middle after) :
      Counts fragments (.operation selectionSet :: rest) counters after
  | fragment (name : String) (selectionSet : List Selection) {rest : List Definition}
      {counters after : Counters} (behind : Counts fragments rest counters after) :
      Counts fragments (.fragment name selectionSet :: rest) counters after
  | typeSystem {rest : List Definition} {counters middle after : Counters}
      (walked : Walks fragments [] 1 none counters middle)
      (behind : Counts fragments rest middle after) :
      Counts fragments (.typeSystem :: rest) counters after

/-- The loop ends on every document, with the counters of the function. -/
theorem counts_iff (fragments : Fragments) (definitions : List Definition)
    (counters after : Counters) :
    Counts fragments definitions counters after <->
      after = definitions.foldl (walkDefinition fragments) counters := by
  constructor
  · intro counted
    induction counted with
    | done => rfl
    | operation walked _ inductionHypothesis =>
        rw [inductionHypothesis, walked.eq_walk]
        rfl
    | fragment name selectionSet _ inductionHypothesis => exact inductionHypothesis
    | typeSystem walked _ inductionHypothesis =>
        rw [inductionHypothesis, walked.eq_walk]
        rfl
  · rintro rfl
    induction definitions generalizing counters with
    | nil => exact .done counters
    | cons definition rest inductionHypothesis =>
        cases definition with
        | operation selectionSet =>
            exact .operation (walks_walk [] 1 (some selectionSet) counters) (inductionHypothesis _)
        | fragment name selectionSet =>
            exact .fragment name selectionSet (inductionHypothesis counters)
        | typeSystem => exact .typeSystem (walks_walk [] 1 none counters) (inductionHypothesis _)

/-- The counters of operations and the sizes of their expansions. -/
theorem foldl_walkDefinition {fragments : Fragments} (acyclic : Acyclic fragments)
    (definitions : List Definition)
    (defined : forall selections, selections ∈ definitions.filterMap Definition.operation? ->
      Defined fragments selections) (counters : Counters) :
    Exists fun expanded : List (List Selection) =>
      List.Forall₂ (Expands fragments) (definitions.filterMap Definition.operation?) expanded ∧
        definitions.foldl (walkDefinition fragments) counters =
          ⟨max counters.maxDepth ((expanded.map nesting).foldr max 0),
            counters.fields + (expanded.map fieldNodes).sum⟩ := by
  induction definitions generalizing counters with
  | nil =>
      refine ⟨[], .nil, ?_⟩
      simp only [List.foldl_nil, List.map_nil, List.foldr_nil, List.sum_nil, Nat.max_zero,
        Nat.add_zero]
  | cons definition rest inductionHypothesis =>
      cases definition with
      | operation selectionSet =>
          have listed : forall selections, selections ∈ rest.filterMap Definition.operation? ->
              Defined fragments selections :=
            fun selections later => defined selections (List.mem_cons_of_mem _ later)
          rcases walk_expansion acyclic (defined selectionSet List.mem_cons_self) with
            ⟨first, expands, walked⟩
          rcases inductionHypothesis listed (walk fragments [] 1 (some selectionSet) counters) with
            ⟨more, moreExpand, counted⟩
          refine ⟨first :: more, .cons expands moreExpand, ?_⟩
          rw [List.foldl_cons]
          refine counted.trans ?_
          rw [walked]
          simp only [Counters.add, Counters.reach, nesting, List.map_cons, List.foldr_cons,
            List.sum_cons, Counters.mk.injEq]
          omega
      | fragment name selectionSet => exact inductionHypothesis defined counters
      | typeSystem =>
          rcases inductionHypothesis defined counters with ⟨expanded, expands, counted⟩
          refine ⟨expanded, expands, ?_⟩
          rw [List.foldl_cons, walkDefinition, walk]
          exact counted

/-- The walk ends on every document.  Where every spread is defined and no
fragment spreads itself, its counters are the field nodes and the nesting of
the one expansion, and a query that is let through is within both limits.  What
is measured is thus what a server would have to resolve, and not the text: a
fragment that is spread often is counted often. -/
theorem limits_measure_expansion (document : Document) :
    (forall counters, Counts document.fragments document.definitions ⟨0, 0⟩ counters <->
      counters = countDocument document) ∧
      (document.Defined -> document.Acyclic ->
        Exists fun expanded : List (List Selection) => document.Expansion expanded ∧
          (forall other, document.Expansion other -> other = expanded) ∧
          (countDocument document).fields = (expanded.map fieldNodes).sum ∧
          (countDocument document).maxDepth = (expanded.map nesting).foldr max 0 ∧
          forall (Error : Type) (parse : String -> Except Error Document) (limits : Limits)
            (query : String), parse query = .ok document ->
              resourceError parse limits query = .ok none ->
                (((expanded.map nesting).foldr max 0 : Nat) : Int) ≤ limits.maxDepth ∧
                  (((expanded.map fieldNodes).sum : Nat) : Int) ≤ limits.maxFields) := by
  refine ⟨fun counters => counts_iff _ _ _ _, ?_⟩
  intro defined acyclic
  rcases foldl_walkDefinition acyclic document.definitions defined.operation ⟨0, 0⟩ with
    ⟨expanded, expands, counted⟩
  have depth : (countDocument document).maxDepth = (expanded.map nesting).foldr max 0 := by
    unfold countDocument
    rw [counted]
    exact Nat.zero_max _
  have fields : (countDocument document).fields = (expanded.map fieldNodes).sum := by
    unfold countDocument
    rw [counted]
    exact Nat.zero_add _
  refine ⟨expanded, expands, fun other again => again.unique expands, fields, depth, ?_⟩
  intro Error parse limits query parsed accepted
  unfold resourceError at accepted
  rw [parsed] at accepted
  have silent : documentError limits query document = none := Except.ok.inj accepted
  unfold documentError at silent
  dsimp only at silent
  split at silent
  · cases silent
  · rename_i shallow
    split at silent
    · cases silent
    · rename_i small
      rw [depth] at shallow
      rw [fields] at small
      exact ⟨Int.not_lt.mp shallow, Int.not_lt.mp small⟩

/-- `fragment P ... { id name }`, `fragment Q ... { owner { ...P } ...P }` and
`{ projects { ...Q ... { ...P } } }`. -/
def sampleDocument : Document where
  definitions := [.fragment "P" [.field none, .field none],
    .fragment "Q" [.field (some [.fragmentSpread "P"]), .fragmentSpread "P"],
    .operation [.field (some [.fragmentSpread "Q", .inlineFragment [.fragmentSpread "P"]])]]

/-- The operation of the sample with its spreads replaced. -/
def sampleExpanded : List Selection :=
  [.field (some [.field (some [.field none, .field none]), .field none, .field none,
    .inlineFragment [.field none, .field none]])]

/-- Selections without nested sets spread what they list. -/
theorem spreads_listed {name : String} {names : List String}
    (inside : Spreads name (names.map Selection.fragmentSpread)) : name ∈ names := by
  induction names with
  | nil => cases inside
  | cons first rest inductionHypothesis =>
      cases inside with
      | here => exact List.mem_cons_self
      | later _ behind => exact List.mem_cons_of_mem _ (inductionHypothesis behind)

theorem uses_sample {name other : String} (uses : Uses sampleDocument.fragments name other) :
    name = "Q" ∧ other = "P" := by
  rcases uses with ⟨body, found, inside⟩
  have listed : (name, body) ∈ sampleDocument.fragments := Dictionary.mem_of_get found
  have members : sampleDocument.fragments = [("P", [.field none, .field none]),
      ("Q", [.field (some [.fragmentSpread "P"]), .fragmentSpread "P"])] := rfl
  rw [members] at listed
  simp only [List.mem_cons, Prod.mk.injEq, List.not_mem_nil, or_false] at listed
  rcases listed with ⟨_, rfl⟩ | ⟨rfl, rfl⟩
  · rcases inside with _ | _ | _ | ⟨_, behind⟩
    rcases behind with _ | _ | _ | ⟨_, behind⟩
    cases behind
  · refine ⟨rfl, ?_⟩
    rcases inside with _ | ⟨nested, _⟩ | _ | ⟨_, behind⟩
    · exact List.mem_singleton.mp (@spreads_listed other ["P"] nested)
    · exact List.mem_singleton.mp (@spreads_listed other ["P"] behind)

theorem acyclic_sample : sampleDocument.Acyclic := by
  have both : forall name other, Relation.TransGen (Uses sampleDocument.fragments) name other ->
      name = "Q" ∧ other = "P" := by
    intro name other path
    induction path with
    | single uses => exact uses_sample uses
    | tail _ uses inductionHypothesis => exact ⟨inductionHypothesis.1, (uses_sample uses).2⟩
  intro name path
  have same := both name name path
  exact absurd (same.1.symm.trans same.2) (by decide)

theorem defined_sample : sampleDocument.Defined := by
  constructor
  · intro selections listed name inside
    have same : selections = [.field (some [.fragmentSpread "Q",
      .inlineFragment [.fragmentSpread "P"]])] := List.mem_singleton.mp listed
    subst same
    rcases inside with _ | ⟨nested, _⟩ | _ | ⟨_, behind⟩
    · rcases nested with _ | _ | _ | ⟨_, behind⟩
      · rfl
      · rcases behind with _ | _ | ⟨inner, _⟩ | ⟨_, nothing⟩
        · have last := List.mem_singleton.mp (@spreads_listed name ["P"] inner)
          subst last
          rfl
        · cases nothing
    · cases behind
  · intro name other uses
    rw [(uses_sample uses).2]
    rfl

/-- The sample has eight fields in three levels, counted on its expansion. -/
theorem limits_measure_expansion_sample : countDocument sampleDocument = ⟨3, 8⟩ := by
  rcases (limits_measure_expansion sampleDocument).2 defined_sample acyclic_sample with
    ⟨expanded, _, only, fields, depth, _⟩
  have fragmentP : Expands sampleDocument.fragments [.field none, .field none]
      [.field none, .field none] := .leaf (.leaf .nil)
  have spreadP : Expands sampleDocument.fragments [.fragmentSpread "P"]
      [.field none, .field none] := .spread rfl fragmentP .nil
  have fragmentQ : Expands sampleDocument.fragments
      [.field (some [.fragmentSpread "P"]), .fragmentSpread "P"]
      [.field (some [.field none, .field none]), .field none, .field none] :=
    .field spreadP spreadP
  have whole : sampleDocument.Expansion [sampleExpanded] :=
    .cons (.field (.spread rfl fragmentQ (.inlineFragment spreadP .nil)) .nil) .nil
  rw [← only _ whole] at fields depth
  calc countDocument sampleDocument
      = ⟨(countDocument sampleDocument).maxDepth, (countDocument sampleDocument).fields⟩ := rfl
    _ = ⟨3, 8⟩ := by
      rw [fields, depth]
      rfl

end ControlPlane
end DjangoOps
