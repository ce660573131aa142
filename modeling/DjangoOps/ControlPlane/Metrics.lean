import DjangoOps.ControlPlane.Queries
import DjangoOps.ControlPlane.Telemetry
import DjangoOps.Foundation.Exposition
import Mathlib.Data.List.Sort

namespace DjangoOps
namespace ControlPlane
namespace Telemetry

open Transition
open Exposition (Sample Line)

/-!
# What a scrape reads

`prometheus` writes the counters of the object, and what `prometheus_extra`
counts in the database, as lines of text.  Labels are written as they are; a
scrape reads the same numbers back because labels come from closed sets.
-/

/-! ## The text -/

/-- A name with labels in braces. -/
def labelled (name : String) (labels : List (String × String)) : String :=
  name ++ "\x7b" ++ ",".intercalate (labels.map fun label => label.1 ++ "=\"" ++ label.2 ++ "\"") ++
    "\x7d"

/-- A metric and its number. -/
def numbered (metric : String) (value : Nat) : String :=
  metric ++ " " ++ String.ofList (Nat.toDigits 10 value)

/-- The labels of an operation. -/
def operationLabels (key : String × String × String) : List (String × String) :=
  [("component", key.1), ("kind", key.2.1), ("outcome", key.2.2)]

def gaugeLabels (key : String × String) : List (String × String) :=
  [("component", key.1), ("kind", key.2)]

/-- `sorted(counter.items())`, where no two items have one key. -/
def sortedItems {Key : Type} (labels : Key -> List (String × String)) (counter : Counter Key) :
    Counter Key :=
  counter.insertionSort fun left right =>
    (labels left.1).map Prod.snd ≤ (labels right.1).map Prod.snd

/-- The lines of one counter. -/
def series {Key : Type} (name : String) (labels : Key -> List (String × String))
    (counter : Counter Key) : List String :=
  (sortedItems labels counter).map fun item => numbered (labelled name (labels item.1)) item.2

/-- `re.fullmatch(r"djangoops_[a-z0-9_]+", name)` -/
def isExtraName (name : String) : Bool :=
  "djangoops_".toList.isPrefixOf name.toList && decide ("djangoops_".length < name.length) &&
    (name.toList.drop "djangoops_".length).all fun char =>
      char.isLower || char.isDigit || char == '_'

/-- The items of `extra` that are written. -/
def extraItems (extra : List (String × Int)) : List (String × Int) :=
  (extra.insertionSort fun left right => left.1 ≤ right.1).filter fun item => isExtraName item.1

/-- The lines of `prometheus`. -/
def prometheusLines (fields : Fields) (extra : List (String × Int)) : List String :=
  "# TYPE djangoops_operations_total counter" ::
    series "djangoops_operations_total" operationLabels fields.counts ++
  "# TYPE djangoops_operation_duration_milliseconds_total counter" ::
    series "djangoops_operation_duration_milliseconds_total" operationLabels fields.durations ++
  "# TYPE djangoops_operations_inflight gauge" ::
    series "djangoops_operations_inflight" gaugeLabels fields.inflight ++
  numbered "djangoops_telemetry_dropped_total" fields.dropped ::
  numbered "djangoops_telemetry_export_errors_total" fields.exportErrors ::
  (extraItems extra).map fun item => numbered item.1 (max 0 item.2).toNat

/-- `prometheus` -/
def prometheus (fields : Fields) (extra : List (String × Int)) : String :=
  "\n".intercalate (prometheusLines fields extra) ++ "\n"

/-- The agents of the projects, one after another. -/
def registeredAgents (database : Database) : List AgentRegistration :=
  database.projects.flatMap fun project =>
    database.agents.filter fun agent => decide (agent.project = project.pk)

/-- `prometheus_extra` -/
def prometheusExtra (database : Database) (runtime : Runtime) : List (String × Int) :=
  [("djangoops_agents_registered", (registeredAgents database).length),
    ("djangoops_agents_connected",
      (registeredAgents database).countP fun agent => (agentState runtime agent).connected),
    ("djangoops_diagnostics_inflight",
      database.operations.countP fun row =>
        decide (row.operation.status ∈ [OperationStatus.pending, .running])),
    ("djangoops_kubernetes_releases_inflight",
      database.releases.countP fun row =>
        decide (row.release.status ∈ [ReleaseStatus.pending, .validating, .migrating, .applying,
          .verifying]))]

/-! ## Samples -/

def sampleOf (name : String) (labels : List (String × String)) (value : Nat) : Sample where
  name := name.toList
  labels := labels.map fun label => (label.1.toList, label.2.toList)
  value := value

def seriesSamples {Key : Type} (name : String) (labels : Key -> List (String × String))
    (counter : Counter Key) : List Sample :=
  (sortedItems labels counter).map fun item => sampleOf name (labels item.1) item.2

def extraSamples (extra : List (String × Int)) : List Sample :=
  (extraItems extra).map fun item => sampleOf item.1 [] (max 0 item.2).toNat

/-- The samples that the text stands for. -/
def samples (fields : Fields) (extra : List (String × Int)) : List Sample :=
  seriesSamples "djangoops_operations_total" operationLabels fields.counts ++
    (seriesSamples "djangoops_operation_duration_milliseconds_total" operationLabels
        fields.durations ++
      (seriesSamples "djangoops_operations_inflight" gaugeLabels fields.inflight ++
        (sampleOf "djangoops_telemetry_dropped_total" [] fields.dropped ::
          sampleOf "djangoops_telemetry_export_errors_total" [] fields.exportErrors ::
            extraSamples extra)))

/-- The lines of the text, with the comments. -/
def metricLines (fields : Fields) (extra : List (String × Int)) : List Line :=
  .comment " TYPE djangoops_operations_total counter".toList ::
    ((seriesSamples "djangoops_operations_total" operationLabels fields.counts).map .metric ++
  .comment " TYPE djangoops_operation_duration_milliseconds_total counter".toList ::
    ((seriesSamples "djangoops_operation_duration_milliseconds_total" operationLabels
        fields.durations).map .metric ++
  .comment " TYPE djangoops_operations_inflight gauge".toList ::
    ((seriesSamples "djangoops_operations_inflight" gaugeLabels fields.inflight).map .metric ++
  .metric (sampleOf "djangoops_telemetry_dropped_total" [] fields.dropped) ::
  .metric (sampleOf "djangoops_telemetry_export_errors_total" [] fields.exportErrors) ::
  (extraSamples extra).map .metric)))

theorem samples_metricLines (fields : Fields) (extra : List (String × Int)) :
    (metricLines fields extra).filterMap Line.sample? = samples fields extra := by
  have kept : forall found : List Sample,
      (found.map Line.metric).filterMap Line.sample? = found := by
    intro found
    rw [List.filterMap_map]
    exact List.filterMap_some
  unfold metricLines samples
  simp only [List.filterMap_cons, List.filterMap_append, Line.sample?, kept]

/-! ## Labels that are written as they are -/

/-- Nothing in the text is escaped. -/
def IsVerbatim (text : String) : Prop := text.toList.flatMap Exposition.escape = text.toList

instance (text : String) : Decidable (IsVerbatim text) := by
  unfold IsVerbatim
  infer_instance

theorem toList_labels {labels : List (String × String)} (some : labels ≠ [])
    (verbatim : forall label, label ∈ labels -> IsVerbatim label.2) :
    (",".intercalate (labels.map fun label => label.1 ++ "=\"" ++ label.2 ++ "\"")).toList ++ ['}'] =
      Exposition.labelsText (labels.map fun label => (label.1.toList, label.2.toList)) := by
  have own : forall label, label ∈ labels ->
      (label.1 ++ "=\"" ++ label.2 ++ "\"").toList =
        Exposition.labelText (label.1.toList, label.2.toList) := by
    intro label listed
    unfold Exposition.labelText
    rw [verbatim label listed]
    simp only [String.toList_append, List.append_assoc]
    rfl
  rw [String.toList_intercalate, List.map_map]
  induction labels with
  | nil => exact absurd rfl some
  | cons label rest inductionHypothesis =>
      have first := own label List.mem_cons_self
      cases rest with
      | nil =>
          rw [List.map_cons, List.map_nil, List.intercalate_singleton, List.map_cons, List.map_nil,
            Exposition.labelsText, ← first]
          rfl
      | cons next more =>
          have later := inductionHypothesis (List.cons_ne_nil _ _)
            (fun other listed => verbatim other (List.mem_cons_of_mem _ listed))
            (fun other listed => own other (List.mem_cons_of_mem _ listed))
          rw [List.map_cons, List.map_cons, List.intercalate_cons_cons, List.append_assoc,
            List.append_assoc, ← List.map_cons, later]
          exact congrArg (· ++ (',' :: _)) first

theorem toList_labelled {name : String} {labels : List (String × String)} (some : labels ≠ [])
    (verbatim : forall label, label ∈ labels -> IsVerbatim label.2) (value : Nat) :
    (numbered (labelled name labels) value).toList = (sampleOf name labels value).text := by
  unfold numbered labelled sampleOf Sample.text
  have written : labels.map (fun label => (label.1.toList, label.2.toList)) ≠ [] := by
    intro empty
    exact some (List.map_eq_nil_iff.mp empty)
  rw [if_neg written, ← toList_labels some verbatim]
  simp only [String.toList_append, String.toList_ofList, List.append_assoc, List.cons_append]
  rfl

theorem toList_numbered (name : String) (value : Nat) :
    (numbered name value).toList = (sampleOf name [] value).text := by
  unfold numbered sampleOf Sample.text
  rw [List.map_nil, if_pos rfl, List.append_nil]
  simp only [String.toList_append, String.toList_ofList, List.append_assoc]
  rfl

theorem toList_series {Key : Type} {name : String} {labels : Key -> List (String × String)}
    {counter : Counter Key} (some : forall key, labels key ≠ [])
    (verbatim : forall key, key ∈ counter.keys -> forall label, label ∈ labels key ->
      IsVerbatim label.2) :
    (series name labels counter).map String.toList =
      ((seriesSamples name labels counter).map Line.metric).map Line.text := by
  unfold series seriesSamples
  rw [List.map_map, List.map_map, List.map_map]
  apply List.map_congr_left
  intro item listed
  have member : item ∈ counter :=
    (List.perm_insertionSort _ counter).mem_iff.mp listed
  exact toList_labelled (some item.1) (verbatim item.1 (List.mem_map_of_mem member)) item.2

theorem toList_prometheus (fields : Fields) (extra : List (String × Int)) :
    (prometheus fields extra).toList =
      TextLines.unlines ((prometheusLines fields extra).map String.toList) := by
  have joined : forall (first : String) (rest : List String),
      ("\n".intercalate (first :: rest) ++ "\n").toList =
        TextLines.unlines ((first :: rest).map String.toList) := by
    intro first rest
    rw [String.toList_append, String.toList_intercalate]
    induction rest generalizing first with
    | nil =>
        rw [List.map_cons, List.map_nil, List.intercalate_singleton]
        exact (List.append_nil _).symm
    | cons next more inductionHypothesis =>
        rw [List.map_cons, List.map_cons, List.intercalate_cons_cons, List.append_assoc,
          ← List.map_cons, inductionHypothesis next]
        unfold TextLines.unlines
        rw [List.flatMap_cons]
        rfl
  exact joined _ _

/-- The keys of an object whose labels are closed, each of them once. -/
structure Fields.Labelled (fields : Fields) : Prop where
  counts : forall key, key ∈ fields.counts.keys ->
    key.1 ∈ allowedComponents ∧ key.2.1 ∈ allowedKinds ∧ key.2.2 ∈ allowedOutcomes
  durations : forall key, key ∈ fields.durations.keys ->
    key.1 ∈ allowedComponents ∧ key.2.1 ∈ allowedKinds ∧ key.2.2 ∈ allowedOutcomes
  inflight : forall key, key ∈ fields.inflight.keys ->
    key.1 ∈ allowedComponents ∧ key.2 ∈ allowedKinds
  countsDistinct : fields.counts.keys.Nodup
  durationsDistinct : fields.durations.keys.Nodup
  inflightDistinct : fields.inflight.keys.Nodup

theorem verbatim_allowed : (forall text, text ∈ allowedComponents -> IsVerbatim text) ∧
    (forall text, text ∈ allowedKinds -> IsVerbatim text) ∧
      forall text, text ∈ allowedOutcomes -> IsVerbatim text := by
  decide +kernel

theorem verbatim_operationLabels {key : String × String × String}
    (allowed : key.1 ∈ allowedComponents ∧ key.2.1 ∈ allowedKinds ∧ key.2.2 ∈ allowedOutcomes)
    (label : String × String) (listed : label ∈ operationLabels key) : IsVerbatim label.2 := by
  rcases verbatim_allowed with ⟨components, kinds, outcomes⟩
  unfold operationLabels at listed
  simp only [List.mem_cons, List.not_mem_nil, or_false] at listed
  rcases listed with rfl | rfl | rfl
  · exact components _ allowed.1
  · exact kinds _ allowed.2.1
  · exact outcomes _ allowed.2.2

theorem verbatim_gaugeLabels {key : String × String}
    (allowed : key.1 ∈ allowedComponents ∧ key.2 ∈ allowedKinds) (label : String × String)
    (listed : label ∈ gaugeLabels key) : IsVerbatim label.2 := by
  rcases verbatim_allowed with ⟨components, kinds, _⟩
  unfold gaugeLabels at listed
  simp only [List.mem_cons, List.not_mem_nil, or_false] at listed
  rcases listed with rfl | rfl
  · exact components _ allowed.1
  · exact kinds _ allowed.2

/-- The text is the text of its lines. -/
theorem toList_prometheusLines {fields : Fields} (labelled : fields.Labelled)
    (extra : List (String × Int)) :
    (prometheusLines fields extra).map String.toList =
      (metricLines fields extra).map Line.text := by
  have counts := @toList_series _ "djangoops_operations_total" operationLabels fields.counts
    (fun _ => List.cons_ne_nil _ _)
    fun key listed => verbatim_operationLabels (labelled.counts key listed)
  have durations := @toList_series _ "djangoops_operation_duration_milliseconds_total"
    operationLabels fields.durations (fun _ => List.cons_ne_nil _ _)
    fun key listed => verbatim_operationLabels (labelled.durations key listed)
  have inflight := @toList_series _ "djangoops_operations_inflight" gaugeLabels fields.inflight
    (fun _ => List.cons_ne_nil _ _)
    fun key listed => verbatim_gaugeLabels (labelled.inflight key listed)
  have others : ((extraItems extra).map fun item => numbered item.1 (max 0 item.2).toNat).map
      String.toList = ((extraSamples extra).map Line.metric).map Line.text := by
    unfold extraSamples
    rw [List.map_map, List.map_map, List.map_map]
    exact List.map_congr_left fun item _ => toList_numbered item.1 _
  unfold prometheusLines metricLines
  simp only [List.map_cons, List.map_append, counts, durations, inflight, others,
    List.append_assoc, List.cons_append, Line.text, toList_numbered]
  rfl

/-! ## Reading the text -/

theorem isName_extra {name : String} (extra : isExtraName name = true) :
    Exposition.IsName name.toList := by
  unfold isExtraName at extra
  rw [Bool.and_eq_true, Bool.and_eq_true] at extra
  rcases extra with ⟨⟨starts, _⟩, rest⟩
  rcases List.isPrefixOf_iff_prefix.mp starts with ⟨more, same⟩
  rw [← same] at rest ⊢
  rw [List.drop_left' (by decide)] at rest
  constructor
  · rfl
  · rw [List.all_append, Bool.and_eq_true]
    refine ⟨by decide, ?_⟩
    apply List.all_eq_true.mpr
    intro char listed
    have kind := List.all_eq_true.mp rest char listed
    unfold Exposition.isNameChar Char.isAlphanum Char.isAlpha
    simp only [Bool.or_eq_true] at kind ⊢
    tauto

theorem wellFormed_sampleOf {name : String} {labels : List (String × String)} {value : Nat}
    (named : Exposition.IsName name.toList)
    (label : forall label, label ∈ labels -> Exposition.IsName label.1.toList) :
    (sampleOf name labels value).WellFormed where
  name := named
  labels := by
    intro other listed
    rcases List.mem_map.mp listed with ⟨own, member, rfl⟩
    exact label own member

theorem isName_operationLabels (key : String × String × String) (label : String × String)
    (listed : label ∈ operationLabels key) : Exposition.IsName label.1.toList := by
  have names : forall name, name ∈ ["component", "kind", "outcome"] ->
      Exposition.IsName name.toList := by
    decide +kernel
  exact names label.1 (List.mem_map_of_mem listed)

theorem isName_gaugeLabels (key : String × String) (label : String × String)
    (listed : label ∈ gaugeLabels key) : Exposition.IsName label.1.toList := by
  have names : forall name, name ∈ ["component", "kind"] -> Exposition.IsName name.toList := by
    decide +kernel
  exact names label.1 (List.mem_map_of_mem listed)

theorem wellFormed_samples (fields : Fields) (extra : List (String × Int)) :
    forall sample, sample ∈ samples fields extra -> sample.WellFormed := by
  have names : forall name, name ∈ ["djangoops_operations_total",
      "djangoops_operation_duration_milliseconds_total", "djangoops_operations_inflight",
      "djangoops_telemetry_dropped_total", "djangoops_telemetry_export_errors_total"] ->
        Exposition.IsName name.toList := by
    decide +kernel
  intro sample listed
  unfold samples seriesSamples extraSamples at listed
  simp only [List.mem_append, List.mem_cons, List.mem_map] at listed
  rcases listed with ⟨item, _, rfl⟩ | ⟨item, _, rfl⟩ | ⟨item, _, rfl⟩ | rfl | rfl | ⟨item, kept, rfl⟩
  · exact wellFormed_sampleOf (names _ (by simp)) (isName_operationLabels item.1)
  · exact wellFormed_sampleOf (names _ (by simp)) (isName_operationLabels item.1)
  · exact wellFormed_sampleOf (names _ (by simp)) (isName_gaugeLabels item.1)
  · exact wellFormed_sampleOf (names _ (by simp)) fun _ none => absurd none List.not_mem_nil
  · exact wellFormed_sampleOf (names _ (by simp)) fun _ none => absurd none List.not_mem_nil
  · exact wellFormed_sampleOf (isName_extra (List.mem_filter.mp kept).2)
      fun _ none => absurd none List.not_mem_nil

/-- A scrape of an object with closed labels reads the samples. -/
theorem scrape_prometheus {fields : Fields} (labelled : fields.Labelled)
    (extra : List (String × Int)) :
    Exposition.scrape (prometheus fields extra).toList = some (samples fields extra) := by
  rw [toList_prometheus, toList_prometheusLines labelled, Exposition.scrape_unlines,
    samples_metricLines]
  intro line listed
  have formed := wellFormed_samples fields extra
  rw [← samples_metricLines] at formed
  cases line with
  | comment text =>
      have comments : forall text, text ∈ [" TYPE djangoops_operations_total counter".toList,
          " TYPE djangoops_operation_duration_milliseconds_total counter".toList,
          " TYPE djangoops_operations_inflight gauge".toList] -> '\n' ∉ text := by
        decide +kernel
      apply comments text
      unfold metricLines at listed
      simp only [List.mem_cons, List.mem_append, List.mem_map, reduceCtorEq, and_false,
        exists_false, false_or, or_false, Line.comment.injEq] at listed
      simp only [List.mem_cons, List.not_mem_nil, or_false]
      exact listed
  | metric sample =>
      exact formed sample (List.mem_filterMap.mpr ⟨.metric sample, listed, rfl⟩)

/-! ## Closed labels in every run -/

theorem allowed_labels (component kind outcome : String) :
    (labels component kind outcome).1 ∈ allowedComponents ∧
      (labels component kind outcome).2.1 ∈ allowedKinds ∧
        (labels component kind outcome).2.2 ∈ allowedOutcomes := by
  unfold labels
  refine ⟨?_, ?_, ?_⟩
  · dsimp only
    split
    · assumption
    · decide
  · dsimp only
    split
    · assumption
    · decide
  · dsimp only
    split
    · assumption
    · decide

theorem Fields.Labelled.begin {fields : Fields} (labelled : fields.Labelled)
    (component kind : String) : (fields.begin (gaugeKey component kind)).Labelled :=
  { labelled with
    inflight := by
      intro key listed
      rcases Counter.mem_keys_set listed with same | earlier
      · have allowed := allowed_labels component kind "pending"
        rw [same]
        exact ⟨allowed.1, allowed.2.1⟩
      · exact labelled.inflight key earlier
    inflightDistinct := Counter.nodup_keys_set labelled.inflightDistinct _ _ }

theorem Fields.Labelled.record {fields : Fields} (labelled : fields.Labelled) (size : Nat)
    (component kind outcome : String) (durationMs : Int) (decrementInflight : Bool) :
    (fields.record size (event component kind outcome durationMs) decrementInflight).Labelled := by
  have allowed := allowed_labels component kind outcome
  refine ⟨?_, ?_, ?_, Counter.nodup_keys_set labelled.countsDistinct _ _,
    Counter.nodup_keys_set labelled.durationsDistinct _ _, ?_⟩
  · intro key listed
    rcases Counter.mem_keys_set listed with same | earlier
    · rw [same]
      exact allowed
    · exact labelled.counts key earlier
  · intro key listed
    rcases Counter.mem_keys_set listed with same | earlier
    · rw [same]
      exact allowed
    · exact labelled.durations key earlier
  · intro key listed
    unfold Fields.record at listed
    cases decrementInflight with
    | false => exact labelled.inflight key listed
    | true =>
        rcases Counter.mem_keys_set listed with same | earlier
        · rw [same]
          exact ⟨allowed.1, allowed.2.1⟩
        · exact labelled.inflight key earlier
  · unfold Fields.record
    cases decrementInflight with
    | false => exact labelled.inflightDistinct
    | true => exact Counter.nodup_keys_set labelled.inflightDistinct _ _

theorem labelled_of_run {setting : Setting} {state : State}
    (reached : (machine setting).Reachable state) : state.fields.Labelled := by
  refine @Machine.ReachableUnder.invariant _ _ _ _ (fun state => state.fields.Labelled) ?_ ?_
    state reached
  · rintro _ rfl
    refine ⟨?_, ?_, ?_, List.nodup_nil, List.nodup_nil, List.nodup_nil⟩
    all_goals
      intro key none
      exact absurd none List.not_mem_nil
  · intro before action after _ labelled _ stepped
    cases step_move stepped with
    | start component kind => exact labelled.begin component kind
    | observe component kind outcome durationMs decrementInflight =>
        exact labelled.record _ component kind outcome durationMs decrementInflight
    | _ => exact { labelled with }

/-! ## What is read -/

theorem sampleOf_inj {name other : String} {labels others : List (String × String)}
    {value number : Nat} :
    sampleOf name labels value = sampleOf other others number <->
      name = other ∧ labels = others ∧ value = number := by
  constructor
  · intro same
    have parts := Sample.mk.inj same
    refine ⟨String.toList_inj.mp parts.1, ?_, parts.2.2⟩
    refine List.map_injective_iff.mpr ?_ parts.2.1
    rintro ⟨first, second⟩ ⟨third, fourth⟩ equal
    have pieces := Prod.mk.inj equal
    exact Prod.ext (String.toList_inj.mp pieces.1) (String.toList_inj.mp pieces.2)
  · rintro ⟨rfl, rfl, rfl⟩
    rfl

theorem operationLabels_injective : Function.Injective operationLabels := by
  rintro ⟨component, kind, outcome⟩ ⟨otherComponent, otherKind, otherOutcome⟩ same
  unfold operationLabels at same
  simp only [List.cons.injEq, Prod.mk.injEq, true_and, and_true] at same
  rw [same.1, same.2.1, same.2.2]

theorem gaugeLabels_injective : Function.Injective gaugeLabels := by
  rintro ⟨component, kind⟩ ⟨otherComponent, otherKind⟩ same
  unfold gaugeLabels at same
  simp only [List.cons.injEq, Prod.mk.injEq, true_and, and_true] at same
  rw [same.1, same.2]

theorem operationLabels_ne_nil (key : String × String × String) : operationLabels key ≠ [] :=
  List.cons_ne_nil _ _

theorem gaugeLabels_ne_nil (key : String × String) : gaugeLabels key ≠ [] := List.cons_ne_nil _ _

theorem gaugeLabels_ne (gauge : String × String) (key : String × String × String) :
    gaugeLabels gauge ≠ operationLabels key := by
  intro same
  cases congrArg List.length same

theorem mem_seriesSamples {Key : Type} {labels : Key -> List (String × String)}
    (injective : Function.Injective labels) {name other : String} {counter : Counter Key}
    {key : Key} {value : Nat} :
    sampleOf other (labels key) value ∈ seriesSamples name labels counter <->
      name = other ∧ (key, value) ∈ counter := by
  unfold seriesSamples sortedItems
  rw [List.mem_map]
  constructor
  · rintro ⟨item, listed, same⟩
    rw [sampleOf_inj] at same
    rcases same with ⟨named, key, value⟩
    have entry := (List.perm_insertionSort _ counter).mem_iff.mp listed
    rw [← injective key, ← value]
    exact ⟨named, entry⟩
  · rintro ⟨rfl, listed⟩
    exact ⟨(key, value), (List.perm_insertionSort _ counter).mem_iff.mpr listed, rfl⟩

/-- A series has no sample with other labels, or under another name. -/
theorem not_mem_seriesSamples {Key : Type} {labels : Key -> List (String × String)}
    {name other : String} {counter : Counter Key} {others : List (String × String)} {value : Nat}
    (differ : name ≠ other ∨ forall key, labels key ≠ others) :
    sampleOf other others value ∉ seriesSamples name labels counter := by
  unfold seriesSamples
  rw [List.mem_map]
  rintro ⟨item, _, same⟩
  rw [sampleOf_inj] at same
  rcases differ with names | keys
  · exact names same.1
  · exact keys item.1 same.2.1

theorem mem_extraSamples {extra : List (String × Int)} {name : String}
    {labels : List (String × String)} {value : Nat} :
    sampleOf name labels value ∈ extraSamples extra <->
      labels = [] ∧ isExtraName name = true ∧
        Exists fun number : Int => (name, number) ∈ extra ∧ value = (max 0 number).toNat := by
  unfold extraSamples extraItems
  rw [List.mem_map]
  constructor
  · rintro ⟨item, kept, same⟩
    rw [sampleOf_inj] at same
    rcases same with ⟨rfl, empty, value⟩
    rcases List.mem_filter.mp kept with ⟨listed, named⟩
    exact ⟨empty.symm, named, item.2, (List.perm_insertionSort _ extra).mem_iff.mp listed,
      value.symm⟩
  · rintro ⟨rfl, named, number, listed, rfl⟩
    exact ⟨(name, number),
      List.mem_filter.mpr ⟨(List.perm_insertionSort _ extra).mem_iff.mpr listed, named⟩, rfl⟩

/-! ### No sample twice -/

/-- What a scraper tells time series apart by. -/
def identity (sample : Sample) : List Char × List (List Char × List Char) :=
  (sample.name, sample.labels)

/-- Samples under one name in front of samples under others. -/
theorem nodup_identity_append {name : List Char} {front back : List Sample}
    (own : forall sample, sample ∈ front -> sample.name = name)
    (others : forall sample, sample ∈ back -> sample.name ≠ name)
    (first : (front.map identity).Nodup) (second : (back.map identity).Nodup) :
    ((front ++ back).map identity).Nodup := by
  rw [List.map_append]
  refine List.nodup_append.mpr ⟨first, second, ?_⟩
  intro left leftListed right rightListed same
  rcases List.mem_map.mp leftListed with ⟨sample, listed, rfl⟩
  rcases List.mem_map.mp rightListed with ⟨other, otherListed, rfl⟩
  have names : sample.name = other.name := congrArg Prod.fst same
  exact others other otherListed (names ▸ own sample listed)

theorem name_seriesSamples {Key : Type} {name : String} {labels : Key -> List (String × String)}
    {counter : Counter Key} {sample : Sample}
    (listed : sample ∈ seriesSamples name labels counter) : sample.name = name.toList := by
  rcases List.mem_map.mp listed with ⟨item, _, rfl⟩
  rfl

theorem nodup_seriesSamples {Key : Type} {labels : Key -> List (String × String)}
    (injective : Function.Injective labels) (name : String) {counter : Counter Key}
    (distinct : counter.keys.Nodup) :
    ((seriesSamples name labels counter).map identity).Nodup := by
  unfold seriesSamples
  rw [List.map_map]
  have keys : ((sortedItems labels counter).map Prod.fst).Nodup :=
    ((List.perm_insertionSort _ counter).map Prod.fst).nodup_iff.mpr distinct
  have inner : Function.Injective fun key : Key =>
      (name.toList, (labels key).map fun label => (label.1.toList, label.2.toList)) := by
    intro first second same
    exact injective (sampleOf_inj.mp (congrArg
      (fun pair : List Char × List (List Char × List Char) => Sample.mk pair.1 pair.2 0)
        same : sampleOf name (labels first) 0 = sampleOf name (labels second) 0)).2.1
  have mapped := keys.map inner
  rw [List.map_map] at mapped
  exact mapped

theorem nodup_extraSamples {extra : List (String × Int)}
    (distinct : (extra.map Prod.fst).Nodup) : ((extraSamples extra).map identity).Nodup := by
  unfold extraSamples extraItems
  rw [List.map_map]
  have sorted : ((extra.insertionSort fun left right => left.1 ≤ right.1).map Prod.fst).Nodup :=
    ((List.perm_insertionSort _ extra).map Prod.fst).nodup_iff.mpr distinct
  have kept := (List.filter_sublist (p := fun item : String × Int => isExtraName item.1)
    |>.map Prod.fst).nodup sorted
  have inner : Function.Injective fun name : String =>
      (name.toList, ([] : List (List Char × List Char))) :=
    fun _ _ same => String.toList_inj.mp (congrArg Prod.fst same)
  have mapped := kept.map inner
  rw [List.map_map] at mapped
  exact mapped

/-- The names that the object itself writes. -/
def ownNames : List String :=
  ["djangoops_operations_total", "djangoops_operation_duration_milliseconds_total",
    "djangoops_operations_inflight", "djangoops_telemetry_dropped_total",
    "djangoops_telemetry_export_errors_total"]

theorem own_dropped : "djangoops_telemetry_dropped_total" ∈ ownNames := by decide

theorem own_errors : "djangoops_telemetry_export_errors_total" ∈ ownNames := by decide

theorem nodup_samples {fields : Fields} (labelled : fields.Labelled) {extra : List (String × Int)}
    (distinct : (extra.map Prod.fst).Nodup)
    (apart : forall item, item ∈ extra -> item.1 ∉ ownNames) :
    ((samples fields extra).map identity).Nodup := by
  have apartNames : forall {name other : String}, name ≠ other -> name.toList ≠ other.toList :=
    fun different same => different (String.toList_inj.mp same)
  have foreign : forall sample, sample ∈ extraSamples extra -> forall name, name ∈ ownNames ->
      sample.name ≠ name.toList := by
    intro sample listed name own same
    rcases List.mem_map.mp listed with ⟨item, kept, rfl⟩
    have member := (List.perm_insertionSort _ extra).mem_iff.mp (List.mem_filter.mp kept).1
    exact apart item member (String.toList_inj.mp same ▸ own)
  have single : forall name value, ([sampleOf name [] value].map identity).Nodup :=
    fun name value => List.nodup_singleton _
  unfold samples
  refine nodup_identity_append (fun _ => name_seriesSamples) ?_
    (nodup_seriesSamples operationLabels_injective _ labelled.countsDistinct)
    (nodup_identity_append (fun _ => name_seriesSamples) ?_
      (nodup_seriesSamples operationLabels_injective _ labelled.durationsDistinct)
      (nodup_identity_append (fun _ => name_seriesSamples) ?_
        (nodup_seriesSamples gaugeLabels_injective _ labelled.inflightDistinct)
        (@nodup_identity_append "djangoops_telemetry_dropped_total".toList [_] _ ?_ ?_
          (single _ _)
          (@nodup_identity_append "djangoops_telemetry_export_errors_total".toList [_] _ ?_ ?_
            (single _ _) (nodup_extraSamples distinct)))))
  · intro sample listed
    simp only [List.mem_append, List.mem_cons] at listed
    rcases listed with inner | inner | rfl | rfl | inner
    · rw [name_seriesSamples inner]
      exact apartNames (by decide)
    · rw [name_seriesSamples inner]
      exact apartNames (by decide)
    · exact apartNames (by decide)
    · exact apartNames (by decide)
    · exact foreign sample inner _ (by simp [ownNames])
  · intro sample listed
    simp only [List.mem_append, List.mem_cons] at listed
    rcases listed with inner | rfl | rfl | inner
    · rw [name_seriesSamples inner]
      exact apartNames (by decide)
    · exact apartNames (by decide)
    · exact apartNames (by decide)
    · exact foreign sample inner _ (by simp [ownNames])
  · intro sample listed
    simp only [List.mem_cons] at listed
    rcases listed with rfl | rfl | inner
    · exact apartNames (by decide)
    · exact apartNames (by decide)
    · exact foreign sample inner _ (by simp [ownNames])
  · intro sample listed
    rw [List.mem_singleton.mp listed]
    rfl
  · intro sample listed
    rcases List.mem_cons.mp listed with rfl | inner
    · exact apartNames (by decide)
    · exact foreign sample inner _ (by simp [ownNames])
  · intro sample listed
    rw [List.mem_singleton.mp listed]
    rfl
  · intro sample listed
    exact foreign sample listed _ (by simp [ownNames])

/-! ### The samples of a run -/

/-- The numbers of the samples that are written under a name. -/
def readTotal (name : String) (found : List Sample) : Nat :=
  ((found.filter fun sample => decide (sample.name = name.toList)).map Sample.value).sum

theorem readTotal_append (name : String) (front back : List Sample) :
    readTotal name (front ++ back) = readTotal name front + readTotal name back := by
  unfold readTotal
  rw [List.filter_append, List.map_append, List.sum_append]

theorem readTotal_eq_zero {name : String} {found : List Sample}
    (other : forall sample, sample ∈ found -> sample.name ≠ name.toList) :
    readTotal name found = 0 := by
  unfold readTotal
  rw [List.filter_eq_nil_iff.mpr fun sample listed => by simpa using other sample listed]
  rfl

theorem readTotal_seriesSamples {Key : Type} (name : String)
    (labels : Key -> List (String × String)) (counter : Counter Key) :
    readTotal name (seriesSamples name labels counter) = counter.total := by
  unfold readTotal
  rw [List.filter_eq_self.mpr fun sample listed => decide_eq_true (name_seriesSamples listed)]
  unfold seriesSamples Counter.total sortedItems
  rw [List.map_map]
  exact ((List.perm_insertionSort _ counter).map Prod.snd).sum_nat

/-- What a scrape of the control plane reads: the samples of the object and of
the database, in their order, and what they say series by series. -/
structure Scraped (state : State) (database : Database) (runtime : Runtime)
    (found : List Sample) : Prop where
  whole : found = samples state.fields (prometheusExtra database runtime)
  operations : forall key value,
    sampleOf "djangoops_operations_total" (operationLabels key) value ∈ found <->
      (key, value) ∈ state.fields.counts
  durations : forall key value,
    sampleOf "djangoops_operation_duration_milliseconds_total" (operationLabels key) value ∈ found <->
      (key, value) ∈ state.fields.durations
  inflight : forall key value,
    sampleOf "djangoops_operations_inflight" (gaugeLabels key) value ∈ found <->
      (key, value) ∈ state.fields.inflight
  dropped : forall value, sampleOf "djangoops_telemetry_dropped_total" [] value ∈ found <->
    value = state.fields.dropped
  errors : forall value, sampleOf "djangoops_telemetry_export_errors_total" [] value ∈ found <->
    value = state.fields.exportErrors
  registered : forall value, sampleOf "djangoops_agents_registered" [] value ∈ found <->
    value = (registeredAgents database).length
  connected : forall value, sampleOf "djangoops_agents_connected" [] value ∈ found <->
    value = (registeredAgents database).countP fun agent => (agentState runtime agent).connected
  diagnostics : forall value, sampleOf "djangoops_diagnostics_inflight" [] value ∈ found <->
    value = database.operations.countP fun row => row.operation.status.active
  releases : forall value, sampleOf "djangoops_kubernetes_releases_inflight" [] value ∈ found <->
    value = database.releases.countP fun row => row.release.status.active
  distinct : (found.map identity).Nodup
  observed : readTotal "djangoops_operations_total" found = state.history.observed

theorem active_listed (status : OperationStatus) :
    decide (status ∈ [OperationStatus.pending, .running]) = status.active := by
  cases status <;> rfl

theorem activeRelease_listed (status : ReleaseStatus) :
    decide (status ∈ [ReleaseStatus.pending, .validating, .migrating, .applying, .verifying]) =
      status.active := by
  cases status <;> rfl

/-- A number that is written without labels is one of the object or of `extra`. -/
theorem mem_samples_plain {fields : Fields} {extra : List (String × Int)} {name : String}
    {value : Nat} :
    sampleOf name [] value ∈ samples fields extra <->
      (name = "djangoops_telemetry_dropped_total" ∧ value = fields.dropped) ∨
        (name = "djangoops_telemetry_export_errors_total" ∧ value = fields.exportErrors) ∨
          (isExtraName name = true ∧ Exists fun number : Int =>
            (name, number) ∈ extra ∧ value = (max 0 number).toNat) := by
  have none {Key : Type} (labels : Key -> List (String × String)) (counter : Counter Key)
      (written : forall key, labels key ≠ []) (series : String) :
      sampleOf name [] value ∉ seriesSamples series labels counter :=
    not_mem_seriesSamples (Or.inr written)
  unfold samples
  simp only [List.mem_append, List.mem_cons, none operationLabels _ fun _ => List.cons_ne_nil _ _,
    none gaugeLabels _ fun _ => List.cons_ne_nil _ _, false_or, sampleOf_inj, true_and,
    mem_extraSamples]

/-- A sample with labels is one of a series. -/
theorem mem_samples_labelled {fields : Fields} {extra : List (String × Int)} {name : String}
    {labels : List (String × String)} (written : labels ≠ []) {value : Nat} :
    sampleOf name labels value ∈ samples fields extra <->
      sampleOf name labels value ∈
          seriesSamples "djangoops_operations_total" operationLabels fields.counts ∨
        sampleOf name labels value ∈
            seriesSamples "djangoops_operation_duration_milliseconds_total" operationLabels
              fields.durations ∨
          sampleOf name labels value ∈
            seriesSamples "djangoops_operations_inflight" gaugeLabels fields.inflight := by
  unfold samples
  simp only [List.mem_append, List.mem_cons, sampleOf_inj, mem_extraSamples, written, false_and,
    and_false, or_false]

/-- Every observation is counted under one key. -/
theorem counted_of_run {setting : Setting} {state : State}
    (reached : (machine setting).Reachable state) :
    state.fields.counts.total = state.history.observed := by
  refine @Machine.ReachableUnder.invariant _ _ _ _
    (fun state => state.fields.counts.total = state.history.observed) ?_ ?_ state reached
  · rintro _ rfl
    rfl
  · intro before action after _ counted _ stepped
    exact operations_step (step_move stepped) counted

/-- The names that `prometheus_extra` counts under. -/
def extraNames : List String :=
  ["djangoops_agents_registered", "djangoops_agents_connected", "djangoops_diagnostics_inflight",
    "djangoops_kubernetes_releases_inflight"]

theorem nodup_prometheusExtra (database : Database) (runtime : Runtime) :
    ((prometheusExtra database runtime).map Prod.fst).Nodup := by
  have names : extraNames.Nodup := by decide
  exact names

theorem apart_prometheusExtra (database : Database) (runtime : Runtime) :
    forall item, item ∈ prometheusExtra database runtime ->
      isExtraName item.1 = true ∧ item.1 ∉ ownNames := by
  have names : forall name, name ∈ extraNames -> isExtraName name = true ∧ name ∉ ownNames := by
    decide +kernel
  intro item listed
  have member : item.1 ∈ (prometheusExtra database runtime).map Prod.fst :=
    List.mem_map_of_mem listed
  exact names item.1 member

section Extra

variable {fields : Fields} {database : Database} {runtime : Runtime}

/-- A number that `prometheus_extra` counts is read as it is. -/
theorem mem_samples_extra {name : String} {count : Nat}
    (listed : (name, (count : Int)) ∈ prometheusExtra database runtime) {value : Nat} :
    sampleOf name [] value ∈ samples fields (prometheusExtra database runtime) <->
      value = count := by
  have distinct := nodup_prometheusExtra database runtime
  rcases apart_prometheusExtra database runtime _ listed with ⟨named, foreign⟩
  rw [mem_samples_plain]
  constructor
  · rintro (⟨rfl, _⟩ | ⟨rfl, _⟩ | ⟨_, number, member, rfl⟩)
    · exact absurd own_dropped foreign
    · exact absurd own_errors foreign
    · have same : number = (count : Int) := by
        have pair := List.inj_on_of_nodup_map distinct member listed rfl
        exact congrArg Prod.snd pair
      rw [same]
      omega
  · rintro rfl
    exact Or.inr (Or.inr ⟨named, value, listed, by omega⟩)

end Extra

/-- The operations are the only samples of their name. -/
theorem readTotal_samples (fields : Fields) (database : Database) (runtime : Runtime) :
    readTotal "djangoops_operations_total" (samples fields (prometheusExtra database runtime)) =
      fields.counts.total := by
  unfold samples
  rw [readTotal_append, readTotal_seriesSamples, readTotal_eq_zero, Nat.add_zero]
  intro sample listed same
  have named : "djangoops_operations_total" ∈ ownNames := by decide
  simp only [List.mem_append, List.mem_cons] at listed
  rcases listed with inner | inner | rfl | rfl | inner
  · rw [name_seriesSamples inner] at same
    exact absurd (String.toList_inj.mp same) (by decide)
  · rw [name_seriesSamples inner] at same
    exact absurd (String.toList_inj.mp same) (by decide)
  · exact absurd (String.toList_inj.mp same) (by decide)
  · exact absurd (String.toList_inj.mp same) (by decide)
  · rcases List.mem_map.mp inner with ⟨item, kept, rfl⟩
    have member := (List.perm_insertionSort _ _).mem_iff.mp (List.mem_filter.mp kept).1
    exact (apart_prometheusExtra database runtime item member).2 (String.toList_inj.mp same ▸ named)

/-- In every run, the text of the metrics is read back as the samples of the
object and of the database and as no others.  Each series is read once, under
labels that tell the operations apart; the gauges are the numbers of registered
and connected agents and of open rows; and the totals of the operations add up
to the number that the run has observed. -/
theorem scraped_of_run (setting : Setting) (state : State)
    (reached : (machine setting).Reachable state) (database : Database) (runtime : Runtime) :
    Exists fun found : List Sample =>
      Exposition.scrape (prometheus state.fields (prometheusExtra database runtime)).toList =
          some found ∧
        Scraped state database runtime found := by
  have labelled := labelled_of_run reached
  refine ⟨_, scrape_prometheus labelled _, ?_⟩
  have operation (name : String) (key : String × String × String) (value : Nat) :
      sampleOf name (operationLabels key) value ∉
        seriesSamples "djangoops_operations_inflight" gaugeLabels state.fields.inflight :=
    not_mem_seriesSamples (Or.inr fun gauge same => gaugeLabels_ne gauge key same)
  have gauge (name other : String) (key : String × String) (value : Nat)
      (counter : Counter (String × String × String)) :
      sampleOf name (gaugeLabels key) value ∉ seriesSamples other operationLabels counter :=
    not_mem_seriesSamples (Or.inr fun operation same => gaugeLabels_ne key operation same.symm)
  constructor
  · rfl
  · intro key value
    rw [mem_samples_labelled (operationLabels_ne_nil key), mem_seriesSamples operationLabels_injective,
      mem_seriesSamples operationLabels_injective]
    simp only [operation, or_false, true_and, String.reduceEq, false_and]
  · intro key value
    rw [mem_samples_labelled (operationLabels_ne_nil key), mem_seriesSamples operationLabels_injective,
      mem_seriesSamples operationLabels_injective]
    simp only [operation, or_false, false_or, true_and, String.reduceEq, false_and]
  · intro key value
    rw [mem_samples_labelled (gaugeLabels_ne_nil key), mem_seriesSamples gaugeLabels_injective]
    simp only [gauge, false_or, true_and]
  · intro value
    rw [mem_samples_plain]
    constructor
    · rintro (⟨_, same⟩ | ⟨named, _⟩ | ⟨_, number, listed, _⟩)
      · exact same
      · exact absurd named (by decide)
      · exact absurd own_dropped (apart_prometheusExtra database runtime _ listed).2
    · exact fun same => Or.inl ⟨rfl, same⟩
  · intro value
    rw [mem_samples_plain]
    constructor
    · rintro (⟨named, _⟩ | ⟨_, same⟩ | ⟨_, number, listed, _⟩)
      · exact absurd named (by decide)
      · exact same
      · exact absurd own_errors (apart_prometheusExtra database runtime _ listed).2
    · exact fun same => Or.inr (Or.inl ⟨rfl, same⟩)
  · intro value
    exact mem_samples_extra (List.mem_cons_self)
  · intro value
    exact @mem_samples_extra state.fields database runtime "djangoops_agents_connected" _
      (List.mem_cons_of_mem _ List.mem_cons_self) value
  · intro value
    have counted := @mem_samples_extra state.fields database runtime
      "djangoops_diagnostics_inflight" _
      (List.mem_cons_of_mem _ (List.mem_cons_of_mem _ List.mem_cons_self)) value
    simpa only [active_listed] using counted
  · intro value
    have counted := @mem_samples_extra state.fields database runtime
      "djangoops_kubernetes_releases_inflight" _
      (List.mem_cons_of_mem _ (List.mem_cons_of_mem _ (List.mem_cons_of_mem _
        List.mem_cons_self))) value
    simpa only [activeRelease_listed] using counted
  · exact nodup_samples labelled (nodup_prometheusExtra database runtime)
      fun item listed => (apart_prometheusExtra database runtime item listed).2
  · rw [← counted_of_run reached]
    exact readTotal_samples state.fields database runtime

/-- One operation is started and finished. -/
def scrapedRun : List Action :=
  [.start "controlplane" "graphql", .observe "controlplane" "graphql" "succeeded" 12 true]

theorem scraped_sample : Exists fun state : State => Exists fun found : List Sample =>
    (Exposition.scrape (prometheus state.fields (prometheusExtra ⟨[], [], [], [], [], 0, 0, 0⟩
          ⟨none, fun _ => 0⟩)).toList = some found ∧
        Scraped state ⟨[], [], [], [], [], 0, 0, 0⟩ ⟨none, fun _ => 0⟩ found) ∧
      (("controlplane", "graphql", "succeeded"), 1) ∈ state.fields.counts := by
  rcases (machine sampleSetting).exists_reachableUnder_of_replay (fun _ _ => True) scrapedRun
    initial rfl
    (fun state => decide ((("controlplane", "graphql", "succeeded"), 1) ∈ state.fields.counts))
    (by decide +kernel) with ⟨state, reached, tested⟩
  rcases scraped_of_run sampleSetting state reached ⟨[], [], [], [], [], 0, 0, 0⟩
    ⟨none, fun _ => 0⟩ with ⟨found, scraped⟩
  exact ⟨state, found, scraped, of_decide_eq_true tested⟩

end Telemetry
end ControlPlane
end DjangoOps
