import DjangoOps.Foundation.Dictionary
import DjangoOps.Foundation.JsonRoundTrip

namespace DjangoOps

universe u

/-!
# YAML documents

The values that a safe loader makes of a document, in which the keys of a
dictionary may be values of any kind, and dictionaries with string keys in the
order in which they are written.

A loader and a dumper are parameters.  They are only relied on for plain data,
and the ones that write plain data in flow style, which is JSON, show that a
loader can invert its dumper there.
-/

/-! ## Documents -/

/-- What a safe loader makes of a document.  `Other` are the values that are
neither plain nor containers: floats, dates and the like. -/
inductive Yaml (Other : Type u)
  | null
  | bool (value : Bool)
  | int (value : Int)
  | str (text : String)
  | list (elements : List (Yaml Other))
  | dict (members : List (Yaml Other × Yaml Other))
  | other (value : Other)

namespace Yaml

variable {Other : Type u}

def key? : Yaml Other -> Option String
  | .str text => some text
  | _ => none

/-- The value of a string key. -/
def get (key : String) (members : List (Yaml Other × Yaml Other)) : Option (Yaml Other) :=
  (members.find? fun member => decide (member.1.key? = some key)).map Prod.snd

/-- Write a string key, in its place when it is there. -/
def set (key : String) (value : Yaml Other) :
    List (Yaml Other × Yaml Other) -> List (Yaml Other × Yaml Other)
  | [] => [(.str key, value)]
  | member :: rest =>
      if member.1.key? = some key then (member.1, value) :: rest
      else member :: set key value rest

/-- `dict.pop` -/
def erase (key : String) (members : List (Yaml Other × Yaml Other)) :
    List (Yaml Other × Yaml Other) :=
  members.filter fun member => decide (member.1.key? ≠ some key)

/-- `all(isinstance(key, str) for key in value)` -/
def stringKeys (members : List (Yaml Other × Yaml Other)) : Bool :=
  members.all fun member => member.1.key?.isSome

/-- `set(value) == names` -/
def keysAre (names : List String) (members : List (Yaml Other × Yaml Other)) : Bool :=
  (members.all fun member => names.any fun name => decide (member.1.key? = some name)) &&
    names.all fun name => (get name members).isSome

/-- A dictionary with string keys. -/
def record (members : List (String × Yaml Other)) : List (Yaml Other × Yaml Other) :=
  members.map fun member => (.str member.1, member.2)

/-- The value at the end of a path of string keys. -/
def at? : List String -> Yaml Other -> Option (Yaml Other)
  | [], value => some value
  | key :: rest, .dict members => (get key members).bind (at? rest)
  | _ :: _, _ => none

/-- Strings, booleans, integers and null in lists and in dictionaries with
distinct string keys. -/
inductive Plain : Yaml Other -> Prop
  | null : Plain .null
  | bool (value : Bool) : Plain (.bool value)
  | int (value : Int) : Plain (.int value)
  | str (text : String) : Plain (.str text)
  | list (elements : List (Yaml Other)) (inner : forall element, element ∈ elements -> Plain element) :
      Plain (.list elements)
  | dict (members : List (String × Yaml Other)) (keys : (members.map Prod.fst).Nodup)
      (inner : forall member, member ∈ members -> Plain member.2) : Plain (.dict (record members))

theorem get_record (key : String) (members : List (String × Yaml Other)) :
    get key (record members) = Dictionary.get key members := by
  induction members with
  | nil => rfl
  | cons member rest inductionHypothesis =>
      by_cases same : member.1 = key
      · simp only [get, Dictionary.get, record, List.map_cons, List.find?_cons, key?, same,
          decide_true, Option.map_some]
      · have skipped : (some member.1 = some key) = False := by
          simpa only [Option.some.injEq, eq_iff_iff, iff_false] using same
        rw [Dictionary.get_cons_ne same, ← inductionHypothesis]
        simp only [get, record, List.map_cons, List.find?_cons, key?, skipped, decide_false]

theorem get_set_self (key : String) (value : Yaml Other)
    (members : List (Yaml Other × Yaml Other)) : get key (set key value members) = some value := by
  induction members with
  | nil => simp only [set, get, List.find?_cons, key?, decide_true, Option.map_some]
  | cons member rest inductionHypothesis =>
      by_cases same : member.1.key? = some key
      · rw [set, if_pos same]
        simp only [get, List.find?_cons, same, decide_true, Option.map_some]
      · rw [set, if_neg same]
        simp only [get, List.find?_cons, decide_eq_false same]
        exact inductionHypothesis

theorem get_set_ne {key other : String} (different : other ≠ key) (value : Yaml Other)
    (members : List (Yaml Other × Yaml Other)) :
    get other (set key value members) = get other members := by
  have apart : Not (some key = some other) := fun same => different (Option.some.inj same).symm
  induction members with
  | nil =>
      have skipped : decide ((Yaml.str key : Yaml Other).key? = some other) = false :=
        decide_eq_false apart
      simp only [set, get, List.find?_cons, skipped]
  | cons member rest inductionHypothesis =>
      by_cases same : member.1.key? = some key
      · rw [set, if_pos same]
        simp only [get, List.find?_cons, same, decide_eq_false apart]
      · rw [set, if_neg same]
        simp only [get, List.find?_cons]
        cases decide (member.1.key? = some other) with
        | true => rfl
        | false => exact inductionHypothesis

theorem stringKeys_record (members : List (String × Yaml Other)) :
    stringKeys (record members) = true := by
  apply List.all_eq_true.mpr
  intro member listed
  rcases List.mem_map.mp listed with ⟨entry, _, same⟩
  rw [← same]
  rfl

/-! ## Loaders and dumpers -/

/-- `safe_load`, which fails on some texts, and `safe_dump`. -/
structure Library (Other : Type u) where
  load : String -> Option (Yaml Other)
  dump : Yaml Other -> String

/-- Plain data is read back from its text. -/
def Library.Inverts (library : Library Other) : Prop :=
  forall value : Yaml Other, Plain value -> library.load (library.dump value) = some value

mutual

/-- Plain data as a JSON value; what is not plain is left out. -/
def toJson : Yaml Other -> Json Int
  | .null => .null
  | .bool value => .bool value
  | .int value => .number value
  | .str text => .string text
  | .list elements => .array (toElements elements)
  | .dict members => .object (toMembers members)
  | .other _ => .null

def toElements : List (Yaml Other) -> List (Json Int)
  | [] => []
  | element :: rest => toJson element :: toElements rest

def toMembers : List (Yaml Other × Yaml Other) -> List (String × Json Int)
  | [] => []
  | member :: rest => (member.1.key?.getD "", toJson member.2) :: toMembers rest

end

mutual

def ofJson : Json Int -> Yaml Other
  | .null => .null
  | .bool value => .bool value
  | .number value => .int value
  | .string text => .str text
  | .array elements => .list (ofElements elements)
  | .object members => .dict (ofMembers members)

def ofElements : List (Json Int) -> List (Yaml Other)
  | [] => []
  | element :: rest => ofJson element :: ofElements rest

def ofMembers : List (String × Json Int) -> List (Yaml Other × Yaml Other)
  | [] => []
  | member :: rest => (.str member.1, ofJson member.2) :: ofMembers rest

end

theorem toElements_eq (elements : List (Yaml Other)) : toElements elements = elements.map toJson := by
  induction elements with
  | nil => rfl
  | cons element rest inductionHypothesis => rw [toElements, inductionHypothesis, List.map_cons]

theorem toMembers_record (members : List (String × Yaml Other)) :
    toMembers (record members) = members.map fun member => (member.1, toJson member.2) := by
  induction members with
  | nil => rfl
  | cons member rest inductionHypothesis =>
      unfold record at inductionHypothesis ⊢
      rw [List.map_cons, toMembers, inductionHypothesis]
      rfl

theorem ofElements_map {elements : List (Yaml Other)}
    (inner : forall element, element ∈ elements -> ofJson (toJson element) = element) :
    ofElements (elements.map toJson) = elements := by
  induction elements with
  | nil => rfl
  | cons element rest inductionHypothesis =>
      rw [List.map_cons, ofElements, inner element List.mem_cons_self,
        inductionHypothesis fun later member => inner later (List.mem_cons_of_mem _ member)]

theorem ofMembers_map {members : List (String × Yaml Other)}
    (inner : forall member, member ∈ members -> ofJson (toJson member.2) = member.2) :
    ofMembers (members.map fun member => (member.1, toJson member.2)) = record members := by
  induction members with
  | nil => rfl
  | cons member rest inductionHypothesis =>
      rw [List.map_cons, ofMembers, inner member List.mem_cons_self,
        inductionHypothesis fun later listed => inner later (List.mem_cons_of_mem _ listed)]
      rfl

/-- Plain data is a JSON value with distinct keys. -/
theorem Plain.toJson {value : Yaml Other} (plain : Plain value) :
    ofJson value.toJson = value ∧ value.toJson.Distinct := by
  induction plain with
  | null => exact ⟨rfl, .null⟩
  | bool value => exact ⟨rfl, .bool value⟩
  | int value => exact ⟨rfl, .number value⟩
  | str text => exact ⟨rfl, .string text⟩
  | list elements _ inner =>
      rw [Yaml.toJson, toElements_eq]
      constructor
      · rw [ofJson, ofElements_map fun element member => (inner element member).1]
      · refine .array _ ?_
        intro element member
        rcases List.mem_map.mp member with ⟨original, listed, rfl⟩
        exact (inner original listed).2
  | dict members keys _ inner =>
      rw [Yaml.toJson, toMembers_record]
      constructor
      · rw [ofJson, ofMembers_map fun member listed => (inner member listed).1]
      · refine .object _ ?_ ?_
        · rw [List.map_map]
          exact keys
        · intro entry listed
          rcases List.mem_map.mp listed with ⟨original, member, rfl⟩
          exact (inner original member).2

/-- The library that writes in flow style, which is JSON. -/
def Library.flow : Library Other where
  load text := (Json.loads .decimal text).map ofJson
  dump value := String.ofList (Json.write .decimal value.toJson)

theorem flow_inverts : (Library.flow : Library Other).Inverts := by
  intro value plain
  have json := plain.toJson
  unfold Library.flow
  dsimp only
  rw [Json.loads_write .decimal json.2, Option.map_some, json.1]

theorem Library.Inverts.dump_inj {library : Library Other} (inverts : library.Inverts)
    {first second : Yaml Other} (plainFirst : Plain first) (plainSecond : Plain second)
    (same : library.dump first = library.dump second) : first = second := by
  have read := inverts first plainFirst
  rw [same, inverts second plainSecond] at read
  exact (Option.some.inj read).symm

/-- The library that writes some documents in another style. -/
def Library.restyled (library : Library Other) (styles : List (Yaml Other × String)) :
    Library Other where
  load text :=
    match styles.find? fun style => decide (style.2 = text) with
    | some style => some style.1
    | none => library.load text
  dump value :=
    match styles.find? fun style => decide (library.dump style.1 = library.dump value) with
    | some style => style.2
    | none => library.dump value

section Restyled

variable {library : Library Other} {styles : List (Yaml Other × String)}

/-- The other texts are read back when they are distinct and had no meaning
before. -/
theorem Library.Inverts.restyled (inverts : library.Inverts)
    (plain : forall style, style ∈ styles -> Plain style.1)
    (distinct : (styles.map Prod.snd).Nodup)
    (fresh : forall style, style ∈ styles -> library.load style.2 = none) :
    (library.restyled styles).Inverts := by
  intro value plainValue
  unfold Library.restyled
  dsimp only
  cases written : styles.find? fun style => decide (library.dump style.1 = library.dump value) with
  | some style =>
      have member := List.mem_of_find?_eq_some written
      have same : library.dump style.1 = library.dump value := by
        simpa only [decide_eq_true_eq] using List.find?_some written
      have document := inverts.dump_inj (plain style member) plainValue same
      cases read : styles.find? fun other => decide (other.2 = style.2) with
      | some other =>
          have text : other.2 = style.2 := by
            simpa only [decide_eq_true_eq] using List.find?_some read
          have equal := List.inj_on_of_nodup_map distinct (List.mem_of_find?_eq_some read) member text
          simp only [equal, document]
      | none =>
          have missed := List.find?_eq_none.mp read style member
          exact absurd (decide_eq_true rfl) missed
  | none =>
      have back := inverts value plainValue
      cases read : styles.find? fun style => decide (style.2 = library.dump value) with
      | some style =>
          have text : style.2 = library.dump value := by
            simpa only [decide_eq_true_eq] using List.find?_some read
          have unread := fresh style (List.mem_of_find?_eq_some read)
          rw [text, back] at unread
          cases unread
      | none => simp only [back]

/-- A document that is listed once is written in the style of its entry. -/
theorem Library.Inverts.dump_restyled (inverts : library.Inverts)
    (plain : forall style, style ∈ styles -> Plain style.1)
    (distinct : (styles.map Prod.fst).Nodup) {document : Yaml Other} {text : String}
    (member : (document, text) ∈ styles) : (library.restyled styles).dump document = text := by
  unfold Library.restyled
  dsimp only
  cases written : styles.find? fun other => decide (library.dump other.1 = library.dump document) with
  | some other =>
      have listed := List.mem_of_find?_eq_some written
      have same : library.dump other.1 = library.dump document := by
        simpa only [decide_eq_true_eq] using List.find?_some written
      have first := inverts.dump_inj (plain other listed) (plain _ member) same
      have equal := List.inj_on_of_nodup_map distinct listed member first
      simp only [equal]
  | none =>
      have missed := List.find?_eq_none.mp written _ member
      exact absurd (decide_eq_true rfl) missed

end Restyled

end Yaml
end DjangoOps
