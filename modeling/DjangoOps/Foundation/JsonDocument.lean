import DjangoOps.Foundation.JsonRoundTrip
import Mathlib.Logic.Relation

namespace DjangoOps
namespace Json

universe u

/-!
# JSON documents up to the order of their members

Two values are the same document when one is made of the other by putting the
members of objects, at any depth, into another order.  On values whose keys are
distinct this is equality of the canonical values, so equality of the texts
that the writer makes.  Every key of a value, however deep, stands in quotation
marks in its text.
-/

variable {Number : Type u}

/-! ## Documents -/

/-- One object of the value has its members in another order. -/
inductive Reordered : Json Number -> Json Number -> Prop
  | members {left right : List (String × Json Number)} (perm : left.Perm right) :
      Reordered (.object left) (.object right)
  | member (front back : List (String × Json Number)) (key : String) {left right : Json Number}
      (inner : Reordered left right) :
      Reordered (.object (front ++ (key, left) :: back)) (.object (front ++ (key, right) :: back))
  | element (front back : List (Json Number)) {left right : Json Number}
      (inner : Reordered left right) :
      Reordered (.array (front ++ left :: back)) (.array (front ++ right :: back))

/-- Equality of documents, up to the order of the members of every object. -/
def SameDocument : Json Number -> Json Number -> Prop := Relation.EqvGen Reordered

theorem SameDocument.refl (value : Json Number) : SameDocument value value :=
  Relation.EqvGen.refl value

theorem SameDocument.symm {left right : Json Number} (same : SameDocument left right) :
    SameDocument right left :=
  Relation.EqvGen.symm left right same

theorem SameDocument.trans {first second third : Json Number} (front : SameDocument first second)
    (back : SameDocument second third) : SameDocument first third :=
  Relation.EqvGen.trans first second third front back

theorem SameDocument.member (front back : List (String × Json Number)) (key : String)
    {left right : Json Number} (same : SameDocument left right) :
    SameDocument (.object (front ++ (key, left) :: back))
      (.object (front ++ (key, right) :: back)) := by
  induction same with
  | rel left right step => exact .rel _ _ (.member front back key step)
  | refl value => exact .refl _
  | symm left right _ inductionHypothesis => exact .symm inductionHypothesis
  | trans first second third _ _ firstHypothesis secondHypothesis =>
      exact .trans firstHypothesis secondHypothesis

theorem SameDocument.element (front back : List (Json Number)) {left right : Json Number}
    (same : SameDocument left right) :
    SameDocument (.array (front ++ left :: back)) (.array (front ++ right :: back)) := by
  induction same with
  | rel left right step => exact .rel _ _ (.element front back step)
  | refl value => exact .refl _
  | symm left right _ inductionHypothesis => exact .symm inductionHypothesis
  | trans first second third _ _ firstHypothesis secondHypothesis =>
      exact .trans firstHypothesis secondHypothesis

/-- The elements of an array are exchanged one after another. -/
theorem SameDocument.array (change : Json Number -> Json Number) (elements : List (Json Number))
    (same : forall element, element ∈ elements -> SameDocument element (change element))
    (front : List (Json Number)) :
    SameDocument (.array (front ++ elements)) (.array (front ++ elements.map change)) := by
  induction elements generalizing front with
  | nil => exact .refl _
  | cons element rest inductionHypothesis =>
      have first := SameDocument.element front rest (same element List.mem_cons_self)
      have later := inductionHypothesis
        (fun other listed => same other (List.mem_cons_of_mem _ listed)) (front ++ [change element])
      rw [List.append_assoc, List.append_assoc] at later
      exact first.trans later

/-- The members of an object are exchanged one after another. -/
theorem SameDocument.object (change : Json Number -> Json Number)
    (members : List (String × Json Number))
    (same : forall member, member ∈ members -> SameDocument member.2 (change member.2))
    (front : List (String × Json Number)) :
    SameDocument (.object (front ++ members))
      (.object (front ++ members.map fun member => (member.1, change member.2))) := by
  induction members generalizing front with
  | nil => exact .refl _
  | cons member rest inductionHypothesis =>
      have first := SameDocument.member front rest member.1 (same member List.mem_cons_self)
      have later := inductionHypothesis
        (fun other listed => same other (List.mem_cons_of_mem _ listed))
        (front ++ [(member.1, change member.2)])
      rw [List.append_assoc, List.append_assoc] at later
      exact first.trans later

/-- The canonical value is the same document. -/
theorem sameDocument_canonical (value : Json Number) : SameDocument value value.canonical := by
  induction value using induct with
  | null => exact .refl _
  | bool value => exact .refl _
  | number value => exact .refl _
  | string text => exact .refl _
  | array elements inductionHypothesis =>
      rw [canonical_array]
      exact SameDocument.array canonical elements inductionHypothesis []
  | object members inductionHypothesis =>
      rw [canonical_object]
      refine (SameDocument.object canonical members inductionHypothesis []).trans ?_
      exact .rel _ _ (.members (sortMembers_perm _).symm)

/-- Members in another order are the same members when they are sorted. -/
theorem sortMembers_of_perm {left right : List (String × Json Number)} (perm : left.Perm right)
    (distinct : (left.map Prod.fst).Nodup) : sortMembers left = sortMembers right := by
  have both : (sortMembers left).Perm (sortMembers right) :=
    (sortMembers_perm left).trans (perm.trans (sortMembers_perm right).symm)
  refine both.eq_of_pairwise ?_ (sortMembers_sorted left) (sortMembers_sorted right)
  intro first second firstListed secondListed below above
  have inLeft := (sortMembers_perm left).mem_iff.mp firstListed
  have alsoLeft := perm.mem_iff.mpr ((sortMembers_perm right).mem_iff.mp secondListed)
  exact List.inj_on_of_nodup_map distinct inLeft alsoLeft (le_antisymm below above)

/-- Another order of the members changes neither whether keys are distinct nor
the canonical value. -/
theorem Reordered.kept {left right : Json Number} (step : Reordered left right) :
    (left.Distinct <-> right.Distinct) ∧
      (left.Distinct -> left.canonical = right.canonical) := by
  induction step with
  | @members left right perm =>
      have keys := (perm.map Prod.fst).nodup_iff
      refine ⟨⟨?_, ?_⟩, ?_⟩
      · rintro ⟨⟩
        rename_i distinct inner
        exact .object _ (keys.mp distinct) fun member listed =>
          inner member (perm.mem_iff.mpr listed)
      · rintro ⟨⟩
        rename_i distinct inner
        exact .object _ (keys.mpr distinct) fun member listed =>
          inner member (perm.mem_iff.mp listed)
      · rintro ⟨⟩
        rename_i distinct inner
        rw [canonical_object, canonical_object]
        refine congrArg Json.object (sortMembers_of_perm (perm.map canonicalMember) ?_)
        rw [keys_canonicalMember]
        exact distinct
  | @member front back key left right _ inductionHypothesis =>
      have keys : (front ++ (key, left) :: back).map Prod.fst =
          (front ++ (key, right) :: back).map Prod.fst := by
        rw [List.map_append, List.map_append]
        rfl
      have other : forall {source target : Json Number}, (source.Distinct -> target.Distinct) ->
          (forall member, member ∈ front ++ (key, source) :: back -> member.2.Distinct) ->
          forall member, member ∈ front ++ (key, target) :: back -> member.2.Distinct := by
        intro source target kept inner member listed
        rcases List.mem_append.mp listed with before | behind
        · exact inner member (List.mem_append_left _ before)
        · rcases List.mem_cons.mp behind with rfl | later
          · exact kept (inner (key, source) (List.mem_append_right _ List.mem_cons_self))
          · exact inner member (List.mem_append_right _ (List.mem_cons_of_mem _ later))
      refine ⟨⟨?_, ?_⟩, ?_⟩
      · rintro ⟨⟩
        rename_i distinct inner
        exact .object _ (keys ▸ distinct) (other inductionHypothesis.1.mp inner)
      · rintro ⟨⟩
        rename_i distinct inner
        exact .object _ (keys ▸ distinct) (other inductionHypothesis.1.mpr inner)
      · rintro ⟨⟩
        rename_i distinct inner
        have same := inductionHypothesis.2
          (inner (key, left) (List.mem_append_right _ List.mem_cons_self))
        rw [canonical_object, canonical_object, List.map_append, List.map_append, List.map_cons,
          List.map_cons]
        change Json.object (sortMembers (_ ++ (key, left.canonical) :: _)) =
          Json.object (sortMembers (_ ++ (key, right.canonical) :: _))
        rw [same]
  | @element front back left right _ inductionHypothesis =>
      have other : forall {source target : Json Number}, (source.Distinct -> target.Distinct) ->
          (forall element, element ∈ front ++ source :: back -> element.Distinct) ->
          forall element, element ∈ front ++ target :: back -> element.Distinct := by
        intro source target kept inner element listed
        rcases List.mem_append.mp listed with before | behind
        · exact inner element (List.mem_append_left _ before)
        · rcases List.mem_cons.mp behind with rfl | later
          · exact kept (inner source (List.mem_append_right _ List.mem_cons_self))
          · exact inner element (List.mem_append_right _ (List.mem_cons_of_mem _ later))
      refine ⟨⟨?_, ?_⟩, ?_⟩
      · rintro ⟨⟩
        rename_i inner
        exact .array _ (other inductionHypothesis.1.mp inner)
      · rintro ⟨⟩
        rename_i inner
        exact .array _ (other inductionHypothesis.1.mpr inner)
      · rintro ⟨⟩
        rename_i inner
        have same := inductionHypothesis.2
          (inner left (List.mem_append_right _ List.mem_cons_self))
        rw [canonical_array, canonical_array, List.map_append, List.map_append, List.map_cons,
          List.map_cons, same]

theorem SameDocument.kept {left right : Json Number} (same : SameDocument left right) :
    (left.Distinct <-> right.Distinct) ∧
      (left.Distinct -> left.canonical = right.canonical) := by
  induction same with
  | rel left right step => exact step.kept
  | refl value => exact ⟨Iff.rfl, fun _ => rfl⟩
  | symm left right _ inductionHypothesis =>
      refine ⟨inductionHypothesis.1.symm, ?_⟩
      intro distinct
      exact (inductionHypothesis.2 (inductionHypothesis.1.mpr distinct)).symm
  | trans first second third _ _ firstHypothesis secondHypothesis =>
      refine ⟨firstHypothesis.1.trans secondHypothesis.1, ?_⟩
      intro distinct
      exact (firstHypothesis.2 distinct).trans (secondHypothesis.2 (firstHypothesis.1.mp distinct))

/-- Values with distinct keys are the same document when their canonical values
are equal. -/
theorem sameDocument_iff {left right : Json Number} (distinct : left.Distinct) :
    SameDocument left right <-> left.canonical = right.canonical := by
  constructor
  · intro same
    exact same.kept.2 distinct
  · intro same
    have leftSame := sameDocument_canonical left
    have rightSame := sameDocument_canonical right
    exact leftSame.trans (same ▸ rightSame.symm)

/-- The texts of two values are equal when they are the same document. -/
theorem dumps_eq_iff (numerals : Numerals Number) {left right : Json Number}
    (leftDistinct : left.Distinct) (rightDistinct : right.Distinct) :
    dumps numerals left = dumps numerals right <-> SameDocument left right := by
  rw [sameDocument_iff leftDistinct]
  constructor
  · exact canonical_of_dumps numerals leftDistinct rightDistinct
  · intro same
    unfold dumps
    rw [same]

/-- The same documents have the same members. -/
theorem SameDocument.get {left right : List (String × Json Number)}
    (same : SameDocument (.object left) (.object right)) (distinct : (Json.object left).Distinct)
    (key : String) : (Json.get key left).map canonical = (Json.get key right).map canonical := by
  have equal := (sameDocument_iff distinct).mp same
  rw [canonical_object, canonical_object] at equal
  cases distinct with
  | object _ leftKeys _ =>
      have other := same.kept.1.mp (.object _ leftKeys ‹_›)
      cases other with
      | object _ rightKeys _ =>
          rw [← get_sortMembers leftKeys, Json.object.inj equal, get_sortMembers rightKeys]

theorem SameDocument.length_eq {left right : List (String × Json Number)}
    (same : SameDocument (.object left) (.object right)) (distinct : (Json.object left).Distinct) :
    left.length = right.length := by
  have equal := (sameDocument_iff distinct).mp same
  rw [canonical_object, canonical_object] at equal
  have lengths := congrArg List.length (Json.object.inj equal)
  rw [(sortMembers_perm _).length_eq, (sortMembers_perm _).length_eq, List.length_map,
    List.length_map] at lengths
  exact lengths

/-! ## Writing a key -/

theorem set_of_not_mem {key : String} (value : Json Number)
    {members : List (String × Json Number)} (missing : key ∉ members.map Prod.fst) :
    set key value members = members ++ [(key, value)] := by
  rw [set_eq]
  exact Dictionary.set_of_missing missing

theorem erase_of_not_mem {key : String} {members : List (String × Json Number)}
    (missing : key ∉ members.map Prod.fst) : erase key members = members := by
  apply List.filter_eq_self.mpr
  intro member listed
  apply decide_eq_true
  intro same
  exact missing (same ▸ List.mem_map_of_mem listed)

theorem erase_set (key : String) (value : Json Number) (members : List (String × Json Number)) :
    erase key (set key value members) = erase key members := by
  induction members with
  | nil =>
      refine List.filter_cons_of_neg ?_
      simp only [ne_eq, not_true_eq_false, decide_false, Bool.false_eq_true, not_false_eq_true]
  | cons member rest inductionHypothesis =>
      unfold set
      by_cases same : member.1 = key
      · rw [if_pos same]
        unfold erase
        rw [List.filter_cons_of_neg (by simp), List.filter_cons_of_neg (by simp [same])]
      · rw [if_neg same]
        unfold erase at inductionHypothesis ⊢
        rw [List.filter_cons_of_pos (by simp [same]), List.filter_cons_of_pos (by simp [same]),
          inductionHypothesis]

/-! ## Keys in the text -/

/-- A key of the value or of one inside it. -/
inductive HasKey (key : String) : Json Number -> Prop
  | own {members : List (String × Json Number)} {value : Json Number}
      (listed : (key, value) ∈ members) : HasKey key (.object members)
  | member {members : List (String × Json Number)} {other : String} {value : Json Number}
      (listed : (other, value) ∈ members) (inner : HasKey key value) : HasKey key (.object members)
  | element {elements : List (Json Number)} {value : Json Number} (listed : value ∈ elements)
      (inner : HasKey key value) : HasKey key (.array elements)

theorem HasKey.canonical {key : String} {value : Json Number} (inside : HasKey key value) :
    HasKey key value.canonical := by
  induction inside with
  | @own members value listed =>
      rw [canonical_object]
      exact .own ((sortMembers_perm _).mem_iff.mpr (List.mem_map_of_mem listed))
  | @member members other value listed _ inductionHypothesis =>
      rw [canonical_object]
      exact .member ((sortMembers_perm _).mem_iff.mpr (List.mem_map_of_mem listed))
        inductionHypothesis
  | @element elements value listed _ inductionHypothesis =>
      rw [canonical_array]
      exact .element (List.mem_map_of_mem listed) inductionHypothesis

variable (numerals : Numerals Number)

/-- What is written of a member stands in what is written of the members. -/
theorem infix_writeMembers {member : String × Json Number}
    {members : List (String × Json Number)} (listed : member ∈ members) :
    writeString member.1 ++ ':' :: write numerals member.2 <:+: writeMembers numerals members := by
  induction members with
  | nil => exact absurd listed List.not_mem_nil
  | cons head rest inductionHypothesis =>
      rw [writeMembers]
      rcases List.mem_cons.mp listed with rfl | later
      · refine ⟨[','], writeMembers numerals rest, ?_⟩
        simp only [List.append_assoc, List.cons_append, List.nil_append]
      · refine (inductionHypothesis later).trans ?_
        refine ⟨',' :: (writeString head.1 ++ ':' :: write numerals head.2), [], ?_⟩
        simp only [List.append_assoc, List.cons_append, List.append_nil]

theorem infix_writeObject {member : String × Json Number}
    {members : List (String × Json Number)} (listed : member ∈ members) :
    writeString member.1 ++ ':' :: write numerals member.2 <:+:
      write numerals (.object members) := by
  cases members with
  | nil => exact absurd listed List.not_mem_nil
  | cons head rest =>
      rw [write]
      rcases List.mem_cons.mp listed with rfl | later
      · refine ⟨['\x7b'], writeMembers numerals rest ++ ['\x7d'], ?_⟩
        simp only [List.append_assoc, List.cons_append, List.nil_append]
      · refine (infix_writeMembers numerals later).trans ?_
        refine ⟨'\x7b' :: (writeString head.1 ++ ':' :: write numerals head.2), ['\x7d'], ?_⟩
        simp only [List.append_assoc, List.cons_append]

theorem infix_writeElements {element : Json Number} {elements : List (Json Number)}
    (listed : element ∈ elements) :
    write numerals element <:+: writeElements numerals elements := by
  induction elements with
  | nil => exact absurd listed List.not_mem_nil
  | cons head rest inductionHypothesis =>
      rw [writeElements]
      rcases List.mem_cons.mp listed with rfl | later
      · exact ⟨[','], writeElements numerals rest, rfl⟩
      · refine (inductionHypothesis later).trans ?_
        refine ⟨',' :: write numerals head, [], ?_⟩
        rw [List.append_nil, List.cons_append]

theorem infix_writeArray {element : Json Number} {elements : List (Json Number)}
    (listed : element ∈ elements) :
    write numerals element <:+: write numerals (.array elements) := by
  cases elements with
  | nil => exact absurd listed List.not_mem_nil
  | cons head rest =>
      rw [write]
      rcases List.mem_cons.mp listed with rfl | later
      · refine ⟨['['], writeElements numerals rest ++ [']'], ?_⟩
        simp only [List.cons_append, List.nil_append]
      · refine (infix_writeElements numerals later).trans ?_
        refine ⟨'[' :: write numerals head, [']'], ?_⟩
        simp only [List.append_assoc, List.cons_append]

/-- A key at any depth stands in the text, between quotation marks. -/
theorem HasKey.infix_write {key : String} {value : Json Number} (inside : HasKey key value) :
    writeString key <:+: write numerals value := by
  induction inside with
  | own listed =>
      refine List.IsInfix.trans ?_ (infix_writeObject numerals listed)
      exact (List.prefix_append _ _).isInfix
  | @member members other value listed _ inductionHypothesis =>
      refine inductionHypothesis.trans (List.IsInfix.trans ?_ (infix_writeObject numerals listed))
      exact ⟨writeString other ++ [':'], [], by
        simp only [List.append_assoc, List.cons_append, List.nil_append, List.append_nil]⟩
  | element listed _ inductionHypothesis =>
      exact inductionHypothesis.trans (infix_writeArray numerals listed)

theorem HasKey.infix_dumps {key : String} {value : Json Number} (inside : HasKey key value) :
    writeString key <:+: (dumps numerals value).toList := by
  rw [dumps, String.toList_ofList]
  exact inside.canonical.infix_write numerals

/-- A printable character that is neither a quotation mark nor a backslash is
written as it is. -/
theorem escapeChar_plain {char : Char} (printable : 32 ≤ char.toNat ∧ char.toNat ≤ 126)
    (unquoted : char ≠ '\"') (plain : char ≠ '\\') : escapeChar char = [char] := by
  have missing : shortEscapes.find? (fun entry => decide (entry.1 = char)) = none := by
    apply List.find?_eq_none.mpr
    intro entry listed same
    have other := of_decide_eq_true same
    simp only [shortEscapes, List.mem_cons, List.not_mem_nil, or_false] at listed
    rcases listed with rfl | rfl | rfl | rfl | rfl | rfl | rfl
    · exact unquoted other.symm
    · exact plain other.symm
    all_goals
      rw [← other] at printable
      exact absurd printable.1 (by decide)
  unfold escapeChar
  rw [missing]
  exact if_pos printable

theorem flatMap_escapeChar {text : List Char} (plain : forall char, char ∈ text ->
    (32 ≤ char.toNat ∧ char.toNat ≤ 126) ∧ char ≠ '\"' ∧ char ≠ '\\') :
    text.flatMap escapeChar = text := by
  induction text with
  | nil => rfl
  | cons first rest inductionHypothesis =>
      rcases plain first List.mem_cons_self with ⟨printable, unquoted, bare⟩
      rw [List.flatMap_cons, escapeChar_plain printable unquoted bare, inductionHypothesis
        fun char listed => plain char (List.mem_cons_of_mem _ listed)]
      rfl

end Json
end DjangoOps
