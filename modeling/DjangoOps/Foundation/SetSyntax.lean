import Mathlib.Data.List.Basic

namespace DjangoOps
namespace SetSyntax

/-!
# The syntax of `--set`

An argument holds assignments that are separated by commas, each of them a key,
an equals sign and a value.  A backslash takes the character behind it as it
is, braces around a value make a list of it, and the dots of a key separate the
steps of its path.  Under `--set-string` every value but a list is a text.
-/

inductive Value
  | text (chars : List Char)
  | list (items : List Char)
  deriving DecidableEq

/-- The text in front of the first `stop` that is not escaped, with the escapes
resolved, and what is behind it. -/
def readUntil (stop : Char) : List Char -> List Char × Option (List Char)
  | [] => ([], none)
  | '\\' :: [] => ([], none)
  | '\\' :: char :: rest => (char :: (readUntil stop rest).1, (readUntil stop rest).2)
  | char :: rest =>
      if char = stop then ([], some rest)
      else (char :: (readUntil stop rest).1, (readUntil stop rest).2)

/-- The steps of the path of a key. -/
def path : List Char -> List (List Char)
  | [] => [[]]
  | '\\' :: [] => [[]]
  | '\\' :: char :: rest => (path rest).modifyHead (List.cons char)
  | char :: rest => if char = '.' then [] :: path rest else (path rest).modifyHead (List.cons char)

/-- The key in front of the first equals sign that is not escaped, as it is
written, and what is behind it. -/
def readKey : List Char -> Option (List Char × List Char)
  | [] => none
  | '\\' :: char :: rest =>
      (readKey rest).map fun parts => ('\\' :: char :: parts.1, parts.2)
  | char :: rest =>
      if char = '=' then some ([], rest)
      else (readKey rest).map fun parts => (char :: parts.1, parts.2)

abbrev Assignment := List (List Char) × Value

/-- The value of a key, and what `more` makes of the text behind its comma. -/
def readValue (more : List Char -> Option (List Assignment)) (key : List (List Char)) :
    List Char -> Option (List Assignment)
  | '\x7b' :: inner =>
      match readUntil '\x7d' inner with
      | (items, some []) => some [(key, .list items)]
      | (items, some (',' :: rest)) => (more rest).map (List.cons (key, .list items))
      | _ => none
  | value =>
      match readUntil ',' value with
      | (chars, none) => some [(key, .text chars)]
      | (chars, some rest) => (more rest).map (List.cons (key, .text chars))

/-- The assignments of an argument, or nothing when it is refused. -/
def assignments : Nat -> List Char -> Option (List Assignment)
  | 0, _ => none
  | _ + 1, [] => some []
  | fuel + 1, text =>
      (readKey text).bind fun parts => readValue (assignments fuel) (path parts.1) parts.2

/-- `--set-string` -/
def setString (argument : List Char) : Option (List Assignment) :=
  assignments (argument.length + 1) argument

/-! ## Values without special characters -/

theorem readUntil_plain {stop char : Char} (escape : char ≠ '\\') (other : char ≠ stop)
    (rest : List Char) : readUntil stop (char :: rest) =
      (char :: (readUntil stop rest).1, (readUntil stop rest).2) := by
  rw [readUntil.eq_4 stop char rest (fun same => absurd same escape)
    (fun _ _ same => absurd same escape), if_neg other]

/-- Nothing is added to what is read, and a text that goes on has lost its `stop`. -/
theorem length_readUntil (stop : Char) (text : List Char) :
    (readUntil stop text).1.length + (readUntil stop text).2.toList.length ≤ text.length := by
  induction text using readUntil.induct stop with
  | case1 => exact Nat.le_refl _
  | case2 => exact Nat.zero_le _
  | case3 char rest inductionHypothesis =>
      rw [readUntil]
      simp only [List.length_cons]
      omega
  | case4 rest single pair =>
      rw [readUntil.eq_4 stop stop rest single pair, if_pos rfl]
      simp only [List.length_nil, Option.toList_some, List.length_cons]
      omega
  | case5 char rest single pair other inductionHypothesis =>
      rw [readUntil.eq_4 stop char rest single pair, if_neg other]
      simp only [List.length_cons]
      omega

/-- A text is read as it is exactly when nothing in it ends it or escapes. -/
theorem readUntil_eq_self {stop : Char} {text : List Char} :
    readUntil stop text = (text, none) <-> stop ∉ text ∧ '\\' ∉ text := by
  induction text using readUntil.induct stop with
  | case1 => exact iff_of_true rfl ⟨List.not_mem_nil, List.not_mem_nil⟩
  | case2 =>
      refine iff_of_false ?_ ?_
      · intro same
        cases congrArg Prod.fst same
      · exact fun both => both.2 List.mem_cons_self
  | case3 char rest inductionHypothesis =>
      refine iff_of_false ?_ ?_
      · intro same
        have shorter := length_readUntil stop rest
        rw [readUntil] at same
        have lengths := congrArg (fun read => read.1.length) same
        simp only [List.length_cons] at lengths
        omega
      · exact fun both => both.2 List.mem_cons_self
  | case4 rest single pair =>
      refine iff_of_false ?_ ?_
      · rw [readUntil.eq_4 stop stop rest single pair, if_pos rfl]
        intro same
        cases congrArg Prod.snd same
      · exact fun both => both.1 List.mem_cons_self
  | case5 char rest single pair other inductionHypothesis =>
      have plain : char ≠ '\\' := by
        intro escape
        cases rest with
        | nil => exact single escape rfl
        | cons next more => exact pair next more escape rfl
      rw [readUntil_plain plain other, Prod.mk.injEq, List.cons.injEq, List.mem_cons, List.mem_cons]
      have rest := inductionHypothesis
      rw [Prod.ext_iff] at rest
      dsimp only at rest
      constructor
      · rintro ⟨⟨_, read⟩, ended⟩
        have inner := rest.mp ⟨read, ended⟩
        refine ⟨?_, ?_⟩
        · rintro (same | later)
          · exact other same.symm
          · exact inner.1 later
        · rintro (same | later)
          · exact plain same.symm
          · exact inner.2 later
      · rintro ⟨ends, escapes⟩
        have inner := rest.mpr ⟨fun later => ends (Or.inr later), fun later => escapes (Or.inr later)⟩
        exact ⟨⟨rfl, inner.1⟩, inner.2⟩

/-- A value that is set as it is written: no comma, no backslash, and no brace
at its start. -/
structure Verbatim (value : List Char) : Prop where
  comma : ',' ∉ value
  escape : '\\' ∉ value
  brace : value.head? ≠ some '\x7b'

theorem readKey_append {key : List Char} (plain : '=' ∉ key ∧ '\\' ∉ key) (value : List Char) :
    readKey (key ++ '=' :: value) = some (key, value) := by
  induction key with
  | nil => rfl
  | cons char rest inductionHypothesis =>
      have equals : char ≠ '=' := fun same => plain.1 (same ▸ List.mem_cons_self)
      have escape : char ≠ '\\' := fun same => plain.2 (same ▸ List.mem_cons_self)
      have later := inductionHypothesis
        ⟨fun listed => plain.1 (List.mem_cons_of_mem _ listed),
          fun listed => plain.2 (List.mem_cons_of_mem _ listed)⟩
      rw [List.cons_append, readKey, if_neg equals, later]
      · rfl
      · exact fun _ _ same => absurd same escape

/-- What `readValue` does with a value that is no list. -/
theorem readValue_text {more : List Char -> Option (List Assignment)} {key : List (List Char)}
    {value : List Char} (brace : value.head? ≠ some '\x7b') :
    readValue more key value =
      match readUntil ',' value with
      | (chars, none) => some [(key, .text chars)]
      | (chars, some rest) => (more rest).map (List.cons (key, .text chars)) := by
  unfold readValue
  split
  · exact absurd rfl brace
  · rfl

theorem readValue_iff {more : List Char -> Option (List Assignment)} {key : List (List Char)}
    {value : List Char} :
    readValue more key value = some [(key, .text value)] <-> Verbatim value := by
  by_cases brace : value.head? = some '\x7b'
  · refine iff_of_false ?_ (fun verbatim => verbatim.brace brace)
    intro same
    unfold readValue at same
    split at same
    · split at same
      · cases same
      · rcases Option.map_eq_some_iff.mp same with ⟨rest, _, impossible⟩
        cases impossible
      · cases same
    · rename_i other
      cases value with
      | nil => cases brace
      | cons first rest =>
          cases brace
          exact other rest rfl
  · rw [readValue_text brace]
    constructor
    · intro same
      cases read : readUntil ',' value with
      | mk chars behind =>
          rw [read] at same
          cases behind with
          | none =>
              cases same
              have plain := readUntil_eq_self.mp read
              exact ⟨plain.1, plain.2, brace⟩
          | some rest =>
              rcases Option.map_eq_some_iff.mp same with ⟨later, _, whole⟩
              rw [List.cons.injEq, Prod.mk.injEq, Value.text.injEq] at whole
              have shorter := length_readUntil ',' value
              rw [read, whole.1.2, Option.toList_some, List.length_singleton] at shorter
              exact absurd shorter (Nat.not_succ_le_self _)
    · intro verbatim
      rw [readUntil_eq_self.mpr ⟨verbatim.comma, verbatim.escape⟩]

/-- One assignment with its key and value as written, and nothing else. -/
theorem setString_iff {key value : List Char} (written : key ≠ []) (plain : '=' ∉ key ∧ '\\' ∉ key) :
    setString (key ++ '=' :: value) = some [(path key, .text value)] <-> Verbatim value := by
  unfold setString
  rw [assignments, readKey_append plain]
  · exact readValue_iff
  · intro empty
    rw [List.append_eq_nil_iff] at empty
    exact written empty.1

end SetSyntax
end DjangoOps
