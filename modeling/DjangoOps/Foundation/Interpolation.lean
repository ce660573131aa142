import DjangoOps.Foundation.Yaml

namespace DjangoOps
namespace Interpolation

/-!
# Variable interpolation in Compose files

In the strings of a document `$NAME` and `${NAME}` stand for a variable of the
environment, braces may add an operator and a word, and two dollars stand for
one.  What happens to a dollar in front of anything else differs from version to
version: some refuse it, others keep it.

A text means itself in every environment exactly when no dollar in it opens a
reference.
-/

def isNameStart (char : Char) : Bool := char.isAlpha || char == '_'
def isNameChar (char : Char) : Bool := char.isAlphanum || char == '_'

/-- The values of the variables that are set. -/
abbrev Environment := List Char -> Option (List Char)

inductive Token
  | letter (char : Char)
  | escaped
  | named (first : Char) (more : List Char)
  | braced (inside : List Char)
  | stray
  | unclosed
  deriving DecidableEq

/-- The text up to the brace that closes, and behind it. -/
def closing : Nat -> List Char -> Option (List Char × List Char)
  | _, [] => none
  | depth, char :: rest =>
      if char = '\x7d' then
        match depth with
        | 0 => some ([], rest)
        | outer + 1 => (closing outer rest).map fun cut => (char :: cut.1, cut.2)
      else
        (closing (if char = '\x7b' then depth + 1 else depth) rest).map fun cut =>
          (char :: cut.1, cut.2)

/-- The token behind a dollar. -/
def reference : List Char -> Token × List Char
  | [] => (.stray, [])
  | char :: rest =>
      if char = '$' then (.escaped, rest)
      else if char = '\x7b' then
        match closing 0 rest with
        | some cut => (.braced cut.1, cut.2)
        | none => (.unclosed, rest)
      else if isNameStart char then
        (.named char (rest.takeWhile isNameChar), rest.dropWhile isNameChar)
      else (.stray, char :: rest)

/-- The first token. -/
def next (char : Char) (rest : List Char) : Token × List Char :=
  if char = '$' then reference rest else (.letter char, rest)

/-- The value of what stands in braces, with the meaning of the word behind an
operator. -/
def substitute (environment : Environment) (again : List Char -> Option (List Char))
    (inside : List Char) : Option (List Char) :=
  let name := inside.takeWhile isNameChar
  let value := environment name
  if (name.head?.map isNameStart).getD false = false then none
  else
    match inside.dropWhile isNameChar with
    | [] => some (value.getD [])
    | ':' :: '-' :: word => if value.getD [] = [] then again word else value
    | '-' :: word => if value = none then again word else value
    | ':' :: '?' :: _ => if value.getD [] = [] then none else value
    | '?' :: _ => value
    | ':' :: '+' :: word => if value.getD [] = [] then some [] else again word
    | '+' :: word => if value = none then some [] else again word
    | _ => none

/-- The text of a token, when it has a meaning. -/
def value (keeps : Bool) (environment : Environment) (again : List Char -> Option (List Char)) :
    Token -> Option (List Char)
  | .letter char => some [char]
  | .escaped => some ['$']
  | .named first more => some ((environment (first :: more)).getD [])
  | .braced inside => substitute environment again inside
  | .stray => if keeps then some ['$'] else none
  | .unclosed => none

/-- Token after token.  Every token has a letter, so fuel for each letter is
enough. -/
def run (keeps : Bool) (environment : Environment) : Nat -> List Char -> Option (List Char)
  | 0, _ => none
  | _ + 1, [] => some []
  | fuel + 1, char :: rest =>
      let token := next char rest
      (value keeps environment (run keeps environment fuel) token.1).bind fun text =>
        (run keeps environment fuel token.2).map fun more => text ++ more

/-- The meaning of a text. -/
def interpolate (keeps : Bool) (environment : Environment) (text : List Char) :
    Option (List Char) :=
  run keeps environment (text.length + 1) text

/-! ## Inert texts -/

/-- A dollar in front of the text opens a reference. -/
def opens : List Char -> Bool
  | [] => false
  | char :: _ => char == '$' || char == '\x7b' || isNameStart char

/-- No dollar opens a reference, and there is none that is refused. -/
def inert (keeps : Bool) : List Char -> Bool
  | [] => true
  | char :: rest =>
      (char != '$' || (keeps && !opens rest)) && inert keeps rest

theorem inert_of_plain {keeps : Bool} {text : List Char} (plain : '$' ∉ text) :
    inert keeps text = true := by
  induction text with
  | nil => rfl
  | cons char rest inductionHypothesis =>
      rw [List.mem_cons, not_or] at plain
      unfold inert
      rw [inductionHypothesis plain.2, bne_iff_ne.mpr (Ne.symm plain.1)]
      rfl

/-- What follows decides about a text behind one without dollars. -/
theorem inert_append {keeps : Bool} {front : List Char} (plain : '$' ∉ front) (back : List Char) :
    inert keeps (front ++ back) = inert keeps back := by
  induction front with
  | nil => rfl
  | cons char rest inductionHypothesis =>
      rw [List.mem_cons, not_or] at plain
      rw [List.cons_append, inert, inductionHypothesis plain.2, bne_iff_ne.mpr (Ne.symm plain.1)]
      rfl

theorem reference_of_not_opens {text : List Char} (closed : opens text = false) :
    reference text = (.stray, text) := by
  cases text with
  | nil => rfl
  | cons char rest =>
      unfold opens at closed
      rw [Bool.or_eq_false_iff, Bool.or_eq_false_iff, beq_eq_false_iff_ne,
        beq_eq_false_iff_ne] at closed
      simp only [reference, if_neg closed.1.1, if_neg closed.1.2, closed.2, Bool.false_eq_true,
        if_false]

/-- An inert text means itself. -/
theorem run_of_inert {keeps : Bool} (environment : Environment) {text : List Char} {fuel : Nat}
    (enough : text.length < fuel) (still : inert keeps text = true) :
    run keeps environment fuel text = some text := by
  induction text generalizing fuel with
  | nil =>
      cases fuel with
      | zero => exact absurd enough (Nat.not_lt_zero _)
      | succ fuel => rfl
  | cons char rest inductionHypothesis =>
      cases fuel with
      | zero => exact absurd enough (Nat.not_lt_zero _)
      | succ fuel =>
          unfold inert at still
          rw [Bool.and_eq_true] at still
          have later := inductionHypothesis (Nat.lt_of_succ_lt_succ enough) still.2
          unfold run next
          by_cases dollar : char = '$'
          · rw [dollar, bne_self_eq_false, Bool.false_or, Bool.and_eq_true,
              Bool.not_eq_true'] at still
            rw [if_pos dollar, reference_of_not_opens still.1.2]
            dsimp only [value]
            rw [if_pos still.1.1, later, dollar]
            rfl
          · rw [if_neg dollar]
            dsimp only [value]
            rw [later]
            rfl

/-! ## References -/

/-- How many characters a token takes. -/
def Token.width : Token -> Nat
  | .letter _ => 1
  | .escaped => 2
  | .named _ more => more.length + 2
  | .braced inside => inside.length + 3
  | .stray => 1
  | .unclosed => 2

theorem length_closing {depth : Nat} {text : List Char} {cut : List Char × List Char}
    (closed : closing depth text = some cut) : cut.1.length + 1 + cut.2.length = text.length := by
  induction text generalizing depth cut with
  | nil => cases closed
  | cons char rest inductionHypothesis =>
      have tail : forall {inner : Nat},
          ((closing inner rest).map fun cut => (char :: cut.1, cut.2)) = some cut ->
          cut.1.length + 1 + cut.2.length = (char :: rest).length := by
        intro inner found
        rcases Option.map_eq_some_iff.mp found with ⟨shorter, inside, rfl⟩
        have length := inductionHypothesis inside
        simp only [List.length_cons]
        omega
      unfold closing at closed
      split at closed
      · cases depth with
        | zero =>
            cases closed
            simp only [List.length_nil, List.length_cons]
            omega
        | succ outer => exact tail closed
      · exact tail closed

theorem width_next (char : Char) (rest : List Char) :
    (next char rest).1.width + (next char rest).2.length = rest.length + 1 := by
  unfold next
  by_cases dollar : char = '$'
  · rw [if_pos dollar]
    cases rest with
    | nil => rfl
    | cons first more =>
        unfold reference
        dsimp only
        split
        · simp only [Token.width, List.length_cons]
          omega
        · split
          · cases cut : closing 0 more with
            | none =>
                simp only [Token.width, List.length_cons]
                omega
            | some parts =>
                have length := length_closing cut
                simp only [Token.width, List.length_cons]
                omega
          · split
            · have length := congrArg List.length
                (@List.takeWhile_append_dropWhile _ isNameChar more)
              rw [List.length_append] at length
              simp only [Token.width, List.length_cons]
              omega
            · simp only [Token.width, List.length_cons]
              omega
  · rw [if_neg dollar]
    exact Nat.add_comm _ _

/-- Every variable is set to one letter. -/
def short : Environment := fun _ => some ['x']

theorem length_substitute {again : List Char -> Option (List Char)} {inside result : List Char}
    (shrinks : forall word text, again word = some text -> text.length ≤ word.length)
    (substituted : substitute short again inside = some result) :
    result.length ≤ inside.length + 1 := by
  have tail := (@List.dropWhile_suffix _ inside isNameChar).length_le
  have set : forall {value : List Char}, short (inside.takeWhile isNameChar) = some value ->
      value.length ≤ inside.length + 1 := by
    intro value known
    rw [← Option.some.inj known]
    exact Nat.succ_le_succ (Nat.zero_le _)
  have word : forall {front : List Char} {word : List Char},
      inside.dropWhile isNameChar = front ++ word -> again word = some result ->
      result.length ≤ inside.length + 1 := by
    intro front word cut meaning
    have small := shrinks word result meaning
    rw [cut, List.length_append] at tail
    omega
  unfold substitute at substituted
  dsimp only at substituted
  split at substituted
  · cases substituted
  · split at substituted
    · exact set substituted
    · rename_i cut
      split at substituted
      · exact @word [':', '-'] _ cut substituted
      · exact set substituted
    · rename_i cut
      split at substituted
      · exact @word ['-'] _ cut substituted
      · exact set substituted
    · split at substituted
      · cases substituted
      · exact set substituted
    · exact set substituted
    · rename_i cut
      split at substituted
      · cases substituted
        exact Nat.zero_le _
      · exact @word [':', '+'] _ cut substituted
    · rename_i cut
      split at substituted
      · cases substituted
        exact Nat.zero_le _
      · exact @word ['+'] _ cut substituted
    · cases substituted

/-- The tokens that do not stand for themselves. -/
def Token.moves : Token -> Bool
  | .letter _ => false
  | .stray => false
  | _ => true

theorem reference_moves {text : List Char} (opened : opens text = true) :
    (reference text).1.moves = true := by
  cases text with
  | nil => cases opened
  | cons char rest =>
      unfold opens at opened
      rw [Bool.or_eq_true, Bool.or_eq_true, beq_iff_eq, beq_iff_eq] at opened
      unfold reference
      dsimp only
      split
      · rfl
      · rename_i single
        split
        · split <;> rfl
        · rename_i plain
          split
          · rfl
          · rename_i other
            rcases opened with (dollar | brace) | named
            · exact absurd dollar single
            · exact absurd brace plain
            · exact absurd named other

/-- A token that stands for itself is the first character. -/
theorem next_of_not_moves {char : Char} {rest : List Char}
    (still : (next char rest).1.moves = false) :
    next char rest = (.letter char, rest) ∧ char ≠ '$' ∨
      next char rest = (.stray, rest) ∧ char = '$' ∧ opens rest = false := by
  unfold next at still ⊢
  by_cases dollar : char = '$'
  · rw [if_pos dollar] at still ⊢
    cases opened : opens rest with
    | true =>
        rw [reference_moves opened] at still
        cases still
    | false => exact Or.inr ⟨reference_of_not_opens opened, dollar, rfl⟩
  · rw [if_neg dollar]
    exact Or.inl ⟨rfl, dollar⟩

theorem length_value {keeps : Bool} {again : List Char -> Option (List Char)} {token : Token}
    {text : List Char}
    (shrinks : forall word text, again word = some text -> text.length ≤ word.length)
    (meaning : value keeps short again token = some text) :
    text.length ≤ token.width ∧ (token.moves = true -> text.length < token.width) := by
  cases token with
  | letter char =>
      cases meaning
      exact ⟨Nat.le_refl _, Bool.false_ne_true.elim⟩
  | escaped =>
      cases meaning
      exact ⟨by decide, fun _ => by decide⟩
  | named first more =>
      cases meaning
      exact ⟨Nat.succ_le_succ (Nat.zero_le _), fun _ => Nat.succ_lt_succ (Nat.succ_pos _)⟩
  | braced inside =>
      have small := length_substitute shrinks meaning
      simp only [Token.width]
      omega
  | stray =>
      cases keeps with
      | true =>
          cases meaning
          exact ⟨Nat.le_refl _, Bool.false_ne_true.elim⟩
      | false => cases meaning
  | unclosed => cases meaning

/-- In short values no text grows, and no reference keeps its length. -/
theorem length_run {keeps : Bool} {fuel : Nat} {text result : List Char}
    (expanded : run keeps short fuel text = some result) :
    result.length ≤ text.length ∧ (inert keeps text = false -> result.length < text.length) := by
  induction fuel generalizing text result with
  | zero => cases expanded
  | succ fuel inductionHypothesis =>
      cases text with
      | nil =>
          cases expanded
          exact ⟨Nat.le_refl _, Bool.noConfusion⟩
      | cons char rest =>
          unfold run at expanded
          dsimp only at expanded
          rcases Option.bind_eq_some_iff.mp expanded with ⟨own, meaning, tail⟩
          rcases Option.map_eq_some_iff.mp tail with ⟨more, later, rfl⟩
          have behind := inductionHypothesis later
          have width := width_next char rest
          have front := length_value (fun _ _ again => (inductionHypothesis again).1) meaning
          rw [List.length_append, List.length_cons]
          refine ⟨by omega, ?_⟩
          intro moving
          cases moves : (next char rest).1.moves with
          | true =>
              have less := front.2 moves
              omega
          | false =>
              rcases next_of_not_moves moves with ⟨letter, plain⟩ | ⟨stray, dollar, closed⟩
              · rw [letter] at behind width front
                unfold inert at moving
                rw [bne_iff_ne.mpr plain] at moving
                have less := behind.2 moving
                omega
              · rw [stray] at behind width front meaning
                cases keeps with
                | true =>
                    unfold inert at moving
                    rw [closed, Bool.not_false, Bool.and_true, Bool.or_true] at moving
                    have less := behind.2 moving
                    omega
                | false => cases meaning

/-- The texts that mean themselves wherever they are read. -/
theorem interpolate_iff {keeps : Bool} {text : List Char} :
    (forall environment, interpolate keeps environment text = some text) <->
      inert keeps text = true := by
  constructor
  · intro fixed
    have kept := length_run (fixed short)
    cases still : inert keeps text with
    | true => rfl
    | false => exact absurd (kept.2 still) (Nat.lt_irrefl _)
  · intro still environment
    exact run_of_inert environment (Nat.lt_succ_self _) still

/-! ## Documents -/

/-- One step into a document. -/
inductive Key
  | field (name : String)
  | index (position : Nat)
  deriving DecidableEq

variable {Other : Type}

/-- What stands in a document behind a path. -/
def lookup : List Key -> Yaml Other -> Option (Yaml Other)
  | [], value => some value
  | .field name :: path, .dict members => (Yaml.get name members).bind (lookup path)
  | .index position :: path, .list elements => elements[position]?.bind (lookup path)
  | _ :: _, _ => none

mutual

/-- The document with its strings, but not its keys, interpolated; one text
without a meaning makes all of it invalid. -/
def interpolateDocument (keeps : Bool) (environment : Environment) :
    Yaml Other -> Option (Yaml Other)
  | .str text =>
      (interpolate keeps environment text.toList).map fun meaning => .str (String.ofList meaning)
  | .list elements => (interpolateElements keeps environment elements).map .list
  | .dict members => (interpolateMembers keeps environment members).map .dict
  | value => some value

def interpolateElements (keeps : Bool) (environment : Environment) :
    List (Yaml Other) -> Option (List (Yaml Other))
  | [] => some []
  | element :: rest =>
      (interpolateDocument keeps environment element).bind fun first =>
        (interpolateElements keeps environment rest).map (first :: ·)

def interpolateMembers (keeps : Bool) (environment : Environment) :
    List (Yaml Other × Yaml Other) -> Option (List (Yaml Other × Yaml Other))
  | [] => some []
  | member :: rest =>
      (interpolateDocument keeps environment member.2).bind fun value =>
        (interpolateMembers keeps environment rest).map ((member.1, value) :: ·)

end

theorem getElem?_interpolateElements {keeps : Bool} {environment : Environment}
    {elements made : List (Yaml Other)}
    (done : interpolateElements keeps environment elements = some made) {position : Nat}
    {element : Yaml Other} (found : elements[position]? = some element) :
    Exists fun value : Yaml Other =>
      interpolateDocument keeps environment element = some value ∧
        made[position]? = some value := by
  induction elements generalizing position made with
  | nil => cases found
  | cons first rest inductionHypothesis =>
      rcases Option.bind_eq_some_iff.mp done with ⟨value, own, tail⟩
      rcases Option.map_eq_some_iff.mp tail with ⟨others, later, rfl⟩
      cases position with
      | zero =>
          cases found
          exact ⟨value, own, rfl⟩
      | succ position => exact inductionHypothesis later found

theorem get_interpolateMembers {keeps : Bool} {environment : Environment}
    {members made : List (Yaml Other × Yaml Other)}
    (done : interpolateMembers keeps environment members = some made) {name : String}
    {member : Yaml Other} (found : Yaml.get name members = some member) :
    Exists fun value : Yaml Other =>
      interpolateDocument keeps environment member = some value ∧
        Yaml.get name made = some value := by
  induction members generalizing made with
  | nil => cases found
  | cons first rest inductionHypothesis =>
      rcases Option.bind_eq_some_iff.mp done with ⟨value, own, tail⟩
      rcases Option.map_eq_some_iff.mp tail with ⟨others, later, rfl⟩
      by_cases same : first.1.key? = some name
      · simp only [Yaml.get, List.find?_cons, same, decide_true, Option.map_some,
          Option.some.injEq] at found ⊢
        rw [← found]
        exact ⟨value, own, rfl⟩
      · simp only [Yaml.get, List.find?_cons, decide_eq_false same] at found ⊢
        exact inductionHypothesis later found

/-- A list keeps its elements, each interpolated. -/
theorem forall₂_interpolateElements {keeps : Bool} {environment : Environment}
    {elements made : List (Yaml Other)}
    (done : interpolateElements keeps environment elements = some made) :
    List.Forall₂ (fun element value => interpolateDocument keeps environment element = some value)
      elements made := by
  induction elements generalizing made with
  | nil =>
      cases done
      exact .nil
  | cons first rest inductionHypothesis =>
      rcases Option.bind_eq_some_iff.mp done with ⟨value, own, tail⟩
      rcases Option.map_eq_some_iff.mp tail with ⟨others, later, rfl⟩
      exact .cons own (inductionHypothesis later)

/-- Interpolation keeps the keys of a dictionary and their order. -/
theorem forall₂_interpolateMembers {keeps : Bool} {environment : Environment}
    {members made : List (Yaml Other × Yaml Other)}
    (done : interpolateMembers keeps environment members = some made) :
    List.Forall₂ (fun member value => value.1 = member.1 ∧
      interpolateDocument keeps environment member.2 = some value.2) members made := by
  induction members generalizing made with
  | nil =>
      cases done
      exact .nil
  | cons first rest inductionHypothesis =>
      rcases Option.bind_eq_some_iff.mp done with ⟨value, own, tail⟩
      rcases Option.map_eq_some_iff.mp tail with ⟨others, later, rfl⟩
      exact .cons ⟨rfl, own⟩ (inductionHypothesis later)

theorem isSome_get_interpolateMembers {keeps : Bool} {environment : Environment}
    {members made : List (Yaml Other × Yaml Other)}
    (done : interpolateMembers keeps environment members = some made) (name : String) :
    (Yaml.get name made).isSome = (Yaml.get name members).isSome := by
  have same := forall₂_interpolateMembers done
  clear done
  induction same with
  | nil => rfl
  | cons first later inductionHypothesis =>
      rename_i member value members made
      unfold Yaml.get at inductionHypothesis ⊢
      rw [List.find?_cons, List.find?_cons, first.1]
      cases decide (member.1.key? = some name) with
      | true => rfl
      | false => exact inductionHypothesis

/-- A string is interpolated where it stands. -/
theorem lookup_interpolateDocument {keeps : Bool} {environment : Environment} {path : List Key}
    {document made : Yaml Other}
    (done : interpolateDocument keeps environment document = some made) {text : String}
    (found : lookup path document = some (.str text)) :
    Exists fun meaning : List Char =>
      interpolate keeps environment text.toList = some meaning ∧
        lookup path made = some (.str (String.ofList meaning)) := by
  induction path generalizing document made with
  | nil =>
      cases found
      rcases Option.map_eq_some_iff.mp done with ⟨meaning, own, rfl⟩
      exact ⟨meaning, own, rfl⟩
  | cons key path inductionHypothesis =>
      cases key with
      | field name =>
          cases document with
          | dict members =>
              rcases Option.bind_eq_some_iff.mp found with ⟨member, listed, inside⟩
              rcases Option.map_eq_some_iff.mp done with ⟨others, later, rfl⟩
              rcases get_interpolateMembers later listed with ⟨value, own, kept⟩
              rcases inductionHypothesis own inside with ⟨meaning, read, stands⟩
              refine ⟨meaning, read, ?_⟩
              change (Yaml.get name others).bind (lookup path) = _
              rw [kept]
              exact stands
          | _ => cases found
      | index position =>
          cases document with
          | list elements =>
              rcases Option.bind_eq_some_iff.mp found with ⟨element, listed, inside⟩
              rcases Option.map_eq_some_iff.mp done with ⟨others, later, rfl⟩
              rcases getElem?_interpolateElements later listed with ⟨value, own, kept⟩
              rcases inductionHypothesis own inside with ⟨meaning, read, stands⟩
              refine ⟨meaning, read, ?_⟩
              change others[position]?.bind (lookup path) = _
              rw [kept]
              exact stands
          | _ => cases found

end Interpolation
end DjangoOps
