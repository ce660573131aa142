import DjangoOps.Cli.Schedule

namespace DjangoOps
namespace Cli

open ControlPlane (isSpace)
open TextLines

/-!
# The list of the backups

`list_backups` reads the ids of the backups off a recursive listing of the
objects of a project.  It looks at the fourth field of each line, and at the
last two components of that field.  The keys of the media copies are chosen by
the users of the application.
-/

/-- `_BACKUP_ID_RE.fullmatch` -/
def isBackupId (text : List Char) : Bool :=
  let date := (text.drop 1).take 8
  let time := (text.drop 10).take 6
  decide (text.take 1 = ['b']) && decide (date.length = 8) && date.all Char.isDigit &&
    decide ((text.drop 9).take 1 = ['T']) && decide (time.length = 6) && time.all Char.isDigit &&
    decide (text.drop 16 = ['Z'])

/-- The digits of an id as one number, which grows with the time. -/
def backupTime (id : List Char) : Nat := Nat.ofDigitChars 10 (id.filter Char.isDigit) 0

/-- `_object_prefix` -/
def objectPrefix (config : DjangoOpsConfig) : List Char :=
  config.backup.backupPrefix.toList ++ '/' :: config.project.name.toList

/-- The key of the metadata of a backup, as the backup runner writes it and
`restore_backup` reads it. -/
def metadataKey (config : DjangoOpsConfig) (id : List Char) : List Char :=
  objectPrefix config ++ '/' :: (id ++ '/' :: "metadata.txt".toList)

/-! ## The listing -/

/-- What separates fields for `awk`, besides newlines. -/
def isBlank (char : Char) : Bool := char == ' ' || char == '\t'

/-- A field that is printed in front of a key. -/
structure Field where
  text : List Char
  written : text ≠ []
  solid : forall char, char ∈ text -> isBlank char = false ∧ isNewline char = false

/-- An object as the listing shows it, with its size padded. -/
structure S3Object where
  date : Field
  time : Field
  padding : Nat
  size : Field
  key : List Char

/-- What stands in front of the key. -/
def S3Object.front (object : S3Object) : List Char :=
  object.date.text ++ ' ' :: (object.time.text ++ ' ' ::
    (List.replicate object.padding ' ' ++ (object.size.text ++ [' '])))

/-- `aws s3 ls s3://bucket/dest --recursive` -/
def recursiveListing (dest : List Char) (bucket : List S3Object) : List Char :=
  unlines ((bucket.filter fun object => dest.isPrefixOf object.key).map fun object =>
    object.front ++ object.key)

/-- `$4` -/
def fourthField (record : List Char) : List Char := ((Splitting.words isBlank record)[3]?).getD []

/-- `awk '\x7bprint $4\x7d'` -/
def awkFourth (text : List Char) : List Char := unlines ((TextLines.lines text).map fourthField)

/-! ## Reading the ids -/

/-- Where `str.splitlines` splits. -/
def isLineBreak (char : Char) : Bool :=
  let code := char.toNat
  (10 ≤ code && code ≤ 13) || (28 ≤ code && code ≤ 30) || code == 0x85 || code == 0x2028 ||
    code == 0x2029

/-- `line.strip()` -/
def strip (line : List Char) : List Char := (line.dropWhile isSpace).rdropWhile isSpace

/-- The id of a line whose last two parts are an id and `metadata.txt`. -/
def readId (line : List Char) : Option (List Char) :=
  match ((strip line).splitOn '/').reverse with
  | last :: id :: _ =>
      if isBackupId id = true ∧ last = "metadata.txt".toList then some id else none
  | _ => none

/-- `list_backups`, when its commands succeed. -/
def listBackups (config : DjangoOpsConfig) (bucket : List S3Object) : List String :=
  let stdout := awkFourth (recursiveListing (objectPrefix config ++ ['/']) bucket)
  let ids := ((stdout.splitOnP isLineBreak).filterMap readId).map String.ofList
  ids.dedup.insertionSort fun first second => second ≤ first

/-! ## What is read of one key -/

/-- The texts that are read as the fourth field of the lines of an object. -/
def readings (key : List Char) : List (List Char) :=
  match key.splitOnP isNewline with
  | [] => []
  | first :: rest =>
      (((Splitting.words isBlank first)[0]?).getD [] :: rest.map fourthField).flatMap
        (List.splitOnP isLineBreak)

theorem fourthField_front (object : S3Object) (piece : List Char) :
    fourthField (object.front ++ piece) = ((Splitting.words isBlank piece)[0]?).getD [] := by
  have padded : forall (count : Nat) (text : List Char),
      Splitting.words isBlank (List.replicate count ' ' ++ text) = Splitting.words isBlank text := by
    intro count text
    induction count with
    | zero => rfl
    | succ count inductionHypothesis =>
        rw [List.replicate_succ, List.cons_append, Splitting.words_separator rfl,
          inductionHypothesis]
  have field (value : Field) (text : List Char) :
      Splitting.words isBlank (value.text ++ ' ' :: text) =
        value.text :: Splitting.words isBlank text :=
    Splitting.words_append value.written (fun char listed => (value.solid char listed).1) rfl text
  unfold fourthField S3Object.front
  simp only [List.append_assoc, List.cons_append, List.nil_append]
  rw [field, field, padded, field]
  rfl

theorem front_solid (object : S3Object) {char : Char} (listed : char ∈ object.front) :
    isNewline char = false := by
  unfold S3Object.front at listed
  simp only [List.mem_append, List.mem_cons, List.not_mem_nil, or_false, List.mem_replicate] at listed
  rcases listed with date | rfl | time | rfl | padded | size | rfl
  · exact (object.date.solid char date).2
  · rfl
  · exact (object.time.solid char time).2
  · rfl
  · rw [padded.2]
    rfl
  · exact (object.size.solid char size).2
  · rfl

/-- What is read of the lines of one object. -/
theorem readings_eq (object : S3Object) :
    (((object.front ++ object.key).splitOnP isNewline).map fourthField).flatMap
      (List.splitOnP isLineBreak) = readings object.key := by
  rw [Splitting.splitOnP_append_of_solid fun char listed => front_solid object listed]
  unfold readings
  cases object.key.splitOnP isNewline with
  | nil => rfl
  | cons first rest =>
      rw [List.modifyHead_cons, List.map_cons, fourthField_front]

/-- The ids that are read are read of some object. -/
theorem mem_listBackups {config : DjangoOpsConfig} {bucket : List S3Object} {id : List Char} :
    String.ofList id ∈ listBackups config bucket <->
      Exists fun object : S3Object => object ∈ bucket ∧
        (objectPrefix config ++ ['/']).isPrefixOf object.key = true ∧
        Exists fun reading : List Char =>
          reading ∈ readings object.key ∧ readId reading = some id := by
  unfold listBackups recursiveListing awkFourth
  dsimp only
  rw [(List.perm_insertionSort _ _).mem_iff, List.mem_dedup, List.mem_map]
  have pieces : forall texts : List (List Char),
      (unlines ((TextLines.lines (unlines texts)).map fourthField)).splitOnP isLineBreak =
        texts.flatMap (fun text => ((text.splitOnP isNewline).map fourthField).flatMap
          (List.splitOnP isLineBreak)) ++ [[]] := by
    intro texts
    rw [splitOnP_unlines rfl, lines_unlines_flatMap, List.map_flatMap, List.flatMap_assoc]
  rw [pieces, List.filterMap_append]
  have nothing : [([] : List Char)].filterMap readId = [] := by decide
  rw [nothing, List.append_nil]
  constructor
  · rintro ⟨read, listed, same⟩
    rw [String.ofList_inj.mp same] at listed
    rcases List.mem_filterMap.mp listed with ⟨reading, found, known⟩
    rcases List.mem_flatMap.mp found with ⟨line, shown, inner⟩
    rcases List.mem_map.mp shown with ⟨object, member, rfl⟩
    rw [readings_eq] at inner
    exact ⟨object, (List.mem_filter.mp member).1, (List.mem_filter.mp member).2, reading, inner,
      known⟩
  · rintro ⟨object, member, dest, reading, inner, known⟩
    refine ⟨id, List.mem_filterMap.mpr ⟨reading, List.mem_flatMap.mpr ⟨_, List.mem_map.mpr
      ⟨object, List.mem_filter.mpr ⟨member, dest⟩, rfl⟩, ?_⟩, known⟩, rfl⟩
    rw [readings_eq]
    exact inner

/-! ## Ids -/

/-- The parts of an id. -/
theorem isBackupId_elim {id : List Char} (valid : isBackupId id = true) :
    Exists fun date : List Char => Exists fun time : List Char =>
      id = 'b' :: (date ++ 'T' :: (time ++ ['Z'])) ∧ date.length = 8 ∧ time.length = 6 ∧
        date.all Char.isDigit = true ∧ time.all Char.isDigit = true := by
  unfold isBackupId at valid
  simp only [Bool.and_eq_true, decide_eq_true_eq] at valid
  rcases valid with ⟨⟨⟨⟨⟨⟨first, dateLength⟩, date⟩, middle⟩, timeLength⟩, time⟩, last⟩
  refine ⟨_, _, ?_, dateLength, timeLength, date, time⟩
  have parts : id = id.take 1 ++ ((id.drop 1).take 8 ++ ((id.drop 9).take 1 ++
      ((id.drop 10).take 6 ++ id.drop 16))) := by
    conv_lhs => rw [← List.take_append_drop 1 id, ← List.take_append_drop 8 (id.drop 1),
      List.drop_drop, ← List.take_append_drop 1 (id.drop 9), List.drop_drop,
      ← List.take_append_drop 6 (id.drop 10), List.drop_drop]
  rw [first, middle, last] at parts
  exact parts

/-- Two texts with digits at the same places and the same letters elsewhere. -/
def SameShape : List Char -> List Char -> Prop :=
  List.Forall₂ fun left right =>
    (left.isDigit = true ∧ right.isDigit = true) ∨ (left = right ∧ left.isDigit = false)

theorem sameShape_digits {left right : List Char} (same : left.length = right.length)
    (leftDigits : left.all Char.isDigit = true) (rightDigits : right.all Char.isDigit = true) :
    SameShape left right := by
  induction left generalizing right with
  | nil =>
      rw [List.eq_nil_of_length_eq_zero same.symm]
      exact .nil
  | cons first rest inductionHypothesis =>
      cases right with
      | nil => cases same
      | cons head others =>
          rw [List.all_cons, Bool.and_eq_true] at leftDigits rightDigits
          exact .cons (.inl ⟨leftDigits.1, rightDigits.1⟩)
            (inductionHypothesis (Nat.succ.inj same) leftDigits.2 rightDigits.2)

theorem sameShape_of_isBackupId {left right : List Char} (leftValid : isBackupId left = true)
    (rightValid : isBackupId right = true) : SameShape left right := by
  rcases isBackupId_elim leftValid with ⟨_, _, rfl, leftEight, leftSix, leftDate, leftTime⟩
  rcases isBackupId_elim rightValid with ⟨_, _, rfl, rightEight, rightSix, rightDate, rightTime⟩
  have dates := sameShape_digits (leftEight.trans rightEight.symm) leftDate rightDate
  have times := sameShape_digits (leftSix.trans rightSix.symm) leftTime rightTime
  exact .cons (.inr ⟨rfl, rfl⟩) (List.rel_append dates (.cons (.inr ⟨rfl, rfl⟩)
    (List.rel_append times (.cons (.inr ⟨rfl, rfl⟩) .nil))))

theorem digit_bounds {char : Char} (digit : char.isDigit = true) :
    48 ≤ char.toNat ∧ char.toNat ≤ 57 := by
  unfold Char.isDigit at digit
  simp only [Bool.and_eq_true, decide_eq_true_eq] at digit
  exact digit

/-- A number that is larger in front stays larger. -/
theorem ofDigitChars_lt_of_lt {left right : List Char} (same : SameShape left right)
    {small large : Nat} (order : small < large) :
    Nat.ofDigitChars 10 (left.filter Char.isDigit) small <
      Nat.ofDigitChars 10 (right.filter Char.isDigit) large := by
  induction same generalizing small large with
  | nil => exact order
  | cons heads _ inductionHypothesis =>
      rcases heads with ⟨leftDigit, rightDigit⟩ | ⟨rfl, letter⟩
      · rw [List.filter_cons_of_pos leftDigit, List.filter_cons_of_pos rightDigit,
          Nat.ofDigitChars_cons, Nat.ofDigitChars_cons]
        apply inductionHypothesis
        have bound := digit_bounds leftDigit
        have zero : '0'.toNat = 48 := rfl
        omega
      · rw [List.filter_cons_of_neg (by rw [letter]; decide),
          List.filter_cons_of_neg (by rw [letter]; decide)]
        exact inductionHypothesis order

/-- Texts of one shape are ordered as their numbers. -/
theorem ofDigitChars_lt {left right : List Char} (same : SameShape left right)
    (order : left < right) (front : Nat) :
    Nat.ofDigitChars 10 (left.filter Char.isDigit) front <
      Nat.ofDigitChars 10 (right.filter Char.isDigit) front := by
  induction same generalizing front with
  | nil => cases order
  | cons heads tails inductionHypothesis =>
      rcases heads with ⟨leftDigit, rightDigit⟩ | ⟨rfl, letter⟩
      · rw [List.filter_cons_of_pos leftDigit, List.filter_cons_of_pos rightDigit,
          Nat.ofDigitChars_cons, Nat.ofDigitChars_cons]
        rcases List.cons_lt_cons_iff.mp order with smaller | ⟨rfl, rest⟩
        · apply ofDigitChars_lt_of_lt tails
          have bound := digit_bounds leftDigit
          have numbers : Char.toNat _ < Char.toNat _ := smaller
          have zero : '0'.toNat = 48 := rfl
          omega
        · exact inductionHypothesis rest _
      · rw [List.filter_cons_of_neg (by rw [letter]; decide),
          List.filter_cons_of_neg (by rw [letter]; decide)]
        rcases List.cons_lt_cons_iff.mp order with smaller | ⟨_, rest⟩
        · exact absurd smaller (lt_irrefl _)
        · exact inductionHypothesis rest front

/-! ## The key of the metadata -/

/-- A character of a valid key. -/
def isKeyChar (char : Char) : Bool :=
  char.isAlphanum || char == '/' || char == '_' || char == '-' || char == '.'

theorem isKeyChar_bounds {char : Char} (plain : isKeyChar char = true) :
    45 ≤ char.toNat ∧ char.toNat ≤ 122 := by
  have numbers : forall low high : Nat, 45 ≤ low -> high ≤ 122 -> low ≤ char.toNat ->
      char.toNat ≤ high -> 45 ≤ char.toNat ∧ char.toNat ≤ 122 := by omega
  unfold isKeyChar Char.isAlphanum Char.isAlpha Char.isUpper Char.isLower Char.isDigit at plain
  simp only [Bool.or_eq_true, Bool.and_eq_true, decide_eq_true_eq, beq_iff_eq] at plain
  rcases plain with ((((((upper | lower) | digit) | rfl) | rfl) | rfl) | rfl)
  · exact numbers 65 90 (by decide) (by decide) upper.1 upper.2
  · exact numbers 97 122 (by decide) (by decide) lower.1 lower.2
  · exact numbers 48 57 (by decide) (by decide) digit.1 digit.2
  · decide
  · decide
  · decide
  · decide

theorem isSpace_of_isKeyChar {char : Char} (plain : isKeyChar char = true) :
    isSpace char = false := by
  have bounds := isKeyChar_bounds plain
  unfold isSpace
  simp only [Bool.or_eq_false_iff, Bool.and_eq_false_iff, decide_eq_false_iff_not, beq_eq_false_iff_ne]
  omega

theorem separators_of_isKeyChar {char : Char} (plain : isKeyChar char = true) :
    isBlank char = false ∧ isNewline char = false ∧ isLineBreak char = false := by
  have bounds := isKeyChar_bounds plain
  refine ⟨?_, ?_, ?_⟩
  · cases blank : isBlank char with
    | false => rfl
    | true =>
        unfold isBlank at blank
        rw [Bool.or_eq_true, beq_iff_eq, beq_iff_eq] at blank
        rcases blank with rfl | rfl
        · exact absurd bounds.1 (by decide)
        · exact absurd bounds.1 (by decide)
  · cases newline : isNewline char with
    | false => rfl
    | true =>
        rw [beq_iff_eq.mp newline] at bounds
        exact absurd bounds.1 (by decide)
  · unfold isLineBreak
    simp only [Bool.or_eq_false_iff, Bool.and_eq_false_iff, decide_eq_false_iff_not, beq_eq_false_iff_ne]
    omega

theorem isKeyChar_of_matchesProject {text : List Char} (matched : matchesProject text = true)
    {char : Char} (listed : char ∈ text) : isKeyChar char = true := by
  unfold isKeyChar
  rcases mem_matchesRun matched listed with letter | inner
  · unfold Char.isAlphanum
    rw [letter]
    rfl
  · simp only [Bool.or_eq_true] at inner ⊢
    rcases inner with (letter | underscore) | dash
    · exact .inl (.inl (.inl (.inl letter)))
    · exact .inl (.inl (.inr underscore))
    · exact .inl (.inr dash)

theorem isKeyChar_of_backupPrefix {value accepted : String}
    (valid : validateBackupPrefix value = .ok accepted) {char : Char}
    (listed : char ∈ accepted.toList) : isKeyChar char = true := by
  rcases accept_ok valid with ⟨checked, rfl⟩
  simp only [Bool.and_eq_true] at checked
  unfold isKeyChar
  rcases mem_matchesRun checked.2 listed with letter | inner
  · rw [letter]
    rfl
  · simp only [Bool.or_eq_true] at inner ⊢
    rcases inner with ((letter | slash) | underscore) | dash
    · exact .inl (.inl (.inl (.inl letter)))
    · exact .inl (.inl (.inl (.inr slash)))
    · exact .inl (.inl (.inr underscore))
    · exact .inl (.inr dash)

theorem isKeyChar_of_isBackupId {id : List Char} (valid : isBackupId id = true) {char : Char}
    (listed : char ∈ id) : isKeyChar char = true := by
  rcases isBackupId_elim valid with ⟨date, time, rfl, _, _, dateDigits, timeDigits⟩
  have digit (letter : Char) (isDigit : letter.isDigit = true) : isKeyChar letter = true := by
    unfold isKeyChar Char.isAlphanum
    rw [isDigit]
    simp only [Bool.or_true, Bool.true_or]
  simp only [List.mem_cons, List.mem_append, List.not_mem_nil, or_false] at listed
  rcases listed with rfl | inDate | rfl | inTime | rfl
  · rfl
  · exact digit char (List.all_eq_true.mp dateDigits char inDate)
  · rfl
  · exact digit char (List.all_eq_true.mp timeDigits char inTime)
  · rfl

section Metadata

variable {config : DjangoOpsConfig} {id : List Char}
  (named : validateProjectName config.project.name = .ok config.project.name)
  (prefixed : validateBackupPrefix config.backup.backupPrefix = .ok config.backup.backupPrefix)
  (valid : isBackupId id = true)

include named prefixed valid

theorem isKeyChar_of_metadataKey {char : Char} (listed : char ∈ metadataKey config id) :
    isKeyChar char = true := by
  unfold metadataKey objectPrefix at listed
  have fixed : "metadata.txt".toList.all isKeyChar = true := by decide
  simp only [List.mem_append, List.mem_cons] at listed
  rcases listed with (front | rfl | name) | rfl | inner | rfl | last
  · exact isKeyChar_of_backupPrefix prefixed front
  · rfl
  · exact isKeyChar_of_matchesProject (accept_ok named).1 name
  · rfl
  · exact isKeyChar_of_isBackupId valid inner
  · rfl
  · exact List.all_eq_true.mp fixed char last

/-- The key of the metadata is read as it stands. -/
theorem readings_metadataKey : readings (metadataKey config id) = [metadataKey config id] := by
  have separators (char : Char) (listed : char ∈ metadataKey config id) :=
    separators_of_isKeyChar (isKeyChar_of_metadataKey named prefixed valid listed)
  have written : metadataKey config id ≠ [] := by
    unfold metadataKey
    exact List.append_ne_nil_of_right_ne_nil _ (List.cons_ne_nil _ _)
  unfold readings
  rw [List.splitOnP_eq_singleton fun char listed => (separators char listed).2.1]
  dsimp only
  rw [Splitting.words_solid written fun char listed => (separators char listed).1]
  change (metadataKey config id).splitOnP isLineBreak ++ [] = _
  rw [List.splitOnP_eq_singleton fun char listed => (separators char listed).2.2]
  rfl

/-- Its id is read. -/
theorem readId_metadataKey : readId (metadataKey config id) = some id := by
  have solid (char : Char) (listed : char ∈ metadataKey config id) :
      ¬ isSpace char = true := by
    rw [isSpace_of_isKeyChar (isKeyChar_of_metadataKey named prefixed valid listed)]
    exact Bool.false_ne_true
  have stripped : strip (metadataKey config id) = metadataKey config id := by
    unfold strip
    rw [List.dropWhile_eq_self_iff.mpr fun _ => solid _ (List.getElem_mem _),
      List.rdropWhile_eq_self_iff.mpr fun written => solid _ (List.getLast_mem written)]
  have slashes (char : Char) (listed : char ∈ id) : (char == '/') = false := by
    refine beq_eq_false_iff_ne.mpr ?_
    rintro rfl
    rcases isBackupId_elim valid with ⟨date, time, rfl, _, _, dateDigits, timeDigits⟩
    simp only [List.mem_cons, List.mem_append, List.not_mem_nil, or_false] at listed
    rcases listed with letter | inDate | letter | inTime | letter
    · cases letter
    · exact absurd (List.all_eq_true.mp dateDigits _ inDate) (by decide)
    · cases letter
    · exact absurd (List.all_eq_true.mp timeDigits _ inTime) (by decide)
    · cases letter
  have parts : (metadataKey config id).splitOn '/' =
      (objectPrefix config).splitOn '/' ++ [id, "metadata.txt".toList] := by
    unfold metadataKey List.splitOn
    rw [List.splitOnP_append_cons _ _ (by rfl),
      List.splitOnP_append_cons_of_forall_mem slashes _ (by rfl)]
    rfl
  unfold readId
  rw [stripped, parts, List.reverse_append]
  exact if_pos ⟨valid, rfl⟩

end Metadata

/-! ## Soundness and completeness -/

/-- What is expected of a listing: the newest backup comes first, and an id is listed
exactly when the bucket has its metadata. -/
structure ListsBackups (config : DjangoOpsConfig) (bucket : List S3Object) : Prop where
  newestFirst : (listBackups config bucket).Pairwise fun newer older =>
    backupTime older.toList < backupTime newer.toList
  exact : forall id : List Char, String.ofList id ∈ listBackups config bucket <->
    isBackupId id = true ∧ Exists fun object : S3Object =>
      object ∈ bucket ∧ object.key = metadataKey config id

theorem readId_valid {line id : List Char} (read : readId line = some id) :
    isBackupId id = true := by
  unfold readId at read
  split at read
  · split at read
    · rename_i facts
      cases read
      exact facts.1
    · cases read
  · cases read

/-- Newest first and without duplicates. -/
theorem listBackups_newestFirst (config : DjangoOpsConfig) (bucket : List S3Object) :
    (listBackups config bucket).Pairwise fun newer older =>
      backupTime older.toList < backupTime newer.toList := by
  have valid : forall id, id ∈ listBackups config bucket -> isBackupId id.toList = true := by
    intro id listed
    have same : String.ofList id.toList ∈ listBackups config bucket := by
      rw [String.ofList_toList]
      exact listed
    rcases mem_listBackups.mp same with ⟨_, _, _, _, _, read⟩
    exact readId_valid read
  have distinct : (listBackups config bucket).Nodup :=
    (List.perm_insertionSort _ _).nodup_iff.mpr (List.nodup_dedup _)
  have sorted : (listBackups config bucket).Pairwise fun newer older => older ≤ newer := by
    have total : Std.Total fun newer older : String => older ≤ newer := ⟨fun a b => le_total b a⟩
    have transitive : IsTrans String fun newer older => older ≤ newer :=
      ⟨fun _ _ _ first second => second.trans first⟩
    exact List.pairwise_insertionSort _ _
  refine (sorted.and distinct).imp_of_mem ?_
  rintro newer older listedNewer listedOlder ⟨order, different⟩
  have less : older < newer := lt_of_le_of_ne order different.symm
  exact ofDigitChars_lt (sameShape_of_isBackupId (valid older listedOlder) (valid newer listedNewer))
    (String.lt_iff_toList_lt.mp less) 0

/-- The listing is right exactly when every id that is read of a key has its own
metadata.  The names are cut at blanks and line ends and only their last two
components are looked at, so a key further below the project is read as a backup
as well.  No backup is ever missed. -/
theorem lists_backups {config : DjangoOpsConfig}
    (named : validateProjectName config.project.name = .ok config.project.name)
    (prefixed : validateBackupPrefix config.backup.backupPrefix = .ok config.backup.backupPrefix)
    (bucket : List S3Object) :
    (forall id : List Char, isBackupId id = true ->
        (Exists fun object : S3Object => object ∈ bucket ∧ object.key = metadataKey config id) ->
          String.ofList id ∈ listBackups config bucket) ∧
      (ListsBackups config bucket <->
        forall object : S3Object, object ∈ bucket ->
          (objectPrefix config ++ ['/']).isPrefixOf object.key = true ->
            forall reading : List Char, reading ∈ readings object.key ->
              forall id : List Char, readId reading = some id ->
                Exists fun other : S3Object =>
                  other ∈ bucket ∧ other.key = metadataKey config id) := by
  have complete : forall id : List Char, isBackupId id = true ->
      (Exists fun object : S3Object => object ∈ bucket ∧ object.key = metadataKey config id) ->
        String.ofList id ∈ listBackups config bucket := by
    rintro id valid ⟨object, member, same⟩
    refine mem_listBackups.mpr ⟨object, member, ?_, metadataKey config id, ?_,
      readId_metadataKey named prefixed valid⟩
    · rw [same, List.isPrefixOf_iff_prefix]
      exact ⟨id ++ '/' :: "metadata.txt".toList, by rw [List.append_assoc]; rfl⟩
    · rw [same, readings_metadataKey named prefixed valid]
      exact List.mem_singleton_self _
  refine ⟨complete, ?_⟩
  constructor
  · intro lists object member dest reading listed id read
    exact ((lists.exact id).mp (mem_listBackups.mpr
      ⟨object, member, dest, reading, listed, read⟩)).2
  · intro sound
    refine ⟨listBackups_newestFirst config bucket, fun id => ?_⟩
    constructor
    · intro listed
      rcases mem_listBackups.mp listed with ⟨object, member, dest, reading, inner, read⟩
      exact ⟨readId_valid read, sound object member dest reading inner id read⟩
    · rintro ⟨valid, there⟩
      exact complete id valid there

/-! ## A media copy that looks like a backup -/

def sampleField (text : List Char) (written : text ≠ [])
    (solid : text.all (fun char => !isBlank char && !isNewline char) = true) : Field where
  text := text
  written := written
  solid char listed := by
    have plain := List.all_eq_true.mp solid char listed
    simpa only [Bool.and_eq_true, Bool.not_eq_true'] using plain

def sampleObject (key : List Char) : S3Object where
  date := sampleField "2026-01-20".toList (by decide) (by decide)
  time := sampleField "02:00:05".toList (by decide) (by decide)
  padding := 9
  size := sampleField "1".toList (by decide) (by decide)
  key := key

def backupId : List Char := "b20260120T020000Z".toList

def backupObject : S3Object := sampleObject (metadataKey (shopConfig "shop") backupId)

/-- The copy of an upload in the media of the backup. -/
def mediaObject : S3Object :=
  sampleObject (objectPrefix (shopConfig "shop") ++ '/' :: (backupId ++
    "/media/uploads/b20991231T000000Z/metadata.txt".toList))

/-- An id is listed for which there are no metadata. -/
theorem media_listed :
    listBackups (shopConfig "shop") [backupObject, mediaObject] =
        ["b20991231T000000Z", "b20260120T020000Z"] ∧
      ¬ ListsBackups (shopConfig "shop") [backupObject, mediaObject] := by
  have listed : listBackups (shopConfig "shop") [backupObject, mediaObject] =
      ["b20991231T000000Z", "b20260120T020000Z"] := by decide +kernel
  refine ⟨listed, fun lists => ?_⟩
  have there := ((lists.exact "b20991231T000000Z".toList).mp (by
    rw [listed, String.ofList_toList]
    exact List.mem_cons_self)).2
  exact absurd there (by decide +kernel)

/-- The id that is read of the key of a backup alone is its own. -/
theorem reads_backupObject (object : S3Object) (member : object ∈ [backupObject])
    (_ : (objectPrefix (shopConfig "shop") ++ ['/']).isPrefixOf object.key = true)
    (reading : List Char) (listed : reading ∈ readings object.key) (id : List Char)
    (read : readId reading = some id) :
    Exists fun other : S3Object =>
      other ∈ [backupObject] ∧ other.key = metadataKey (shopConfig "shop") id := by
  rw [List.mem_singleton.mp member] at listed
  have only : readings backupObject.key = [backupObject.key] := by decide +kernel
  have own : readId backupObject.key = some backupId := by decide +kernel
  rw [only, List.mem_singleton] at listed
  rw [listed, own] at read
  cases read
  exact ⟨backupObject, List.mem_singleton_self _, rfl⟩

/-- A backup alone is listed. -/
theorem lists_backups_single : ListsBackups (shopConfig "shop") [backupObject] :=
  (lists_backups (by decide +kernel) (by decide +kernel) _).2.mpr reads_backupObject

end Cli
end DjangoOps
