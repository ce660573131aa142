import DjangoOps.Agent.Diagnostics
import DjangoOps.Cli.Health

namespace DjangoOps
namespace Agreement

open Agent.Diagnostics

/-!
# The check of the Compose services on both sides

The shell looks for every word of one standard output among the lines of the
other.  The agent captures standard output and standard error together, keeps
of the first eight kilobytes the lines that look like a name, and compares two
sets.
-/

inductive Stream
  | out
  | err
  deriving DecidableEq

/-- What a Docker command writes, in its order, and whether it succeeds. -/
structure Run where
  writes : List (Stream × List Char)
  succeeded : Bool

namespace Run

def stdout (run : Run) : List Char :=
  ((run.writes.filter fun write => decide (write.1 = .out)).map Prod.snd).flatten

def combined (run : Run) : List Char := (run.writes.map Prod.snd).flatten

def shell (run : Run) : Cli.CommandOutput := ⟨run.stdout, run.succeeded⟩

def agent (run : Run) : CommandResult := ⟨String.ofList run.combined, run.succeeded⟩

/-- The services that the command lists, one a line. -/
def names (run : Run) : List (List Char) := Splitting.words (fun char => char == '\n') run.stdout

/-- The services that the agent reads. -/
def read (run : Run) : List (List Char) := parseServices (capture maxCapturedOutput run.combined)

end Run

/-- A character of a service name. -/
def isServiceChar (char : Char) : Bool :=
  char.isAlphanum || char == '.' || char == '_' || char == '-'

/-- The lines of the standard output consist of the characters of service names. -/
def Listing (run : Run) : Prop :=
  forall char, char ∈ run.stdout -> isServiceChar char = true ∨ char = '\n'

theorem listing_of_all {run : Run}
    (all : (run.stdout.all fun char => isServiceChar char || char == '\n') = true) :
    Listing run := by
  intro char listed
  have good := List.all_eq_true.mp all char listed
  rw [Bool.or_eq_true, beq_iff_eq] at good
  exact good

/-- `grep -Fx` with a word that is no option finds the lines that equal it. -/
def FindsLines (grep : List Char -> List (List Char) -> Bool) : Prop :=
  forall word lines, word ≠ [] -> word.head? ≠ some '-' -> '\n' ∉ word ->
    (grep word lines = true <-> word ∈ lines)

/-- Services are declared, and all of them are running. -/
structure AllRunning (declared running : Run) : Prop where
  declares : declared.names ≠ []
  runs : forall service, service ∈ declared.names -> service ∈ running.names

/-- Both commands succeed, something is declared, and all declared services are
running. -/
structure Healthy (declared running : Run) : Prop extends AllRunning declared running where
  declaredRead : declared.succeeded = true
  runningRead : running.succeeded = true

/-- Both sides pass exactly when the services are healthy: the check that the shell of
the command line runs on the host, and the one that the agent makes of the same two
commands. -/
structure VerdictsAgree (grep : List Char -> List (List Char) -> Bool) (world : World)
    (composeFile : String) (declared running : Run) : Prop where
  shell : Cli.composeServices grep declared.shell running.shell = true <-> Healthy declared running
  agent : (servicesCheck world composeFile).status = "pass" <-> Healthy declared running

/-- The lines in which the shell looks for a service. -/
def Run.lines (run : Run) : List (List Char) := run.shell.substitution.splitOn '\n'

/-- What has to be read, when both commands succeed: of running services the
shell finds those whose name starts like an option, and the agent reads the
same ones from both outputs; of others the shell misses one, unless there is
nothing to look for or in, and the agent reads different ones or none. -/
structure ReadAlike (grep : List Char -> List (List Char) -> Bool) (declared running : Run) :
    Prop where
  options : AllRunning declared running -> forall service, service ∈ declared.names ->
    service.head? = some '-' -> grep service running.lines = true
  same : AllRunning declared running -> declared.read = running.read ∧ declared.read ≠ []
  missed : ¬ AllRunning declared running -> declared.names = [] ∨ running.names = [] ∨
    Exists fun service : List Char => service ∈ declared.names ∧ grep service running.lines = false
  different : ¬ AllRunning declared running -> declared.read ≠ running.read ∨ declared.read = []

/-- Nothing on standard error, no output that is cut off, no name that is
longer than the agent takes or that starts like an option. -/
structure Plain (run : Run) : Prop where
  quiet : forall write, write ∈ run.writes -> write.1 = .out
  short : run.stdout.length ≤ maxCapturedOutput
  names : forall service, service ∈ run.names -> service.length ≤ 80 ∧ service.head? ≠ some '-'

/-! ## What the shell reads -/

section Shell

variable {run : Run}

/-- In a listing the fields of the shell are the names. -/
theorem fields_eq (listing : Listing run) :
    Splitting.words Cli.isFieldSeparator run.shell.substitution = run.names := by
  have stops : forall char : Char, (char == '\n') = true -> Cli.isFieldSeparator char = true := by
    intro char newline
    unfold Cli.isFieldSeparator
    rw [newline, Bool.or_true]
  have agree : forall char, char ∈ run.stdout ->
      Cli.isFieldSeparator char = (char == '\n') := by
    intro char listed
    rcases listing char listed with letter | newline
    · unfold Cli.isFieldSeparator
      have blank : (char == ' ') = false := by
        rw [beq_eq_false_iff_ne]
        rintro rfl
        cases letter
      have tab : (char == '\t') = false := by
        rw [beq_eq_false_iff_ne]
        rintro rfl
        cases letter
      rw [blank, tab, Bool.or_false, Bool.false_or]
    · rw [newline]
      rfl
  unfold Cli.CommandOutput.substitution Run.shell Run.names
  rw [Splitting.words_rdropWhile stops]
  unfold Splitting.words
  rw [Splitting.splitOnP_congr agree]

/-- The names are the lines that are not empty. -/
theorem mem_lines {service : List Char} (written : service ≠ []) :
    service ∈ run.lines <-> service ∈ run.names := by
  have words := @Splitting.words_rdropWhile Char (fun char => char == '\n')
    (fun char => char == '\n') (fun _ newline => newline) run.stdout
  unfold Run.names
  rw [← words, Splitting.mem_words]
  exact ⟨fun listed => ⟨listed, written⟩, And.left⟩

theorem written_of_mem {service : List Char} (listed : service ∈ run.names) :
    service ≠ [] ∧ '\n' ∉ service := by
  have found := Splitting.mem_words.mp listed
  refine ⟨found.2, fun newline => ?_⟩
  have plain := (Splitting.mem_splitOnP found.1 newline).2
  cases plain

/-- A command that lists no names prints nothing but line ends.  If a character is
left without the line ends, then the last one of these is a character of a name. -/
theorem substitution_eq_nil (listing : Listing run) :
    run.shell.substitution = [] <-> run.names = [] := by
  constructor
  · intro empty
    rw [← fields_eq listing, empty]
    rfl
  · intro none
    by_contra written
    have last := List.rdropWhile_last_not (fun char : Char => char == '\n') run.stdout written
    rw [Bool.not_eq_true] at last
    have kept := (List.rdropWhile_prefix _ _).subset (List.getLast_mem written)
    rcases @Splitting.exists_word Char (fun char => char == '\n') _ _ kept last with ⟨word, listed, _⟩
    change word ∈ run.names at listed
    rw [none] at listed
    cases listed

/-- What the check of the shell says about the names. -/
theorem shell_iff {grep : List Char -> List (List Char) -> Bool} {declared running : Run}
    (first : Listing declared) (second : Listing running) :
    Cli.composeServices grep declared.shell running.shell = true <->
      declared.succeeded = true ∧ running.succeeded = true ∧ declared.names ≠ [] ∧
        running.names ≠ [] ∧ forall service, service ∈ declared.names ->
          grep service running.lines = true := by
  rw [Cli.composeServices_iff, fields_eq first, ne_eq, ne_eq, substitution_eq_nil first,
    substitution_eq_nil second]
  rfl

end Shell

/-! ## What the agent reads -/

theorem capture_eq {room : Nat} {text : List Char}
    (single : forall char, char ∈ text -> char.utf8Size = 1) (short : text.length ≤ room) :
    capture room text = text := by
  induction text generalizing room with
  | nil => cases room <;> rfl
  | cons char rest inductionHypothesis =>
      have size := single char List.mem_cons_self
      rw [List.length_cons] at short
      rw [capture, size, if_pos (by omega), inductionHypothesis
        (fun other listed => single other (List.mem_cons_of_mem _ listed)) (by omega)]

theorem toNat_of_isServiceChar {char : Char} (allowed : isServiceChar char = true) :
    45 ≤ char.toNat ∧ char.toNat ≤ 122 := by
  unfold isServiceChar at allowed
  rw [Bool.or_eq_true, Bool.or_eq_true, Bool.or_eq_true, beq_iff_eq, beq_iff_eq,
    beq_iff_eq] at allowed
  rcases allowed with ((letter | dot) | line) | dash
  · have bounds := Protocol.toNat_of_isAlphanum letter
    omega
  · rw [dot]
    decide
  · rw [line]
    decide
  · rw [dash]
    decide

theorem utf8Size_of_listing {char : Char} (allowed : isServiceChar char = true ∨ char = '\n') :
    char.utf8Size = 1 := by
  rw [Char.utf8Size_eq_one_iff, UInt32.le_iff_toNat_le]
  rcases allowed with service | newline
  · exact Nat.le_trans (toNat_of_isServiceChar service).2 (by decide)
  · rw [newline]
    decide

theorem isSpace_of_isServiceChar {char : Char} (allowed : isServiceChar char = true) :
    isSpace char = false := by
  have bounds := toNat_of_isServiceChar allowed
  unfold isSpace
  simp only [Bool.or_eq_false_iff, Bool.and_eq_false_iff, decide_eq_false_iff_not,
    beq_eq_false_iff_ne]
  omega

/-- A line of service characters has no blanks to trim. -/
theorem trimSpace_eq {line : List Char} (allowed : forall char, char ∈ line ->
    isServiceChar char = true) : trimSpace line = line := by
  have front : forall text : List Char, (forall char, char ∈ text -> isServiceChar char = true) ->
      text.dropWhile isSpace = text := by
    intro text all
    cases text with
    | nil => rfl
    | cons first rest =>
        rw [List.dropWhile_cons_of_neg]
        rw [isSpace_of_isServiceChar (all first List.mem_cons_self)]
        exact Bool.false_ne_true
  unfold trimSpace
  rw [front line allowed, front line.reverse fun char listed =>
    allowed char (List.mem_reverse.mp listed), List.reverse_reverse]

/-- A line of service characters is kept when it is neither empty nor too long. -/
theorem safeValue_iff {line : List Char} (allowed : forall char, char ∈ line ->
    isServiceChar char = true) :
    safeValue line = true <-> line ≠ [] ∧ line.length ≤ 80 := by
  have letters : (line.all fun char => Protocol.isIdCharacter char || char == '+') = true := by
    apply List.all_eq_true.mpr
    intro char listed
    have service := allowed char listed
    unfold isServiceChar at service
    unfold Protocol.isIdCharacter
    rw [Protocol.isAsciiAlphanumeric_eq, service]
    rfl
  unfold safeValue
  rw [letters, Bool.and_true, Bool.and_eq_true, decide_eq_true_eq, decide_eq_true_eq,
    Nat.one_le_iff_ne_zero, ne_eq, List.length_eq_zero_iff]

theorem mem_parseServices {raw service : List Char} :
    service ∈ parseServices raw <->
      safeValue service = true ∧
        Exists fun line : List Char => line ∈ raw.splitOn '\n' ∧ trimSpace line = service := by
  unfold parseServices
  rw [(List.perm_insertionSort _ _).mem_iff, List.mem_dedup, List.mem_filter, List.mem_map]
  exact and_comm

/-- Two outputs are read alike when they are read as the same set. -/
theorem parseServices_eq {first second : List Char} :
    parseServices first = parseServices second <->
      forall service, service ∈ parseServices first <-> service ∈ parseServices second := by
  constructor
  · intro same service
    rw [same]
  · intro same
    have perm : (parseServices first).Perm (parseServices second) := by
      have nodup : forall raw, (parseServices raw).Nodup := fun raw =>
        (List.perm_insertionSort _ _).nodup_iff.mpr (List.nodup_dedup _)
      exact (List.perm_ext_iff_of_nodup (nodup first) (nodup second)).mpr same
    have sorted : forall raw, (parseServices raw).Pairwise (· ≤ ·) := fun raw =>
      List.pairwise_insertionSort _ _
    exact perm.eq_of_pairwise (fun _ _ _ _ => le_antisymm) (sorted first) (sorted second)

/-- Of a plain listing the agent reads the names. -/
theorem mem_read {run : Run} (listing : Listing run) (plain : Plain run) {service : List Char} :
    service ∈ run.read <-> service ∈ run.names := by
  have together : run.combined = run.stdout := by
    unfold Run.combined Run.stdout
    rw [List.filter_eq_self.mpr fun write listed => decide_eq_true (plain.quiet write listed)]
  have captured : capture maxCapturedOutput run.combined = run.stdout := by
    rw [together]
    exact capture_eq (fun char listed => utf8Size_of_listing (listing char listed)) plain.short
  have letters : forall line, line ∈ run.stdout.splitOn '\n' -> forall char, char ∈ line ->
      isServiceChar char = true := by
    intro line listed char member
    rw [List.splitOn_eq_splitOnP] at listed
    have found := Splitting.mem_splitOnP listed member
    exact (listing char found.1).resolve_right (beq_eq_false_iff_ne.mp found.2)
  unfold Run.read
  rw [captured, mem_parseServices]
  constructor
  · rintro ⟨safe, line, listed, trimmed⟩
    have own := letters line listed
    rw [trimSpace_eq own] at trimmed
    subst trimmed
    exact Splitting.mem_words.mpr ⟨listed, ((safeValue_iff own).mp safe).1⟩
  · intro named
    have found := Splitting.mem_words.mp named
    have own := letters service found.1
    exact ⟨(safeValue_iff own).mpr ⟨found.2, (plain.names service named).1⟩, service, found.1,
      trimSpace_eq own⟩

theorem status_checkOf (passed : Bool) (name passDetail failDetail : String) :
    (checkOf passed name passDetail failDetail).status = "pass" <-> passed = true := by
  cases passed
  · refine iff_of_false ?_ Bool.false_ne_true
    intro same
    have texts : "fail" = "pass" := same
    exact absurd texts (by decide)
  · exact iff_of_true rfl rfl

/-- What the check of the agent says about what it has read. -/
theorem agent_iff {world : World} {composeFile : String} {declared running : Run}
    (shows : compose world composeFile .config = declared.agent ∧
      compose world composeFile .running = running.agent) :
    (servicesCheck world composeFile).status = "pass" <->
      declared.succeeded = true ∧ running.succeeded = true ∧ declared.read ≠ [] ∧
        declared.read = running.read := by
  have first : expected world composeFile = declared.read := by
    unfold expected output
    rw [shows.1, Run.agent, String.toList_ofList]
    rfl
  have second : Agent.Diagnostics.running world composeFile = running.read := by
    unfold Agent.Diagnostics.running output
    rw [shows.2, Run.agent, String.toList_ofList]
    rfl
  unfold servicesCheck
  rw [status_checkOf]
  unfold servicesRun
  rw [first, second, shows.1, shows.2, Bool.and_eq_true, Bool.and_eq_true, Bool.and_eq_true,
    decide_eq_true_eq, Bool.not_eq_true', List.isEmpty_eq_false_iff, and_assoc, and_assoc]
  rfl

/-! ## Agreement -/

section Agreement

variable {grep : List Char -> List (List Char) -> Bool} {world : World} {composeFile : String}
  {declared running : Run}

/-- A name that is no option is found exactly when it is running. -/
theorem grep_iff (finds : FindsLines grep) {service : List Char}
    (listed : service ∈ declared.names) (plain : service.head? ≠ some '-') :
    grep service running.lines = true <-> service ∈ running.names := by
  have written := written_of_mem listed
  rw [finds service running.lines written.1 plain written.2, mem_lines written.1]

theorem verdictsAgree_iff (finds : FindsLines grep)
    (shows : compose world composeFile .config = declared.agent ∧
      compose world composeFile .running = running.agent)
    (listings : Listing declared ∧ Listing running) :
    VerdictsAgree grep world composeFile declared running <->
      (declared.succeeded = true -> running.succeeded = true ->
        ReadAlike grep declared running) := by
  have shell := @shell_iff grep declared running listings.1 listings.2
  have agent := agent_iff shows
  constructor
  · intro agree first second
    constructor
    · intro all service listed _
      have passed := agree.shell.mpr { all with declaredRead := first, runningRead := second }
      exact (shell.mp passed).2.2.2.2 service listed
    · intro all
      have passed := agree.agent.mpr { all with declaredRead := first, runningRead := second }
      have read := (agent.mp passed).2.2
      exact ⟨read.2, read.1⟩
    · intro other
      by_contra none
      rw [not_or, not_or] at none
      apply other
      refine (agree.shell.mp (shell.mpr ⟨first, second, none.1, none.2.1, ?_⟩)).toAllRunning
      intro service listed
      by_contra missing
      exact none.2.2 ⟨service, listed, Bool.eq_false_iff.mpr missing⟩
    · intro other
      by_contra none
      rw [not_or, not_not] at none
      exact other (agree.agent.mp (agent.mpr ⟨first, second, none.2, none.1⟩)).toAllRunning
  · intro alike
    constructor
    · rw [shell]
      constructor
      · rintro ⟨first, second, declares, prints, found⟩
        by_cases all : AllRunning declared running
        · exact { all with declaredRead := first, runningRead := second }
        · rcases (alike first second).missed all with none | none | ⟨service, listed, missing⟩
          · exact absurd none declares
          · exact absurd none prints
          · rw [found service listed] at missing
            cases missing
      · intro healthy
        have read := alike healthy.declaredRead healthy.runningRead
        have prints : running.names ≠ [] := by
          rcases List.exists_mem_of_ne_nil _ healthy.declares with ⟨service, listed⟩
          exact List.ne_nil_of_mem (healthy.runs service listed)
        refine ⟨healthy.declaredRead, healthy.runningRead, healthy.declares, prints, ?_⟩
        intro service listed
        by_cases option : service.head? = some '-'
        · exact read.options healthy.toAllRunning service listed option
        · exact (grep_iff finds listed option).mpr (healthy.runs service listed)
    · rw [agent]
      constructor
      · rintro ⟨first, second, some, same⟩
        by_cases all : AllRunning declared running
        · exact { all with declaredRead := first, runningRead := second }
        · rcases (alike first second).different all with other | none
          · exact absurd same other
          · exact absurd none some
      · intro healthy
        have read := (alike healthy.declaredRead healthy.runningRead).same healthy.toAllRunning
        exact ⟨healthy.declaredRead, healthy.runningRead, read.2, read.1⟩

/-- Of plain listings both sides read the names; what remains is that the agent
does not allow further services to run. -/
theorem readAlike_of_plain (finds : FindsLines grep)
    (listings : Listing declared ∧ Listing running) (plain : Plain declared ∧ Plain running) :
    ReadAlike grep declared running <->
      (AllRunning declared running ->
        forall service, service ∈ running.names -> service ∈ declared.names) := by
  have first := fun {service} => @mem_read declared listings.1 plain.1 service
  have second := fun {service} => @mem_read running listings.2 plain.2 service
  have same : declared.read = running.read <->
      forall service, service ∈ declared.names <-> service ∈ running.names := by
    refine parseServices_eq.trans (forall_congr' ?_)
    intro service
    exact iff_congr first second
  have empty : declared.read = [] <-> declared.names = [] := by
    rw [List.eq_nil_iff_forall_not_mem, List.eq_nil_iff_forall_not_mem]
    exact forall_congr' fun service => not_congr first
  constructor
  · intro alike all service listed
    exact (same.mp (alike.same all).1 service).mpr listed
  · intro none
    constructor
    · intro all service listed option
      exact absurd option (plain.1.names service listed).2
    · intro all
      refine ⟨same.mpr ?_, fun read => all.declares (empty.mp read)⟩
      exact fun service => ⟨all.runs service, none all service⟩
    · intro other
      by_cases declares : declared.names = []
      · exact Or.inl declares
      · refine Or.inr (Or.inr ?_)
        by_contra found
        apply other
        refine ⟨declares, ?_⟩
        intro service listed
        have option := (plain.1.names service listed).2
        refine (grep_iff finds listed option).mp ?_
        by_contra missing
        exact found ⟨service, listed, Bool.eq_false_iff.mpr missing⟩
    · intro other
      by_cases declares : declared.names = []
      · exact Or.inr (empty.mpr declares)
      · refine Or.inl ?_
        intro read
        exact other ⟨declares, fun service listed => (same.mp read service).mp listed⟩

/-- For plain outputs the verdicts agree exactly when no service that is not
declared runs beside the declared ones: all that the command line looks at is
whether the declared services run, and the agent asks for equal sets.

Outputs of every other kind are covered as well.  The agent reads both streams
together, the first 8192 bytes of them and names of at most 80 characters, and
the shell hands each name to `grep` as its first argument; the condition then
speaks of what is left of the two lists. -/
theorem compose_verdicts_agree (finds : FindsLines grep)
    (shows : compose world composeFile .config = declared.agent ∧
      compose world composeFile .running = running.agent)
    (listings : Listing declared ∧ Listing running) :
    (Plain declared ∧ Plain running ->
      (VerdictsAgree grep world composeFile declared running <->
        (Healthy declared running ->
          forall service, service ∈ running.names -> service ∈ declared.names))) ∧
      (VerdictsAgree grep world composeFile declared running <->
        (declared.succeeded = true -> running.succeeded = true ->
          ReadAlike grep declared running)) := by
  have exactly := verdictsAgree_iff finds shows listings
  refine ⟨?_, exactly⟩
  intro plain
  rw [exactly, readAlike_of_plain finds listings plain]
  constructor
  · exact fun none healthy => none healthy.declaredRead healthy.runningRead healthy.toAllRunning
  · intro none first second all
    exact none { all with declaredRead := first, runningRead := second }

end Agreement

/-! ## Two runs -/

/-- A command that prints these names. -/
def lists (names : List String) : Run where
  writes := names.map fun name => (.out, name.toList ++ ['\n'])
  succeeded := true

def sampleGrep (word : List Char) (lines : List (List Char)) : Bool := decide (word ∈ lines)

theorem sampleGrep_finds : FindsLines sampleGrep :=
  fun _ _ _ _ _ => decide_eq_true_iff

/-- Surroundings in which Docker prints what two runs print. -/
def sampleWorld (declared running : Run) : World where
  files := ⟨some "/srv/app", fun _ => true, some⟩
  docker := fun arguments =>
    if arguments.getLast? = some "--services" then declared.agent else running.agent
  cancelAt := none
  loss := none

theorem sampleWorld_shows (declared running : Run) :
    compose (sampleWorld declared running) "docker-compose.yml" .config = declared.agent ∧
      compose (sampleWorld declared running) "docker-compose.yml" .running = running.agent :=
  ⟨rfl, rfl⟩

theorem compose_verdicts_agree_sample :
    VerdictsAgree sampleGrep (sampleWorld (lists ["postgres", "web"]) (lists ["web", "postgres"]))
      "docker-compose.yml" (lists ["postgres", "web"]) (lists ["web", "postgres"]) := by
  refine ((compose_verdicts_agree sampleGrep_finds (sampleWorld_shows _ _)
    ⟨listing_of_all (by decide), listing_of_all (by decide)⟩).1 ⟨?_, ?_⟩).mpr ?_
  · exact ⟨by decide, by decide, by decide⟩
  · exact ⟨by decide, by decide, by decide⟩
  · intro _
    decide

/-- A service that runs besides the declared ones fails the check of the agent
only. -/
theorem further_service_disagrees :
    Cli.composeServices sampleGrep (lists ["web"]).shell (lists ["web", "worker"]).shell = true ∧
      servicesCheck (sampleWorld (lists ["web"]) (lists ["web", "worker"])) "docker-compose.yml" =
        fail "compose_services" "declared services are not all running" ∧
      ¬ VerdictsAgree sampleGrep (sampleWorld (lists ["web"]) (lists ["web", "worker"]))
        "docker-compose.yml" (lists ["web"]) (lists ["web", "worker"]) := by
  have passes : Cli.composeServices sampleGrep (lists ["web"]).shell
      (lists ["web", "worker"]).shell = true := by
    decide
  have fails : servicesCheck (sampleWorld (lists ["web"]) (lists ["web", "worker"]))
      "docker-compose.yml" = fail "compose_services" "declared services are not all running" := by
    decide
  refine ⟨passes, fails, ?_⟩
  intro agree
  have passed := agree.agent.mpr (agree.shell.mp passes)
  rw [fails] at passed
  exact absurd passed (by decide)

end Agreement
end DjangoOps
