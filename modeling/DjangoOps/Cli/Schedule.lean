import DjangoOps.Cli.ConfigRoundTrip
import DjangoOps.Cli.Target
import DjangoOps.Foundation.ShellWord
import DjangoOps.Foundation.TextLines
import Mathlib.Data.List.Infix

namespace DjangoOps
namespace Cli

open TextLines

/-!
# The backup schedule

`install_backup_schedule` rewrites the crontab of the remote user.  It takes out
every line that contains the marker of the project, and adds one entry, which
ends with the marker.
-/

/-- `marker` -/
def scheduleMarker (config : DjangoOpsConfig) : List Char :=
  "# djangoops-backup:".toList ++ config.project.name.toList

/-- `runner` -/
def backupRunner (target : DeploymentTarget) : List Char :=
  (target.remoteBase ++ "/shared/djangoops-backup.sh").toList

/-- `cron_line` -/
def cronLine (config : DjangoOpsConfig) (target : DeploymentTarget) : List Char :=
  config.backup.schedule.toList ++ ' ' :: (ShellWord.quote (backupRunner target) ++
    ' ' :: scheduleMarker config)

/-- `grep -Fv` -/
def grepFv (fixed text : List Char) : List Char :=
  filterLines (fun line => !contains fixed line) text

/-- The last commands of `install_backup_schedule`, from the output of
`crontab -l` to the input of `crontab -`. -/
def rewriteCrontab (fixed line crontab : List Char) : List Char :=
  let current := substitution crontab
  let filtered := substitution (grepFv fixed (current ++ ['\n']))
  filterLines (fun line => !line.isEmpty) (filtered ++ '\n' :: (line ++ ['\n']))

/-- `install_backup_schedule`, when the commands in front of the last ones
succeed.  The shell reads the marker and the entry as quoted words. -/
def installBackupSchedule (config : DjangoOpsConfig) (target : DeploymentTarget)
    (crontab : List Char) : Option (List Char) :=
  (ShellWord.read .plain (ShellWord.quote (scheduleMarker config))).bind fun fixed =>
    (ShellWord.read .plain (ShellWord.quote (cronLine config target))).map fun line =>
      rewriteCrontab fixed line crontab

/-- The line is an entry of the project: it ends with the marker. -/
def isOwnEntry (config : DjangoOpsConfig) (line : List Char) : Bool :=
  decide ((' ' :: scheduleMarker config) <:+ line)

/-! ## What a run leaves -/

theorem contains_of_infix {word text : List Char} (inside : word <:+: text) :
    contains word text = true := by
  rcases inside with ⟨front, back, rfl⟩
  unfold contains
  rw [List.any_eq_true]
  refine ⟨word ++ back, (List.mem_tails _ _).mpr ⟨front, by rw [List.append_assoc]⟩, ?_⟩
  exact List.isPrefixOf_iff_prefix.mpr (List.prefix_append word back)

theorem contains_of_isOwnEntry {config : DjangoOpsConfig} {line : List Char}
    (own : isOwnEntry config line = true) : contains (scheduleMarker config) line = true := by
  rcases of_decide_eq_true own with ⟨front, same⟩
  apply contains_of_infix
  refine ⟨front ++ [' '], [], ?_⟩
  rw [← same, List.append_nil, List.append_assoc]
  rfl

theorem isOwnEntry_cronLine (config : DjangoOpsConfig) (target : DeploymentTarget) :
    isOwnEntry config (cronLine config target) = true := by
  unfold isOwnEntry cronLine
  rw [decide_eq_true_eq]
  refine ⟨config.backup.schedule.toList ++ ' ' :: ShellWord.quote (backupRunner target), ?_⟩
  simp only [List.append_assoc, List.cons_append]

/-- The entries without the marker stay, and the new one follows. -/
theorem rewriteCrontab_eq (fixed crontab : List Char) {line : List Char} (written : line ≠ [])
    (solid : forall char, char ∈ line -> isNewline char = false) :
    rewriteCrontab fixed line crontab =
      unlines ((entries crontab).filter (fun entry => !contains fixed entry) ++ [line]) := by
  have nothing : entries [] = [] := rfl
  unfold rewriteCrontab grepFv
  dsimp only
  rw [filterLines_written, entries_append, entries_substitution, entries_filterLines,
    entries_append, entries_substitution, entries_append, entries_line written solid, nothing,
    List.append_nil, List.append_nil]

/-! ## The entry is one line -/

theorem isNewline_of_plain {plain : Char -> Bool} (never : plain '\n' = false) {char : Char}
    (allowed : plain char = true) : isNewline char = false := by
  cases newline : isNewline char with
  | false => rfl
  | true =>
      rw [beq_iff_eq.mp newline, never] at allowed
      cases allowed

theorem newline_of_matchesProject {text : List Char} (matched : matchesProject text = true)
    (char : Char) (listed : char ∈ text) : isNewline char = false := by
  rcases mem_matchesRun matched listed with letter | inner
  · exact @isNewline_of_plain Char.isAlpha rfl _ letter
  · exact @isNewline_of_plain (fun char => char.isAlphanum || char == '_' || char == '-') rfl _
      inner

theorem cronLine_solid {config : DjangoOpsConfig} {target : DeploymentTarget}
    (named : validateProjectName config.project.name = .ok config.project.name)
    (scheduled : validateBackupSchedule config.backup.schedule = .ok config.backup.schedule)
    (based : validateRemoteBase target.remoteBase = .ok ()) {char : Char}
    (listed : char ∈ cronLine config target) : isNewline char = false := by
  have schedule := (accept_ok scheduled).1
  have name := (accept_ok named).1
  simp only [Bool.and_eq_true, decide_eq_true_eq] at schedule
  have marked (letter : Char) (inner : letter ∈ scheduleMarker config) :
      isNewline letter = false := by
    rcases List.mem_append.mp inner with known | named
    · have plain : "# djangoops-backup:".toList.all (fun char => !isNewline char) = true := by
        decide
      simpa only [Bool.not_eq_true'] using List.all_eq_true.mp plain letter known
    · exact newline_of_matchesProject name letter named
  have runs (letter : Char) (inner : letter ∈ backupRunner target) : isNewline letter = false := by
    unfold backupRunner at inner
    rw [String.toList_append] at inner
    rcases List.mem_append.mp inner with known | known
    · have printable := List.any_eq_false.mp (validateRemoteBase_ok based).1 letter known
      exact @isNewline_of_plain (fun char => !isControl char) rfl _
        (by rw [Bool.not_eq_true] at printable; rw [printable]; rfl)
    · have plain : "/shared/djangoops-backup.sh".toList.all (fun char => !isNewline char) = true := by
        decide
      simpa only [Bool.not_eq_true'] using List.all_eq_true.mp plain letter known
  unfold cronLine at listed
  simp only [List.mem_append, List.mem_cons] at listed
  rcases listed with planned | rfl | quoted | rfl | marker
  · exact isNewline_of_plain rfl (List.all_eq_true.mp schedule.1.2.2 char planned)
  · rfl
  · rcases ShellWord.mem_quote quoted with inner | rfl | rfl
    · exact runs char inner
    · rfl
    · rfl
  · rfl
  · exact marked char marker

theorem cronLine_ne_nil (config : DjangoOpsConfig) (target : DeploymentTarget) :
    cronLine config target ≠ [] := by
  unfold cronLine
  exact List.append_ne_nil_of_right_ne_nil _ (List.cons_ne_nil _ _)

/-! ## Installing the schedule -/

/-- The entries without the marker. -/
def keptEntries (config : DjangoOpsConfig) (crontab : List Char) : List (List Char) :=
  (entries crontab).filter fun entry => !contains (scheduleMarker config) entry

/-- An entry without the marker is not the project's own. -/
theorem isOwnEntry_of_kept {config : DjangoOpsConfig} {crontab line : List Char}
    (listed : line ∈ keptEntries config crontab) : isOwnEntry config line = false := by
  have kept := (List.mem_filter.mp listed).2
  cases own : isOwnEntry config line with
  | false => rfl
  | true =>
      rw [contains_of_isOwnEntry own] at kept
      cases kept

section Installing

variable {config : DjangoOpsConfig} {target : DeploymentTarget}
  (solid : forall char, char ∈ cronLine config target -> isNewline char = false)

include solid

theorem installBackupSchedule_eq (crontab : List Char) :
    installBackupSchedule config target crontab =
      some (unlines (keptEntries config crontab ++ [cronLine config target])) := by
  unfold installBackupSchedule
  rw [ShellWord.read_quote, ShellWord.read_quote]
  exact congrArg some
    (rewriteCrontab_eq _ crontab (cronLine_ne_nil config target) solid)

theorem entries_installed (crontab : List Char) :
    entries (unlines (keptEntries config crontab ++ [cronLine config target])) =
      keptEntries config crontab ++ [cronLine config target] := by
  have written : forall line, line ∈ keptEntries config crontab -> line ≠ [] := by
    intro line listed
    exact (Splitting.mem_words.mp (List.mem_of_mem_filter listed)).2
  rw [entries_unlines, List.filter_eq_self.mpr]
  · intro line listed
    rw [Bool.not_eq_true', List.isEmpty_eq_false_iff]
    rcases List.mem_append.mp listed with kept | added
    · exact written line kept
    · rw [List.mem_singleton.mp added]
      exact cronLine_ne_nil config target
  · intro line listed
    rcases List.mem_append.mp listed with kept | added
    · have known := List.mem_of_mem_filter kept
      rw [entries_eq] at known
      exact solid_lines crontab line (List.mem_of_mem_filter known)
    · rw [List.mem_singleton.mp added]
      exact solid

end Installing

/-- What is expected of an installation: the entries of others stay as they are and in
their order, the project has one entry, and installing it again changes nothing. -/
structure ProjectScoped (config : DjangoOpsConfig) (target : DeploymentTarget)
    (before after : List Char) : Prop where
  others : (entries after).filter (fun line => !isOwnEntry config line) =
    (entries before).filter fun line => !isOwnEntry config line
  own : (entries after).filter (isOwnEntry config) = [cronLine config target]
  again : installBackupSchedule config target after = some after

/-- The installation is scoped to its project exactly when the marker occurs in
no line but the entries of the project.  The old entry is taken out by a search
for the marker anywhere in a line, so a project whose name starts with that of
another one loses its entry to it. -/
theorem install_project_scoped {config : DjangoOpsConfig} {isFile : String -> Bool}
    {host user : String} {port : Int} {remoteBase : String} {identityFile : Option String}
    {target : DeploymentTarget}
    (named : validateProjectName config.project.name = .ok config.project.name)
    (scheduled : validateBackupSchedule config.backup.schedule = .ok config.backup.schedule)
    (created : DeploymentTarget.create isFile host user port remoteBase identityFile = .ok target)
    (crontab : List Char) :
    Exists fun after : List Char =>
      installBackupSchedule config target crontab = some after ∧
        (ProjectScoped config target crontab after <->
          forall line : List Char, line ∈ entries crontab ->
            contains (scheduleMarker config) line = true -> isOwnEntry config line = true) := by
  have base := DeploymentTarget.create_ok created
  rw [← base.1] at base
  have solid : forall char, char ∈ cronLine config target -> isNewline char = false :=
    fun char listed => cronLine_solid named scheduled base.2 listed
  have ownLine := isOwnEntry_cronLine config target
  have foreign : (keptEntries config crontab).filter (fun line => !isOwnEntry config line) =
      keptEntries config crontab := by
    apply List.filter_eq_self.mpr
    intro line listed
    rw [isOwnEntry_of_kept listed]
    rfl
  have others : (keptEntries config crontab ++ [cronLine config target]).filter
      (fun line => !isOwnEntry config line) = keptEntries config crontab := by
    rw [List.filter_append, foreign, List.filter_cons_of_neg (by rw [ownLine]; decide)]
    exact List.append_nil _
  refine ⟨_, installBackupSchedule_eq solid crontab, ?_⟩
  constructor
  · intro holds line listed found
    by_contra other
    have after : line ∈ (entries crontab).filter fun line => !isOwnEntry config line :=
      List.mem_filter.mpr ⟨listed, by rw [Bool.not_eq_true] at other; rw [other]; rfl⟩
    rw [← holds.others, entries_installed solid, others] at after
    have unmarked := (List.mem_filter.mp after).2
    rw [found] at unmarked
    cases unmarked
  · intro alone
    refine ⟨?_, ?_, ?_⟩
    · rw [entries_installed solid, others]
      apply List.filter_congr
      intro line listed
      refine congrArg not (Bool.eq_iff_iff.mpr ⟨alone line listed, contains_of_isOwnEntry⟩)
    · rw [entries_installed solid, List.filter_append, List.filter_cons_of_pos ownLine,
        List.filter_eq_nil_iff.mpr fun line listed => by
          rw [isOwnEntry_of_kept listed]; exact Bool.false_ne_true]
      rfl
    · have kept : keptEntries config
          (unlines (keptEntries config crontab ++ [cronLine config target])) =
            keptEntries config crontab := by
        change (entries (unlines (keptEntries config crontab ++ [cronLine config target]))).filter
          (fun entry => !contains (scheduleMarker config) entry) = _
        rw [entries_installed solid, List.filter_append,
          List.filter_cons_of_neg (by rw [contains_of_isOwnEntry ownLine]; decide)]
        unfold keptEntries
        rw [List.filter_filter]
        simp only [Bool.and_self, List.filter_nil, List.append_nil]
      rw [installBackupSchedule_eq solid, kept]

/-! ## A name that begins with another one -/

def shopConfig (name : String) : DjangoOpsConfig where
  schemaVersion := 3
  project := { name }
  django := { module := "config.settings" }
  services := {}
  tls := { hostname := "shop.example.com", acmeEmail := "ops@example.com" }
  storage :=
    { endpointUrl := "https://objects.example.com", region := none
      staticBucket := "shop-static", mediaBucket := "shop-media" }
  backup := { schedule := "17 2 * * *", bucket := "shop-backups" }

def shopHost : DeploymentTarget := ⟨"shop.example.com", "deploy", 22, "/srv/shop", none⟩

/-- The crontab after the installation for `shop-eu`. -/
def otherCrontab : List Char := unlines [cronLine (shopConfig "shop-eu") shopHost]

/-- The installation for `shop` removes the entry of `shop-eu`. -/
theorem prefix_loses_entry :
    validateProjectName "shop" = .ok "shop" ∧ validateProjectName "shop-eu" = .ok "shop-eu" ∧
      installBackupSchedule (shopConfig "shop-eu") shopHost [] = some otherCrontab ∧
      Exists fun after : List Char =>
        installBackupSchedule (shopConfig "shop") shopHost otherCrontab = some after ∧
          entries after = [cronLine (shopConfig "shop") shopHost] ∧
          ¬ ProjectScoped (shopConfig "shop") shopHost otherCrontab after := by
  refine ⟨by decide +kernel, by decide +kernel, by decide +kernel,
    unlines [cronLine (shopConfig "shop") shopHost], by decide +kernel, by decide +kernel, ?_⟩
  intro holds
  exact absurd holds.others (by decide +kernel)

/-- Nothing is lost when the other name does not begin with this one. -/
theorem install_project_scoped_blog :
    Exists fun after : List Char =>
      installBackupSchedule (shopConfig "blog") shopHost otherCrontab = some after ∧
        ProjectScoped (shopConfig "blog") shopHost otherCrontab after := by
  have created : DeploymentTarget.create (fun _ => true) "shop.example.com" "deploy" 22 "/srv/shop"
      none = .ok shopHost := by decide +kernel
  rcases @install_project_scoped (shopConfig "blog") _ _ _ _ _ _ _ (by decide +kernel)
    (by decide +kernel) created otherCrontab with ⟨after, installed, agreed⟩
  exact ⟨after, installed, agreed.mpr (by decide +kernel)⟩

end Cli
end DjangoOps
