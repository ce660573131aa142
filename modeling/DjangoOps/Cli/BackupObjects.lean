import DjangoOps.Cli.BackupListing

namespace DjangoOps
namespace Cli
namespace Backup

open TextLines

universe u

/-!
# The objects of a backup

A backup is a prefix of the bucket with a dump of the database, a copy of the
media, a marker for the end of that copy, and metadata, which the backup runner
writes last and `restore_backup` reads first.
-/

/-- The programs behind the scripts.  `pgDump` is the whole output of a `pg_dump`
that succeeds; `psql` is what a stream makes of the database `created`, unless a
statement fails; `gunzip` gives nothing for a file that `gzip -t` refuses. -/
structure Tools (Content Stream Archive : Type u) where
  pgDump : Content -> Stream
  created : Content
  psql : Stream -> Option Content
  gzip : Stream -> Archive
  gunzip : Archive -> Option Stream
  psql_pgDump : forall content : Content, psql (pgDump content) = some content
  gunzip_gzip : forall stream : Stream, gunzip (gzip stream) = some stream

/-- The objects of a media bucket, or of a copy of one, by their keys. -/
abbrev Media (Object : Type u) := List Char -> Option Object

/-- `aws s3 sync` without `--delete` -/
def Media.sync {Object : Type u} (source copy : Media Object) : Media Object :=
  fun key => (source key).or (copy key)

/-- The objects below the prefix of a backup.  `synced` says that a copy of the
media has been completed. -/
structure Objects (Archive Object : Type u) where
  database : Option Archive := none
  media : Media Object := fun _ => none
  synced : Bool := false
  mediaReady : Bool := false
  metadata : Option (List Char) := none

/-! ## The metadata -/

/-- The lines of `metadata.txt` -/
inductive MetadataLine
  | backupId
  | project
  | database
  | media
  deriving DecidableEq

def MetadataLine.text (config : DjangoOpsConfig) (id : List Char) : MetadataLine -> List Char
  | .backupId => "backup_id=".toList ++ id
  | .project => "project=".toList ++ config.project.name.toList
  | .database => "database=database.sql.gz".toList
  | .media => "media=media/".toList

def MetadataLine.all : List MetadataLine := [.backupId, .project, .database, .media]

/-- What the backup runner prints as the metadata. -/
def metadataText (config : DjangoOpsConfig) (id : List Char) : List Char :=
  unlines (MetadataLine.all.map fun line => line.text config id)

/-- `grep -Fx` with a pattern of one line -/
def grepFx (pattern text : List Char) : Bool := decide (pattern ∈ TextLines.lines text)

/-- The metadata of a backup are found again, if nothing in them has newlines. -/
theorem grepFx_metadataText {config : DjangoOpsConfig} {id : List Char}
    (named : forall char, char ∈ config.project.name.toList -> isNewline char = false)
    (plain : forall char, char ∈ id -> isNewline char = false) (line : MetadataLine) :
    grepFx (line.text config id) (metadataText config id) = true := by
  have solid : forall char, char ∈ line.text config id -> isNewline char = false := by
    intro char listed
    have fixed (text : String) (all : text.toList.all (fun char => !isNewline char) = true)
        (inner : char ∈ text.toList) : isNewline char = false :=
      (Bool.not_eq_true' _).mp (List.all_eq_true.mp all char inner)
    cases line with
    | backupId =>
        rcases List.mem_append.mp listed with inner | inner
        · exact fixed _ (by decide) inner
        · exact plain char inner
    | project =>
        rcases List.mem_append.mp listed with inner | inner
        · exact fixed _ (by decide) inner
        · exact named char inner
    | database => exact fixed _ (by decide) listed
    | media => exact fixed _ (by decide) listed
  have member : line ∈ MetadataLine.all := by
    cases line with
    | backupId | project | database | media => decide
  refine decide_eq_true ?_
  unfold metadataText
  rw [lines_unlines_flatMap, List.mem_flatMap]
  refine ⟨line.text config id, List.mem_map_of_mem member, ?_⟩
  rw [List.splitOnP_eq_singleton solid]
  exact List.mem_singleton_self _

/-! ## Programs for one table -/

/-- A table of numbers.  The last line of its dump is a comment that says that
the dump is complete; a compressed file is the stream, any other one nothing. -/
def tableTools : Tools (List Nat) (List (Option Nat)) (Option (List (Option Nat))) where
  pgDump rows := rows.map some ++ [none]
  created := []
  psql stream := some (stream.filterMap id)
  gzip := some
  gunzip := fun archive => archive
  psql_pgDump rows := by
    rw [List.filterMap_append, List.filterMap_map]
    exact congrArg some ((List.append_nil _).trans (List.filterMap_some))
  gunzip_gzip _ := rfl

end Backup
end Cli
end DjangoOps
