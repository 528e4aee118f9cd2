import Accord.Library.Keyed
import Accord.Types.Text

/-! The checksums of applied migrations, and their repair where the files were
checked out with other line endings. -/

namespace Accord

namespace LineEndings

/-- `replace("\r\n", "\n")` -/
def toLf : List Char → List Char
  | '\r' :: '\n' :: rest => '\n' :: toLf rest
  | char :: rest => char :: toLf rest
  | [] => []

/-- `replace('\n', "\r\n")` -/
def toCrlf (chars : List Char) : List Char :=
  chars.flatMap fun char => if char = '\n' then ['\r', '\n'] else [char]

def lf (sql : String) : String := String.ofList (toLf sql.toList)

def crlf (sql : String) : String :=
  String.ofList (toCrlf (toLf sql.toList))

/-- Every carriage return is followed by a line feed. -/
def Returned (chars : List Char) : Prop :=
  ∀ before after, chars = before ++ '\r' :: after → after.head? = some '\n'

/-- No line feed follows a carriage return. -/
def OnlyLf (chars : List Char) : Prop :=
  ∀ before after, chars = before ++ '\n' :: after →
    before.getLast? ≠ some '\r'

/-- Every line feed follows a carriage return. -/
def OnlyCrlf (chars : List Char) : Prop :=
  ∀ before after, chars = before ++ '\n' :: after →
    before.getLast? = some '\r'

def Uniform (chars : List Char) : Prop := OnlyLf chars ∨ OnlyCrlf chars

section Forms

variable {char : Char} {chars rest : List Char}

private theorem toLf_cons
    (other : ∀ tail, char = '\r' → rest = '\n' :: tail → False) :
    toLf (char :: rest) = char :: toLf rest := by
  rw [toLf]
  exact other

theorem Returned.tail (returned : Returned (char :: rest)) :
    Returned rest := by
  rintro before after rfl
  exact returned (char :: before) after rfl

private theorem Returned.head_ne (returned : Returned (char :: rest))
    (other : ∀ tail, char = '\r' → rest = '\n' :: tail → False) :
    char ≠ '\r' := by
  rintro rfl
  have followed := returned [] rest rfl
  cases rest with
  | nil => cases followed
  | cons next tail =>
      cases followed
      exact other tail rfl rfl

private theorem toLf_without (without : '\r' ∉ chars) : toLf chars = chars := by
  induction chars using toLf.induct with
  | case1 rest _ => exact absurd List.mem_cons_self without
  | case2 char rest other induction =>
      rw [toLf_cons other,
        induction fun inside => without (List.mem_cons_of_mem char inside)]
  | case3 => rfl

private theorem not_mem_toLf (returned : Returned chars) :
    '\r' ∉ toLf chars := by
  induction chars using toLf.induct with
  | case1 rest induction =>
      rw [toLf, List.mem_cons, not_or]
      exact ⟨by decide, induction returned.tail.tail⟩
  | case2 char rest other induction =>
      rw [toLf_cons other, List.mem_cons, not_or]
      exact ⟨(returned.head_ne other).symm, induction returned.tail⟩
  | case3 => exact List.not_mem_nil

private theorem toLf_toLf (returned : Returned chars) :
    toLf (toLf chars) = toLf chars :=
  toLf_without (not_mem_toLf returned)

private theorem toCrlf_cons (char : Char) (rest : List Char) :
    toCrlf (char :: rest) =
      (if char = '\n' then ['\r', '\n'] else [char]) ++ toCrlf rest :=
  List.flatMap_cons

private theorem head_toCrlf (chars : List Char) :
    (toCrlf chars).head? ≠ some '\n' := by
  cases chars with
  | nil => exact nofun
  | cons char rest =>
      rw [toCrlf_cons]
      split
      · simp
      · simpa

private theorem toLf_toCrlf (chars : List Char) :
    toLf (toCrlf chars) = chars := by
  induction chars with
  | nil => rfl
  | cons char rest induction =>
      rw [toCrlf_cons]
      split
      · rename_i feed
        rw [feed]
        change '\n' :: toLf (toCrlf rest) = _
        rw [induction]
      · have apart : ∀ tail, char = '\r' → toCrlf rest = '\n' :: tail →
            False := by
          intro tail _ begins
          apply head_toCrlf rest
          rw [begins, List.head?_cons]
        rw [List.singleton_append, toLf_cons apart, induction]

private theorem toLf_of_onlyLf (returned : Returned chars)
    (only : OnlyLf chars) :
    toLf chars = chars := by
  apply toLf_without
  intro inside
  obtain ⟨before, after, split⟩ := List.append_of_mem inside
  have followed := returned before after split
  cases after with
  | nil => cases followed
  | cons next tail =>
      cases followed
      refine only (before ++ ['\r']) tail ?_ List.getLast?_concat
      rw [split, List.append_assoc, List.singleton_append]

/-- After a character that no line feed follows, the rest is alike. -/
theorem OnlyCrlf.tail (only : OnlyCrlf (char :: rest)) (other : char ≠ '\r') :
    OnlyCrlf rest := by
  rintro before after rfl
  have preceded := only (char :: before) after rfl
  cases before with
  | nil => exact absurd (Option.some.inj preceded) other
  | cons next tail => rwa [List.getLast?_cons_cons] at preceded

private theorem toCrlf_of_onlyCrlf (returned : Returned chars)
    (only : OnlyCrlf chars) : toCrlf (toLf chars) = chars := by
  induction chars using toLf.induct with
  | case1 rest induction =>
      have skipped : OnlyCrlf rest := by
        rintro before after rfl
        have preceded := only ('\r' :: '\n' :: before) after rfl
        cases before with
        | nil => cases preceded
        | cons next tail =>
            rwa [List.getLast?_cons_cons, List.getLast?_cons_cons] at preceded
      rw [toLf, toCrlf_cons, if_pos rfl,
        induction returned.tail.tail skipped]
      rfl
  | case2 char rest other induction =>
      have noReturn := returned.head_ne other
      have noFeed : char ≠ '\n' := by
        rintro rfl
        cases only [] rest rfl
      rw [toLf_cons other, toCrlf_cons, if_neg noFeed,
        induction returned.tail (only.tail noReturn)]
      rfl
  | case3 => rfl

end Forms

end LineEndings

open LineEndings

/-- The checksum is one of the bytes of the text. -/
def lineEndingVariantChecksums (sha384 : String → Bytes) (sql : String) :
    List Bytes :=
  [sha384 (lf sql), sha384 (crlf sql)]

structure Migration where
  version : Int
  sql : String
  checksum : Bytes
  deriving DecidableEq

/-- A row of `_sqlx_migrations`. -/
structure MigrationRow where
  version : Int
  checksum : Bytes
  deriving DecidableEq

abbrev Migrator := Keyed Migration.version

abbrev Applied := Keyed MigrationRow.version

def restamp (checksum : Bytes) : Keyed.Change MigrationRow.version where
  apply row := { row with checksum := checksum }

section Repair

variable (sha384 : String → Bytes)

def repairOne (applied : Applied) (migration : Migration) : Applied :=
  match applied.find migration.version with
  | none => applied
  | some stored =>
      if stored.checksum = migration.checksum then
        applied
      else if (lineEndingVariantChecksums sha384 migration.sql).any
          (· == stored.checksum) then
        applied.modify migration.version (restamp migration.checksum)
      else
        applied

def repairLineEndingChecksums (migrator : Migrator) :
    Option Applied → Option Applied
  | none => none
  | some applied => some (migrator.rows.foldl (repairOne sha384) applied)

def restamped (row : MigrationRow) (migration : Migration) : MigrationRow :=
  if row.version = migration.version ∧
      row.checksum ∈ lineEndingVariantChecksums sha384 migration.sql then
    (restamp migration.checksum).apply row
  else
    row

variable {sha384} {applied : Applied} {migration : Migration}
  {row : MigrationRow}

private theorem version_restamped :
    (restamped sha384 row migration).version = row.version := by
  unfold restamped
  split <;> rfl

private theorem restamped_of_ne (other : row.version ≠ migration.version) :
    restamped sha384 row migration = row :=
  if_neg fun both => other both.1

private theorem restamped_restamped :
    restamped sha384 (restamped sha384 row migration) migration =
      restamped sha384 row migration := by
  unfold restamped
  split_ifs <;> rfl

private theorem rows_repairOne :
    (repairOne sha384 applied migration).rows =
      applied.rows.map (restamped sha384 · migration) := by
  have unchanged (same : ∀ row ∈ applied.rows,
      row.version = migration.version →
        restamped sha384 row migration = row) :
      applied.rows = applied.rows.map (restamped sha384 · migration) := by
    rw [List.map_congr_left (g := id), List.map_id]
    intro row member
    by_cases version : row.version = migration.version
    · exact same row member version
    · exact restamped_of_ne version
  unfold repairOne
  cases found : applied.find migration.version with
  | none =>
      apply unchanged
      intro row member version
      exact absurd version (Keyed.keyOf_ne_of_find found member)
  | some stored =>
      have only (row : MigrationRow) (member : row ∈ applied.rows)
          (version : row.version = migration.version) : row = stored := by
        have here := Keyed.find_of_mem member
        rw [version, found] at here
        exact (Option.some.inj here).symm
      dsimp only
      split_ifs with current variant
      · apply unchanged
        intro row member version
        rw [only row member version]
        unfold restamped
        split
        · exact congrArg (MigrationRow.mk stored.version) current.symm
        · rfl
      · refine List.map_congr_left fun row member => ?_
        unfold Keyed.changed restamped
        by_cases version : row.version = migration.version
        · have listed : row.checksum ∈
              lineEndingVariantChecksums sha384 migration.sql := by
            rw [only row member version]
            simpa using variant
          rw [if_pos version, if_pos ⟨version, listed⟩]
        · rw [if_neg version, if_neg fun both => version both.1]
      · apply unchanged
        intro row member version
        apply if_neg
        rintro ⟨_, listed⟩
        rw [only row member version] at listed
        exact variant (by simpa using listed)

private theorem rows_repair (migrations : List Migration) :
    (migrations.foldl (repairOne sha384) applied).rows =
      applied.rows.map fun row =>
        migrations.foldl (restamped sha384) row := by
  induction migrations generalizing applied with
  | nil => exact (List.map_id _).symm
  | cons migration rest induction =>
      rw [List.foldl_cons, induction, rows_repairOne, List.map_map]
      rfl

private theorem foldl_restamped_of_ne {migrations : List Migration}
    (other : ∀ migration ∈ migrations, row.version ≠ migration.version) :
    migrations.foldl (restamped sha384) row = row := by
  induction migrations with
  | nil => rfl
  | cons migration rest induction =>
      rw [List.foldl_cons, restamped_of_ne (other migration (by simp))]
      exact induction fun later member => other later (by simp [member])

/-- Of migrations with different versions one at most is the row's. -/
private theorem foldl_restamped {migrations : List Migration}
    (distinct : (migrations.map Migration.version).Nodup)
    (member : migration ∈ migrations)
    (version : row.version = migration.version) :
    migrations.foldl (restamped sha384) row =
      restamped sha384 row migration := by
  induction migrations with
  | nil => cases member
  | cons first rest induction =>
      rw [List.map_cons, List.nodup_cons] at distinct
      rw [List.foldl_cons]
      rcases List.mem_cons.mp member with rfl | later
      · apply foldl_restamped_of_ne
        intro other inside same
        rw [version_restamped, version] at same
        exact distinct.1 (same ▸ List.mem_map_of_mem inside)
      · rw [restamped_of_ne, induction distinct.2 later]
        intro same
        apply distinct.1
        rw [← same, version]
        exact List.mem_map_of_mem later

structure Restamped (sha384 : String → Bytes) (migrator : Migrator)
    (before after : MigrationRow) : Prop where
  version : after.version = before.version
  changed : after.checksum ≠ before.checksum ↔
    ∃ migration ∈ migrator.rows, migration.version = before.version ∧
      (before.checksum = sha384 (lf migration.sql) ∨
        before.checksum = sha384 (crlf migration.sql)) ∧
      before.checksum ≠ migration.checksum
  embedded : after.checksum ≠ before.checksum →
    ∀ migration ∈ migrator.rows, migration.version = before.version →
      after.checksum = migration.checksum

private theorem restamped_checksum_ne_iff
    (version : row.version = migration.version) :
    (restamped sha384 row migration).checksum ≠ row.checksum ↔
      (row.checksum = sha384 (lf migration.sql) ∨
        row.checksum = sha384 (crlf migration.sql)) ∧
      row.checksum ≠ migration.checksum := by
  have listed : row.checksum ∈
      lineEndingVariantChecksums sha384 migration.sql ↔
        row.checksum = sha384 (lf migration.sql) ∨
          row.checksum = sha384 (crlf migration.sql) := by
    simp [lineEndingVariantChecksums]
  rw [← listed]
  unfold restamped
  split_ifs with variant
  · constructor
    · exact fun changed => ⟨variant.2, Ne.symm changed⟩
    · exact fun both => Ne.symm both.2
  · constructor
    · exact fun changed => absurd rfl changed
    · exact fun both => absurd ⟨version, both.1⟩ variant

private theorem restamped_row (migrator : Migrator) (row : MigrationRow) :
    Restamped sha384 migrator row
      (migrator.rows.foldl (restamped sha384) row) := by
  by_cases known : ∃ migration ∈ migrator.rows,
      migration.version = row.version
  · obtain ⟨migration, member, version⟩ := known
    have unique (other : Migration) (inside : other ∈ migrator.rows)
        (same : other.version = row.version) : other = migration :=
      List.inj_on_of_nodup_map migrator.unique inside member
        (same.trans version.symm)
    rw [foldl_restamped migrator.unique member version.symm]
    refine ⟨version_restamped, ?_, ?_⟩
    · rw [restamped_checksum_ne_iff version.symm]
      constructor
      · exact fun both => ⟨migration, member, version, both⟩
      · rintro ⟨other, inside, same, both⟩
        rwa [unique other inside same] at both
    · intro changed other inside same
      rw [unique other inside same]
      unfold restamped at changed ⊢
      split_ifs at changed ⊢ with variant
      · rfl
      · exact absurd rfl changed
  · have apart : ∀ migration ∈ migrator.rows,
        row.version ≠ migration.version :=
      fun migration member same => known ⟨migration, member, same.symm⟩
    rw [foldl_restamped_of_ne apart]
    refine ⟨rfl, ?_, fun changed => absurd rfl changed⟩
    constructor
    · exact fun changed => absurd rfl changed
    · rintro ⟨migration, member, same, _⟩
      exact absurd same.symm (apart migration member)

private theorem repair_repair (migrator : Migrator) (applied : Applied) :
    migrator.rows.foldl (repairOne sha384)
        (migrator.rows.foldl (repairOne sha384) applied) =
      migrator.rows.foldl (repairOne sha384) applied := by
  apply Keyed.eq_of_rows
  rw [rows_repair, rows_repair, List.map_map]
  refine List.map_congr_left fun row _ => ?_
  rw [Function.comp_apply]
  by_cases known : ∃ migration ∈ migrator.rows,
      migration.version = row.version
  · obtain ⟨migration, member, version⟩ := known
    rw [foldl_restamped migrator.unique member version.symm,
      foldl_restamped migrator.unique member
        (version_restamped.trans version.symm), restamped_restamped]
  · have apart : ∀ migration ∈ migrator.rows,
        row.version ≠ migration.version :=
      fun migration member same => known ⟨migration, member, same.symm⟩
    rw [foldl_restamped_of_ne apart, foldl_restamped_of_ne apart]

end Repair

section Variants

variable (sha384 : String → Bytes) {sql : String}

private theorem variants_lf (returned : Returned sql.toList) :
    lineEndingVariantChecksums sha384 (lf sql) =
      lineEndingVariantChecksums sha384 sql := by
  simp only [lineEndingVariantChecksums, lf, crlf, String.toList_ofList,
    toLf_toLf returned]

private theorem variants_crlf (sql : String) :
    lineEndingVariantChecksums sha384 (crlf sql) =
      lineEndingVariantChecksums sha384 sql := by
  simp only [lineEndingVariantChecksums, lf, crlf, String.toList_ofList,
    toLf_toCrlf]

private theorem mem_variants (returned : Returned sql.toList)
    (uniform : Uniform sql.toList) :
    sha384 sql ∈ lineEndingVariantChecksums sha384 sql := by
  rcases uniform with only | only
  · have same : lf sql = sql := by
      rw [lf, toLf_of_onlyLf returned only, String.ofList_toList]
    simp [lineEndingVariantChecksums, same]
  · have same : crlf sql = sql := by
      rw [crlf, toCrlf_of_onlyCrlf returned only, String.ofList_toList]
    simp [lineEndingVariantChecksums, same]

end Variants

/-- What the checksums and their repair promise, for every hash. -/
structure ChecksumRepair (sha384 : String → Bytes) : Prop where
  lfForm : ∀ sql, Returned sql.toList →
    lineEndingVariantChecksums sha384 (lf sql) =
      lineEndingVariantChecksums sha384 sql
  crlfForm : ∀ sql, Returned sql.toList →
    lineEndingVariantChecksums sha384 (crlf sql) =
      lineEndingVariantChecksums sha384 sql
  own : ∀ sql, Returned sql.toList → Uniform sql.toList →
    sha384 sql ∈ lineEndingVariantChecksums sha384 sql
  fresh : ∀ migrator, repairLineEndingChecksums sha384 migrator none = none
  rows : ∀ migrator applied, ∃ repaired,
    repairLineEndingChecksums sha384 migrator (some applied) =
        some repaired ∧
      List.Forall₂ (Restamped sha384 migrator) applied.rows repaired.rows
  again : ∀ migrator stored,
    repairLineEndingChecksums sha384 migrator
        (repairLineEndingChecksums sha384 migrator stored) =
      repairLineEndingChecksums sha384 migrator stored

theorem checksum_repair (sha384 : String → Bytes) :
    ChecksumRepair sha384 where
  lfForm := fun _ returned => variants_lf sha384 returned
  crlfForm := fun sql _ => variants_crlf sha384 sql
  own := fun _ => mem_variants sha384
  fresh := fun _ => rfl
  rows := by
    intro migrator applied
    refine ⟨_, rfl, ?_⟩
    rw [rows_repair, List.forall₂_map_right_iff, List.forall₂_same]
    exact fun row _ => restamped_row migrator row
  again := by
    intro migrator stored
    cases stored with
    | none => rfl
    | some applied => exact congrArg some (repair_repair migrator applied)

end Accord
