import Mathlib.Data.List.Basic
import Mathlib.Data.List.Infix
import Mathlib.Data.List.Nodup

namespace low_latency_voice.storage

/-- `Migration`. The script makes new tables of the old ones, at the time it runs, or fails on them. Its
own `CREATE TABLE IF NOT EXISTS schema_migrations` finds that table in place. -/
structure Migration (σ : Type) where
  version : Int
  up : (now : Int) → σ → Option σ

/-- A row of `schema_migrations`. -/
structure AppliedMigration where
  version : Int
  appliedAt : Int
  deriving DecidableEq, Repr

/-- What the database file holds: `schema_migrations`, once it is there, and the other tables. -/
structure Schema (σ : Type) where
  schemaMigrations : Option (List AppliedMigration)
  tables : σ

/-- The steps that `RunMigrations` takes for one migration. -/
inductive MigrationStep where
  | check
  | start
  | up
  | record
  | commit
  deriving DecidableEq, Repr

/-- The errors of `RunMigrations`, and the end of the process before it returns. -/
inductive MigrationError where
  | createTable
  | failed (step : MigrationStep) (version : Int)
  | killed
  deriving DecidableEq, Repr

/-- What goes wrong during one call, and what its clock shows. A process that dies at a step is one whose
step fails. -/
structure Faults where
  createTable : Bool
  fails : (version : Int) → MigrationStep → Bool
  killed : Bool
  now : (version : Int) → Int

variable {σ : Type}

/-- A file without any table that the migrations make. -/
def Schema.new (tables : σ) : Schema σ := ⟨none, tables⟩

/-- `CREATE TABLE IF NOT EXISTS schema_migrations`. -/
def Schema.createMigrationsTable (db : Schema σ) : Schema σ :=
  { db with schemaMigrations := some (db.schemaMigrations.getD []) }

/-- `SELECT COUNT(*) FROM schema_migrations WHERE version = ?`. -/
def Schema.countVersion (db : Schema σ) (version : Int) : Option Nat :=
  db.schemaMigrations.map fun rows => rows.countP fun row => row.version = version

/-- `tx.Exec(m.Up)`. -/
def Schema.execUp (db : Schema σ) (m : Migration σ) (now : Int) : Option (Schema σ) :=
  (m.up now db.tables).map fun tables => { db with tables }

/-- `INSERT INTO schema_migrations (version, applied_at)`. The version is the primary key. -/
def Schema.insertVersion (db : Schema σ) (version now : Int) : Option (Schema σ) :=
  db.schemaMigrations.bind fun rows =>
    if rows.any fun row => row.version = version then none
    else some { db with schemaMigrations := some (rows ++ [⟨version, now⟩]) }

/-- What a statement gives when it may fail on its own account. -/
def unlessFails {α : Type} (fails : Bool) (result : Option α) : Option α :=
  if fails then none else result

/-- The body of the loop. The transaction works on a copy that only a commit puts in the file's place; a
rollback drops it. -/
def runMigration (faults : Faults) (m : Migration σ) (db : Schema σ) :
    Schema σ × Option MigrationError :=
  match unlessFails (faults.fails m.version .check) (db.countVersion m.version) with
  | none => (db, some (.failed .check m.version))
  | some count =>
    if count > 0 then (db, none)
    else if faults.fails m.version .start then (db, some (.failed .start m.version))
    else
      match unlessFails (faults.fails m.version .up) (db.execUp m (faults.now m.version)) with
      | none => (db, some (.failed .up m.version))
      | some tx =>
        match unlessFails (faults.fails m.version .record)
            (tx.insertVersion m.version (faults.now m.version)) with
        | none => (db, some (.failed .record m.version))
        | some tx =>
          if faults.fails m.version .commit then (db, some (.failed .commit m.version))
          else (tx, none)

/-- The loop of `RunMigrations`, which the first error leaves. -/
def runEach (faults : Faults) : List (Migration σ) → Schema σ → Schema σ × Option MigrationError
  | [], db => (db, if faults.killed then some .killed else none)
  | m :: rest, db =>
    match runMigration faults m db with
    | (db, none) => runEach faults rest db
    | (db, some error) => (db, some error)

/-- `RunMigrations`. -/
def runMigrations (migrations : List (Migration σ)) (faults : Faults) (db : Schema σ) :
    Schema σ × Option MigrationError :=
  if faults.createTable then (db, some .createTable)
  else runEach faults migrations db.createMigrationsTable

/-- The file after calls made one at a time. -/
def afterCalls (migrations : List (Migration σ)) (calls : List Faults) (db : Schema σ) : Schema σ :=
  calls.foldl (fun db faults => (runMigrations migrations faults db).1) db

/-- The rows of `schema_migrations`, none where it is not there. -/
def Schema.rows (db : Schema σ) : List AppliedMigration := db.schemaMigrations.getD []

/-- The recorded versions. -/
def Schema.versions (db : Schema σ) : List Int := db.rows.map AppliedMigration.version

/-- The scripts of these migrations ran whole, once each and in this order, and made of the first tables
the second. -/
inductive Took : List (Migration σ) → σ → σ → Prop where
  | nil (tables : σ) : Took [] tables tables
  | concat {ms : List (Migration σ)} {m : Migration σ} {before between tables : σ} {now : Int} :
      Took ms before between → m.up now between = some tables → Took (ms ++ [m]) before tables

/-- From one file to another exactly these migrations took effect and were recorded. -/
structure Applies (ms : List (Migration σ)) (db db' : Schema σ) : Prop where
  stays : db.schemaMigrations ≠ none → db'.schemaMigrations ≠ none
  took : Took ms db.tables db'.tables
  recorded : ∃ added, db'.rows = db.rows ++ added ∧
    added.map AppliedMigration.version = ms.map Migration.version

theorem Took.append {ms ns : List (Migration σ)} {before between tables : σ}
    (hfirst : Took ms before between) (hsecond : Took ns between tables) :
    Took (ms ++ ns) before tables := by
  induction hsecond with
  | nil =>
    rw [List.append_nil]
    exact hfirst
  | concat _ hup ih =>
    rw [← List.append_assoc]
    exact .concat (ih hfirst) hup

theorem Applies.refl (db : Schema σ) : Applies [] db db :=
  ⟨id, .nil _, [], (List.append_nil _).symm, rfl⟩

theorem Applies.trans {ms ns : List (Migration σ)} {db db' db'' : Schema σ}
    (hfirst : Applies ms db db') (hsecond : Applies ns db' db'') : Applies (ms ++ ns) db db'' := by
  obtain ⟨added, hadded, hversions⟩ := hfirst.recorded
  obtain ⟨later, hlater, hlaterVersions⟩ := hsecond.recorded
  refine ⟨fun hthere => hsecond.stays (hfirst.stays hthere), hfirst.took.append hsecond.took,
    added ++ later, ?_, ?_⟩
  · rw [hlater, hadded, List.append_assoc]
  · rw [List.map_append, List.map_append, hversions, hlaterVersions]

theorem Applies.versions_eq {ms : List (Migration σ)} {db db' : Schema σ} (h : Applies ms db db') :
    db'.versions = db.versions ++ ms.map Migration.version := by
  obtain ⟨added, hadded, hversions⟩ := h.recorded
  unfold Schema.versions
  rw [hadded, List.map_append, hversions]

theorem Applies.mem_versions_iff {ms : List (Migration σ)} {db db' : Schema σ} (h : Applies ms db db')
    (version : Int) :
    version ∈ db'.versions ↔ version ∈ db.versions ∨ version ∈ ms.map Migration.version := by
  rw [h.versions_eq, List.mem_append]

theorem applies_createMigrationsTable (db : Schema σ) : Applies [] db db.createMigrationsTable :=
  ⟨fun _ => Option.some_ne_none _, .nil _, [], (List.append_nil _).symm, rfl⟩

/-- Where the table is there, its creation does nothing. -/
theorem createMigrationsTable_eq {db : Schema σ} (h : db.schemaMigrations ≠ none) :
    db.createMigrationsTable = db := by
  obtain ⟨rows, hrows⟩ := Option.ne_none_iff_exists'.mp h
  obtain ⟨schemaMigrations, tables⟩ := db
  subst hrows
  rfl

/-- The version query counts a recorded version, and only one. -/
theorem countVersion_pos_iff {db : Schema σ} {version : Int} {count : Nat}
    (h : db.countVersion version = some count) : 0 < count ↔ version ∈ db.versions := by
  obtain ⟨rows, hrows, rfl⟩ := Option.map_eq_some_iff.mp h
  simp [Schema.versions, Schema.rows, hrows, List.countP_pos_iff]

theorem applies_commit {db tx tx' : Schema σ} {m : Migration σ} {now : Int}
    (hup : db.execUp m now = some tx) (hrecord : tx.insertVersion m.version now = some tx') :
    Applies [m] db tx' := by
  obtain ⟨tables, htables, rfl⟩ := Option.map_eq_some_iff.mp hup
  obtain ⟨rows, hrows, hinsert⟩ := Option.bind_eq_some_iff.mp hrecord
  split at hinsert
  · cases hinsert
  · cases hinsert
    refine ⟨fun _ => Option.some_ne_none _, .concat (.nil _) htables, [⟨m.version, now⟩], ?_, rfl⟩
    change db.schemaMigrations = some rows at hrows
    simp [Schema.rows, hrows]

/-- What the body of the loop can do: fail and leave the file as it was, pass a recorded migration
over, or apply one that is not recorded. -/
theorem runMigration_cases (faults : Faults) (m : Migration σ) (db : Schema σ) :
    (∃ error, runMigration faults m db = (db, some error)) ∨
      (m.version ∈ db.versions ∧ runMigration faults m db = (db, none)) ∨
      (m.version ∉ db.versions ∧ ∃ db', runMigration faults m db = (db', none) ∧ Applies [m] db db') := by
  unfold runMigration unlessFails
  split
  · exact .inl ⟨_, rfl⟩
  · rename_i count hcount
    split at hcount
    · cases hcount
    · have hpos := countVersion_pos_iff hcount
      split
      · exact .inr (.inl ⟨hpos.mp ‹_›, rfl⟩)
      · have hnew : m.version ∉ db.versions := fun hmem => absurd (hpos.mpr hmem) ‹_›
        split
        · exact .inl ⟨_, rfl⟩
        · split
          · exact .inl ⟨_, rfl⟩
          · rename_i tx htx
            split at htx
            · cases htx
            · split
              · exact .inl ⟨_, rfl⟩
              · rename_i tx' htx'
                split at htx'
                · cases htx'
                · split
                  · exact .inl ⟨_, rfl⟩
                  · exact .inr (.inr ⟨hnew, tx', rfl, applies_commit htx htx'⟩)

/-- Recorded migrations are passed over, unless the loop stops among them. -/
theorem runEach_recorded (faults : Faults) {recorded : List (Migration σ)} (pending : List (Migration σ))
    {db : Schema σ} (h : ∀ m ∈ recorded, m.version ∈ db.versions) :
    (∃ error, runEach faults (recorded ++ pending) db = (db, some error)) ∨
      runEach faults (recorded ++ pending) db = runEach faults pending db := by
  induction recorded with
  | nil => exact .inr rfl
  | cons m recorded ih =>
    rw [List.cons_append, runEach]
    rcases runMigration_cases faults m db with ⟨error, herror⟩ | ⟨-, hskip⟩ | ⟨hnew, -⟩
    · exact .inl ⟨error, by rw [herror]⟩
    · rw [hskip]
      exact ih fun m hm => h m (List.mem_cons_of_mem _ hm)
    · exact absurd (h m List.mem_cons_self) hnew

/-- Of migrations that are not recorded the loop applies a first part, all of them if it goes through. -/
theorem runEach_pending (faults : Faults) {pending : List (Migration σ)} {db : Schema σ}
    (hnew : ∀ m ∈ pending, m.version ∉ db.versions)
    (hdistinct : (pending.map Migration.version).Nodup) :
    ∃ done rest, pending = done ++ rest ∧ Applies done db (runEach faults pending db).1 ∧
      ((runEach faults pending db).2 = none → rest = []) := by
  induction pending generalizing db with
  | nil => exact ⟨[], [], rfl, .refl db, fun _ => rfl⟩
  | cons m pending ih =>
    rw [List.map_cons, List.nodup_cons] at hdistinct
    rw [runEach]
    rcases runMigration_cases faults m db with ⟨error, herror⟩ | ⟨hmem, -⟩ | ⟨-, db', hdone, hm⟩
    · rw [herror]
      exact ⟨[], m :: pending, rfl, .refl db, fun h => by cases h⟩
    · exact absurd hmem (hnew m List.mem_cons_self)
    · rw [hdone]
      have hleft : ∀ m' ∈ pending, m'.version ∉ db'.versions := by
        intro m' hm' hmem
        rcases (hm.mem_versions_iff _).mp hmem with hold | hsame
        · exact hnew m' (List.mem_cons_of_mem _ hm') hold
        · rw [List.map_singleton, List.mem_singleton] at hsame
          apply hdistinct.1
          rw [← hsame]
          exact List.mem_map_of_mem hm'
      obtain ⟨done, rest, hsplit, happlies, hwhole⟩ := ih hleft hdistinct.2
      exact ⟨m :: done, rest, by rw [hsplit, List.cons_append], hm.trans happlies, hwhole⟩

section runs

variable {migrations : List (Migration σ)} {start : σ}

/-- A call on a file that a first part of the migrations has made applies some of those that follow. If
it succeeds it has applied them all. -/
theorem runMigrations_applies (hdistinct : (migrations.map Migration.version).Nodup) (faults : Faults)
    {applied pending : List (Migration σ)} {db : Schema σ} (hsplit : migrations = applied ++ pending)
    (h : Applies applied (.new start) db) :
    ∃ done rest, pending = done ++ rest ∧ Applies done db (runMigrations migrations faults db).1 ∧
      ((runMigrations migrations faults db).2 = none →
        rest = [] ∧ (runMigrations migrations faults db).1.schemaMigrations ≠ none) := by
  unfold runMigrations
  split
  · exact ⟨[], pending, rfl, .refl db, fun h => by cases h⟩
  · have hcreate := applies_createMigrationsTable db
    have hversions : db.createMigrationsTable.versions = applied.map Migration.version := by
      rw [hcreate.versions_eq, h.versions_eq]
      simp [Schema.new, Schema.versions, Schema.rows]
    have hrecorded : ∀ m ∈ applied, m.version ∈ db.createMigrationsTable.versions := by
      intro m hm
      rw [hversions]
      exact List.mem_map_of_mem hm
    rw [hsplit, List.map_append, List.nodup_append] at hdistinct
    rw [hsplit]
    rcases runEach_recorded faults pending hrecorded with ⟨error, herror⟩ | hskip
    · rw [herror]
      exact ⟨[], pending, rfl, hcreate, fun h => by cases h⟩
    · rw [hskip]
      have hnew : ∀ m ∈ pending, m.version ∉ db.createMigrationsTable.versions := by
        intro m hm hmem
        rw [hversions] at hmem
        exact hdistinct.2.2 _ hmem _ (List.mem_map_of_mem hm) rfl
      obtain ⟨done, rest, hpending, happlies, hwhole⟩ := runEach_pending faults hnew hdistinct.2.1
      refine ⟨done, rest, hpending, hcreate.trans happlies, fun hnone => ⟨hwhole hnone, ?_⟩⟩
      apply happlies.stays
      exact Option.some_ne_none _

/-- Where every migration is recorded a call leaves the file as it is. -/
theorem runMigrations_recorded {db : Schema σ} (hthere : db.schemaMigrations ≠ none)
    (h : ∀ m ∈ migrations, m.version ∈ db.versions) (faults : Faults) :
    (runMigrations migrations faults db).1 = db := by
  unfold runMigrations
  split
  · rfl
  · rw [createMigrationsTable_eq hthere]
    rcases runEach_recorded faults [] h with ⟨error, herror⟩ | hskip
    · rw [List.append_nil] at herror
      rw [herror]
    · rw [List.append_nil] at hskip
      rw [hskip]
      rfl

/-- Every call leaves a file that a first part of the migrations has made. -/
theorem applies_afterCalls (hdistinct : (migrations.map Migration.version).Nodup) (calls : List Faults)
    {applied pending : List (Migration σ)} {db : Schema σ} (hsplit : migrations = applied ++ pending)
    (h : Applies applied (.new start) db) :
    ∃ applied' pending', migrations = applied' ++ pending' ∧
      Applies applied' (.new start) (afterCalls migrations calls db) := by
  induction calls generalizing applied pending db with
  | nil => exact ⟨applied, pending, hsplit, h⟩
  | cons faults calls ih =>
    obtain ⟨done, rest, hpending, happlies, -⟩ := runMigrations_applies hdistinct faults hsplit h
    have hsplit' : migrations = (applied ++ done) ++ rest := by
      rw [hsplit, hpending, List.append_assoc]
    exact ih hsplit' (h.trans happlies)

/-- Migrations with distinct versions apply once, whole and in order. After any calls, whatever fails in
them, exactly the recorded migrations took effect, once each, and they come first in the list. A further
call, failed or not, changes nothing beyond the migrations it records, which are the next ones; one that
succeeds records all that were left, and no call after it changes anything. -/
theorem migrations_apply_once (hdistinct : (migrations.map Migration.version).Nodup) (start : σ)
    (calls : List Faults) :
    ∃ applied pending, migrations = applied ++ pending ∧
      Took applied start (afterCalls migrations calls (.new start)).tables ∧
      (afterCalls migrations calls (.new start)).versions = applied.map Migration.version ∧
      (afterCalls migrations calls (.new start)).versions.Nodup ∧
      (∀ m ∈ migrations,
        m ∈ applied ↔ m.version ∈ (afterCalls migrations calls (.new start)).versions) ∧
      ∀ faults, ∃ done rest, pending = done ++ rest ∧
        Applies done (afterCalls migrations calls (.new start))
          (runMigrations migrations faults (afterCalls migrations calls (.new start))).1 ∧
        ((runMigrations migrations faults (afterCalls migrations calls (.new start))).2 = none →
          rest = [] ∧ ∀ later, afterCalls migrations later
              (runMigrations migrations faults (afterCalls migrations calls (.new start))).1 =
            (runMigrations migrations faults (afterCalls migrations calls (.new start))).1) := by
  obtain ⟨applied, pending, hsplit, h⟩ :=
    applies_afterCalls hdistinct calls (List.nil_append migrations).symm (.refl (.new start))
  have hversions : (afterCalls migrations calls (.new start)).versions = applied.map Migration.version := by
    rw [h.versions_eq]
    rfl
  have hnodup := hdistinct
  rw [hsplit, List.map_append, List.nodup_append] at hnodup
  refine ⟨applied, pending, hsplit, h.took, hversions, by rw [hversions]; exact hnodup.1, ?_, ?_⟩
  · intro m hm
    rw [hversions]
    constructor
    · intro hmem
      exact List.mem_map_of_mem hmem
    · intro hmem
      rw [hsplit, List.mem_append] at hm
      rcases hm with hm | hm
      · exact hm
      · exact absurd rfl (hnodup.2.2 _ hmem _ (List.mem_map_of_mem hm))
  · intro faults
    obtain ⟨done, rest, hpending, happlies, hwhole⟩ := runMigrations_applies hdistinct faults hsplit h
    refine ⟨done, rest, hpending, happlies, fun hnone => ?_⟩
    obtain ⟨rfl, hthere⟩ := hwhole hnone
    refine ⟨rfl, fun later => ?_⟩
    have hall : ∀ m ∈ migrations, m.version ∈
        (runMigrations migrations faults (afterCalls migrations calls (.new start))).1.versions := by
      intro m hm
      rw [(h.trans happlies).mem_versions_iff]
      apply Or.inr
      rw [hsplit, hpending, List.append_nil] at hm
      exact List.mem_map_of_mem hm
    generalize (runMigrations migrations faults (afterCalls migrations calls (.new start))).1 = db
      at hthere hall
    induction later with
    | nil => rfl
    | cons faults' later ih =>
      rw [afterCalls, List.foldl_cons, runMigrations_recorded hthere hall faults']
      exact ih

/-- Two migrations that note that they ran. -/
def twoMigrations : List (Migration (List Int)) :=
  [⟨1, fun _ log => some (log ++ [1])⟩, ⟨2, fun _ log => some (log ++ [2])⟩]

/-- Only this commit fails. -/
def commitFails (version : Int) : Faults where
  createTable := false
  fails v step := v = version && step = .commit
  killed := false
  now _ := 0

theorem migrations_apply_once_commitFails :
    (afterCalls twoMigrations [commitFails 2] (.new [])).tables = [1] ∧
      (afterCalls twoMigrations [commitFails 2, commitFails 3] (.new [])).tables = [1, 2] ∧
      ∃ applied pending, twoMigrations = applied ++ pending ∧
        Took applied [] (afterCalls twoMigrations [commitFails 2] (.new [])).tables ∧
        (afterCalls twoMigrations [commitFails 2] (.new [])).versions =
          applied.map Migration.version := by
  obtain ⟨applied, pending, hsplit, htook, hversions, -⟩ :=
    migrations_apply_once (show (twoMigrations.map Migration.version).Nodup by decide) [] [commitFails 2]
  exact ⟨rfl, rfl, applied, pending, hsplit, htook, hversions⟩

end runs

end low_latency_voice.storage
