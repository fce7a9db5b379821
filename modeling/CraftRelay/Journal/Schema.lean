import Mathlib.Logic.Function.Basic
import Mathlib.Logic.Relation
import CraftRelay.Lib.Interactive
import CraftRelay.Journal.Calls

/-!
# Opening a database file

`init_schema` brings the tables of a file to version 2: a series of statements, each of
which commits by itself, with a version that is read after the first and written by the
last. A file is the tables it has. Tables that exist are left alone by `CREATE TABLE IF
NOT EXISTS`; the PRAGMAs touch no table and are left out.
-/

namespace CraftRelay

/-- `journal_meta`. -/
structure JournalMeta where
  key : String
  value : String
  deriving DecidableEq

inductive JournalTable where
  | journalMeta | storedEnvelope | payloadBlob | lifecycleState | dedupFingerprint
  | producerSequence | streamHead | writeAttempt | deliveryState | deliveryAttempt
  deriving DecidableEq

abbrev JournalTable.Rows : JournalTable → Type
  | .journalMeta => KeyedTable JournalMeta.key
  | .storedEnvelope => KeyedTable StoredEnvelope.eventId
  | .payloadBlob => KeyedTable PayloadBlob.eventId
  | .lifecycleState => KeyedTable LifecycleState.eventId
  | .dedupFingerprint => KeyedTable DedupFingerprint.eventId
  | .producerSequence => KeyedTable ProducerSequence.producerKey
  | .streamHead => KeyedTable StreamHead.streamKey
  | .writeAttempt => AutoLog WriteAttempt
  | .deliveryState => KeyedTable DeliveryState.eventId
  | .deliveryAttempt => AutoLog DeliveryAttemptRecord

/-- A table that was just created. -/
def JournalTable.created : (t : JournalTable) → t.Rows
  | .journalMeta => KeyedTable.empty
  | .storedEnvelope => KeyedTable.empty
  | .payloadBlob => KeyedTable.empty
  | .lifecycleState => KeyedTable.empty
  | .dedupFingerprint => KeyedTable.empty
  | .producerSequence => KeyedTable.empty
  | .streamHead => KeyedTable.empty
  | .writeAttempt => AutoLog.empty
  | .deliveryState => KeyedTable.empty
  | .deliveryAttempt => AutoLog.empty

/-- The tables a database file has. -/
structure JournalFile where
  table : (t : JournalTable) → Option t.Rows

namespace JournalFile

/-- A new file. -/
def empty : JournalFile := ⟨fun _ => none⟩

/-- `CREATE TABLE IF NOT EXISTS`. -/
def createTable (file : JournalFile) (t : JournalTable) : JournalFile :=
  ⟨Function.update file.table t (some ((file.table t).getD t.created))⟩

/-- The file with other rows in `journal_meta`. -/
def withMeta (file : JournalFile) (rows : KeyedTable JournalMeta.key) : JournalFile :=
  ⟨Function.update file.table .journalMeta (some rows)⟩

/-- The value `journal_meta` has for `schema_version`. -/
def version (file : JournalFile) : Option String :=
  (file.table .journalMeta).bind fun rows => (rows.find? "schema_version").map JournalMeta.value

/-- What the methods of an open journal work on. -/
def db? (file : JournalFile) : Option Db := do
  let storedEnvelope ← file.table .storedEnvelope
  let payloadBlob ← file.table .payloadBlob
  let lifecycleState ← file.table .lifecycleState
  let dedupFingerprint ← file.table .dedupFingerprint
  let producerSequence ← file.table .producerSequence
  let streamHead ← file.table .streamHead
  let writeAttempt ← file.table .writeAttempt
  let deliveryState ← file.table .deliveryState
  let deliveryAttempt ← file.table .deliveryAttempt
  some ⟨storedEnvelope, payloadBlob, lifecycleState, dedupFingerprint, producerSequence,
    streamHead, writeAttempt, deliveryState, deliveryAttempt⟩

end JournalFile

/-! ## Statements -/

/-- A statement of `init_schema`. -/
inductive SchemaStatement where
  | createTable (t : JournalTable)
  | selectVersion
  | replaceVersion (value : String)

/-- What a statement that succeeds returns. -/
abbrev SchemaStatement.Value : SchemaStatement → Type
  | .createTable _ => Unit
  | .selectVersion => Option String
  | .replaceVersion _ => Unit

abbrev SchemaStatement.Reply (s : SchemaStatement) : Type := Except String s.Value

/-- Run one statement, where nothing but a missing table is in its way. -/
def SchemaStatement.perform (file : JournalFile) : (s : SchemaStatement) → s.Reply × JournalFile
  | .createTable t => (.ok (), file.createTable t)
  | .selectVersion =>
    match file.table .journalMeta with
    | none => (.error "no such table: journal_meta", file)
    | some rows => (.ok ((rows.find? "schema_version").map JournalMeta.value), file)
  | .replaceVersion value =>
    match file.table .journalMeta with
    | none => (.error "no such table: journal_meta", file)
    | some rows => (.ok (), file.withMeta (rows.upsert ⟨"schema_version", value⟩))

/-- A statement is run, or fails and leaves the file alone. -/
inductive SchemaStep (file : JournalFile) : (s : SchemaStatement) → s.Reply → JournalFile → Prop
  | performed (s : SchemaStatement) : SchemaStep file s (s.perform file).1 (s.perform file).2
  | failed (s : SchemaStatement) (message : String) : SchemaStep file s (.error message) file

/-! ## The upgrade -/

/-- The value of a run of decimal digits. -/
def digits? (ds : List Char) : Option Nat :=
  if ds ≠ [] ∧ ds.all Char.isDigit = true then
    some (ds.foldl (fun n c => 10 * n + (c.toNat - '0'.toNat)) 0)
  else none

/-- `str::parse::<i64>`. -/
def parseI64 (s : String) : Option Int :=
  let parsed : Option Int :=
    match s.toList with
    | '-' :: ds => (digits? ds).map fun n => -(n : Int)
    | '+' :: ds => (digits? ds).map fun n => (n : Int)
    | ds => (digits? ds).map fun n => (n : Int)
  parsed.filter fun n => InI64 n

/-- `SCHEMA_VERSION`. -/
def schemaVersion : Int := 2

/-- The tables of `META_TABLE_SQL`. -/
def metaTableSql : List JournalTable := [.journalMeta]

/-- The tables of `SCHEMA_SQL`. -/
def schemaSql : List JournalTable :=
  [.storedEnvelope, .payloadBlob, .lifecycleState, .dedupFingerprint, .producerSequence,
    .streamHead, .writeAttempt]

/-- The tables of `SCHEMA_V2_SQL`. -/
def schemaV2Sql : List JournalTable := [.deliveryState, .deliveryAttempt]

abbrev SchemaProg := Prog SchemaStatement SchemaStatement.Reply (Except String Unit)

/-- `execute_batch` stops at the first statement that fails. -/
def executeBatch (next : SchemaProg) : List JournalTable → SchemaProg
  | [] => next
  | t :: ts => .op (.createTable t) fun
    | .error e => .done (.error e)
    | .ok () => executeBatch next ts

/-- The check of the stored version. -/
def checkVersion (existing : Option String) : Except String Unit :=
  match existing with
  | none => .ok ()
  | some v =>
    match parseI64 v with
    | none => .error "corrupt schema version"
    | some ver =>
      if ver > schemaVersion then
        .error ("unknown future schema version " ++ toString ver ++ ", max supported is " ++
          toString schemaVersion)
      else .ok ()

def existingVer (existing : Option String) : Int := (existing.bind parseI64).getD 0

/-- The last statement of `init_schema`. -/
def writeVersion : SchemaProg :=
  .op (.replaceVersion (toString schemaVersion)) fun
    | .error e => .done (.error e)
    | .ok () => .done (.ok ())

/-- The tables, once the version is known. -/
def createTables (existing : Option String) : SchemaProg :=
  executeBatch
    (if existingVer existing < 2 then executeBatch writeVersion schemaV2Sql else writeVersion)
    schemaSql

def initSchema : SchemaProg :=
  executeBatch
    (.op .selectVersion fun
      | .error e => .done (.error e)
      | .ok existing =>
        match checkVersion existing with
        | .error e => .done (.error e)
        | .ok () => createTables existing)
    metaTableSql

/-- Open a file, with nothing in the way. -/
def JournalFile.init (file : JournalFile) : Except String Unit × JournalFile :=
  initSchema.exec SchemaStatement.perform file

/-- That is one of its runs. -/
theorem JournalFile.init_run (file : JournalFile) :
    ∃ tr, Prog.Run SchemaStep initSchema file tr (.done file.init.1) file.init.2 :=
  Prog.exec_run (fun _ s => .performed s) initSchema file

/-! ## What statements do to a file -/

namespace JournalFile

variable {file file' file'' : JournalFile} {t t' : JournalTable}

theorem table_createTable_self (file : JournalFile) (t : JournalTable) :
    (file.createTable t).table t = some ((file.table t).getD t.created) :=
  Function.update_self ..

theorem table_createTable_of_ne (h : t' ≠ t) : (file.createTable t).table t' = file.table t' :=
  Function.update_of_ne h ..

/-- A table that exists is left alone. -/
theorem table_createTable_of_some {rows : t'.Rows} (h : file.table t' = some rows) :
    (file.createTable t).table t' = some rows := by
  by_cases ht : t' = t
  · subst ht
    rw [table_createTable_self, h]
    rfl
  · rw [table_createTable_of_ne ht, h]

theorem version_createTable (file : JournalFile) (t : JournalTable) :
    (file.createTable t).version = file.version := by
  unfold version
  by_cases ht : JournalTable.journalMeta = t
  · subst ht
    rw [table_createTable_self]
    cases file.table .journalMeta with
    | none => rfl
    | some rows => rfl
  · rw [table_createTable_of_ne ht]

/-- The same version, and no table less. -/
structure Grows (file file' : JournalFile) : Prop where
  version : file'.version = file.version
  tables : ∀ t, (file.table t).isSome → (file'.table t).isSome

theorem Grows.refl (file : JournalFile) : file.Grows file := ⟨rfl, fun _ h => h⟩

theorem Grows.trans (h : file.Grows file') (h' : file'.Grows file'') : file.Grows file'' :=
  ⟨h'.version.trans h.version, fun t ht => h'.tables t (h.tables t ht)⟩

theorem grows_createTable (file : JournalFile) (t : JournalTable) :
    file.Grows (file.createTable t) := by
  refine ⟨version_createTable file t, fun t' ht' => ?_⟩
  obtain ⟨rows, hrows⟩ := Option.isSome_iff_exists.mp ht'
  rw [table_createTable_of_some hrows]
  rfl

/-- Every row is there as it was, the one of the version aside. -/
structure Keeps (file file' : JournalFile) : Prop where
  tables : ∀ t, t ≠ .journalMeta → ∀ rows, file.table t = some rows → file'.table t = some rows
  entries : ∀ rows, file.table .journalMeta = some rows →
    ∃ rows', file'.table .journalMeta = some rows' ∧
      ∀ k, k ≠ "schema_version" → rows'.find? k = rows.find? k

theorem Keeps.refl (file : JournalFile) : file.Keeps file :=
  ⟨fun _ _ _ h => h, fun rows h => ⟨rows, h, fun _ _ => rfl⟩⟩

theorem Keeps.trans (h : file.Keeps file') (h' : file'.Keeps file'') : file.Keeps file'' := by
  refine ⟨fun t ht rows hrows => h'.tables t ht rows (h.tables t ht rows hrows), ?_⟩
  intro rows hrows
  obtain ⟨rows', hrows', hsame⟩ := h.entries rows hrows
  obtain ⟨rows'', hrows'', hsame'⟩ := h'.entries rows' hrows'
  exact ⟨rows'', hrows'', fun k hk => (hsame' k hk).trans (hsame k hk)⟩

theorem keeps_createTable (file : JournalFile) (t : JournalTable) :
    file.Keeps (file.createTable t) :=
  ⟨fun _ _ _ hrows => table_createTable_of_some hrows,
    fun rows hrows => ⟨rows, table_createTable_of_some hrows, fun _ _ => rfl⟩⟩

/-- A file with no version above the supported one, and with every table when its version
is the supported one. -/
structure Openable (file : JournalFile) : Prop where
  version : ∀ v, file.version = some v → ∃ ver, parseI64 v = some ver ∧ ver ≤ schemaVersion
  complete : ∀ v, file.version = some v → parseI64 v = some schemaVersion →
    ∀ t, (file.table t).isSome

theorem Openable.of_grows (h : file.Openable) (hgrows : file.Grows file') : file'.Openable := by
  constructor
  · rw [hgrows.version]
    exact h.version
  · intro v hv hver t
    rw [hgrows.version] at hv
    exact hgrows.tables t (h.complete v hv hver t)

theorem Openable.checkVersion (h : file.Openable) : checkVersion file.version = .ok () := by
  unfold CraftRelay.checkVersion
  cases hv : file.version with
  | none => rfl
  | some v =>
      obtain ⟨ver, hver, hle⟩ := h.version v hv
      simp only [hver]
      exact if_neg (Int.not_lt.mpr hle)

/-- Version 2, written by the upgrade, with every table. -/
structure Upgraded (file : JournalFile) : Prop where
  version : file.version = some (toString schemaVersion)
  tables : ∀ t, (file.table t).isSome

theorem Upgraded.openable (h : file.Upgraded) : file.Openable := by
  have hparse : parseI64 (toString schemaVersion) = some schemaVersion := by decide
  constructor
  · intro v hv
    rw [h.version] at hv
    cases hv
    exact ⟨schemaVersion, hparse, Int.le_refl _⟩
  · exact fun _ _ _ => h.tables

theorem table_withMeta_self (file : JournalFile) (rows : KeyedTable JournalMeta.key) :
    (file.withMeta rows).table .journalMeta = some rows := by
  unfold withMeta
  simp only [Function.update_self]

theorem table_withMeta_of_ne (h : t ≠ .journalMeta) (rows : KeyedTable JournalMeta.key) :
    (file.withMeta rows).table t = file.table t :=
  Function.update_of_ne h ..

/-- The last statement. -/
theorem upgraded_replaceVersion (h : ∀ t, (file.table t).isSome) :
    ∃ file', (SchemaStatement.replaceVersion (toString schemaVersion)).perform file =
        (.ok (), file') ∧ file.Keeps file' ∧ file'.Upgraded := by
  obtain ⟨rows, hrows⟩ := Option.isSome_iff_exists.mp (h .journalMeta)
  refine ⟨file.withMeta (rows.upsert ⟨"schema_version", toString schemaVersion⟩), ?_, ⟨?_, ?_⟩,
    ⟨?_, ?_⟩⟩
  · simp only [SchemaStatement.perform, hrows]
  · intro t ht rows' hrows'
    rw [← hrows', table_withMeta_of_ne ht]
  · intro rows' hrows'
    obtain rfl : rows = rows' := Option.some.inj (hrows.symm.trans hrows')
    refine ⟨_, table_withMeta_self .., fun k hk => ?_⟩
    rw [KeyedTable.find?_upsert]
    exact if_neg (Ne.symm hk)
  · unfold version
    rw [table_withMeta_self, Option.bind_some, KeyedTable.find?_upsert]
    rfl
  · intro t
    by_cases ht : t = .journalMeta
    · subst ht
      rw [table_withMeta_self]
      rfl
    · rw [table_withMeta_of_ne ht]
      exact h t

end JournalFile

/-! ## Every point of the upgrade -/

/-- A file an upgrade of `file₀` can be at. -/
structure Upgrading (file₀ file : JournalFile) : Prop where
  keeps : file₀.Keeps file
  openable : file.Openable

/-- The file `file₀` is upgraded, or not yet and the open failed. -/
structure UpgradeEnds (file₀ file : JournalFile) (result : Except String Unit) : Prop where
  upgrading : Upgrading file₀ file
  upgraded : result = .ok () → file.Upgraded

/-- The upgrade of `file₀` may be cut off at any point. -/
abbrev SchemaProg.Sound (p : SchemaProg) (file₀ file : JournalFile) : Prop :=
  p.Safe Eq SchemaStep (fun file _ => Upgrading file₀ file) (UpgradeEnds file₀) file

section

variable {file₀ file : JournalFile}

theorem sound_failed (h : Upgrading file₀ file) (e : String) :
    SchemaProg.Sound (.done (.error e)) file₀ file := by
  rintro _ rfl
  exact ⟨h, nofun⟩

theorem Upgrading.createTable (h : Upgrading file₀ file) (t : JournalTable) :
    Upgrading file₀ (file.createTable t) :=
  ⟨h.keeps.trans (JournalFile.keeps_createTable file t),
    h.openable.of_grows (JournalFile.grows_createTable file t)⟩

/-- After a batch its tables are there. -/
theorem sound_executeBatch {next : SchemaProg} {tables : List JournalTable}
    (h : Upgrading file₀ file)
    (hnext : ∀ file', Upgrading file₀ file' → file.Grows file' →
      (∀ t ∈ tables, (file'.table t).isSome) → next.Sound file₀ file') :
    (executeBatch next tables).Sound file₀ file := by
  induction tables generalizing file with
  | nil => exact hnext file h (.refl file) (by simp)
  | cons t ts ih =>
      rintro _ rfl
      refine ⟨h, fun r file' hstep => ?_⟩
      cases hstep with
      | failed e => exact sound_failed h e
      | performed =>
          have hgrows := JournalFile.grows_createTable file t
          refine ih (h.createTable t) fun file' h' hgrows' htables => ?_
          refine hnext file' h' (hgrows.trans hgrows') fun t' ht' => ?_
          rcases List.mem_cons.mp ht' with rfl | ht'
          · have hcreated := JournalFile.table_createTable_self file t'
            exact hgrows'.tables t' (Option.isSome_of_mem hcreated)
          · exact htables t' ht'

theorem sound_writeVersion (h : Upgrading file₀ file) (hall : ∀ t, (file.table t).isSome) :
    writeVersion.Sound file₀ file := by
  rintro _ rfl
  refine ⟨h, fun r file' hstep => ?_⟩
  cases hstep with
  | failed e => exact sound_failed h e
  | performed =>
      obtain ⟨file', hperform, hkeeps, hupgraded⟩ := JournalFile.upgraded_replaceVersion hall
      rw [hperform]
      rintro _ rfl
      exact ⟨⟨h.keeps.trans hkeeps, hupgraded.openable⟩, fun _ => hupgraded⟩

/-- The tables of the three batches are all there are. -/
theorem mem_batches (t : JournalTable) : t ∈ metaTableSql ∨ t ∈ schemaSql ∨ t ∈ schemaV2Sql := by
  cases t <;> decide

/-- A file that is not below version 2 has the tables of version 2 already. -/
theorem sound_createTables (h : Upgrading file₀ file)
    (hmeta : ∀ t ∈ metaTableSql, (file.table t).isSome) :
    (createTables file.version).Sound file₀ file := by
  refine sound_executeBatch h fun file' h' hgrows htables => ?_
  have hmeta' : ∀ t ∈ metaTableSql, (file'.table t).isSome := fun t ht =>
    hgrows.tables t (hmeta t ht)
  by_cases hver : existingVer file.version < 2
  · rw [if_pos hver]
    refine sound_executeBatch h' fun file'' h'' hgrows' htables' => ?_
    refine sound_writeVersion h'' fun t => ?_
    rcases mem_batches t with ht | ht | ht
    · exact hgrows'.tables t (hmeta' t ht)
    · exact hgrows'.tables t (htables t ht)
    · exact htables' t ht
  · rw [if_neg hver]
    refine sound_writeVersion h' fun t => ?_
    cases hv : file.version with
    | none => simp [hv, existingVer] at hver
    | some v =>
        obtain ⟨ver, hparse, hle⟩ := h.openable.version v hv
        have htwo : ver = schemaVersion := by
          simp only [hv, existingVer, Option.bind_some, hparse, Option.getD_some] at hver
          unfold schemaVersion at hle ⊢
          omega
        rw [htwo] at hparse
        exact hgrows.tables t (h.openable.complete v hv hparse t)

theorem sound_initSchema (h : Upgrading file₀ file) : initSchema.Sound file₀ file := by
  refine sound_executeBatch h fun file' h' _ htables => ?_
  rintro _ rfl
  refine ⟨h', fun r file'' hstep => ?_⟩
  cases hstep with
  | failed e => exact sound_failed h' e
  | performed =>
      obtain ⟨rows, hrows⟩ := Option.isSome_iff_exists.mp (htables .journalMeta (by decide))
      have hselect : SchemaStatement.selectVersion.perform file' = (.ok file'.version, file') := by
        simp only [SchemaStatement.perform, JournalFile.version, hrows, Option.bind_some]
      rw [hselect]
      show SchemaProg.Sound (match checkVersion file'.version with
        | .error e => .done (.error e)
        | .ok () => createTables file'.version) file₀ file'
      rw [h'.openable.checkVersion]
      exact sound_createTables h' htables

end

/-! ## An open that nothing cuts off -/

/-- A batch creates its tables and goes on. -/
theorem exec_executeBatch (next : SchemaProg) (tables : List JournalTable) (file : JournalFile) :
    (executeBatch next tables).exec SchemaStatement.perform file =
      next.exec SchemaStatement.perform (tables.foldl JournalFile.createTable file) := by
  induction tables generalizing file with
  | nil => rfl
  | cons t ts ih => exact ih (file.createTable t)

theorem grows_foldl_createTable (tables : List JournalTable) (file : JournalFile) :
    file.Grows (tables.foldl JournalFile.createTable file) := by
  induction tables generalizing file with
  | nil => exact .refl file
  | cons t ts ih => exact (JournalFile.grows_createTable file t).trans (ih _)

theorem exec_writeVersion {file : JournalFile} (h : (file.table .journalMeta).isSome) :
    (writeVersion.exec SchemaStatement.perform file).1 = .ok () := by
  obtain ⟨rows, hrows⟩ := Option.isSome_iff_exists.mp h
  simp [writeVersion, Prog.exec, SchemaStatement.perform, hrows]

theorem exec_createTables {file : JournalFile} (h : (file.table .journalMeta).isSome)
    (existing : Option String) :
    ((createTables existing).exec SchemaStatement.perform file).1 = .ok () := by
  have hgrown := (grows_foldl_createTable schemaSql file).tables .journalMeta h
  unfold createTables
  rw [exec_executeBatch]
  split
  · rw [exec_executeBatch]
    exact exec_writeVersion ((grows_foldl_createTable schemaV2Sql _).tables .journalMeta hgrown)
  · exact exec_writeVersion hgrown

/-- A file that can be opened is opened. -/
theorem JournalFile.Openable.init_ok {file : JournalFile} (h : file.Openable) :
    file.init.1 = .ok () := by
  have hversion := JournalFile.version_createTable file .journalMeta
  have hrows := JournalFile.table_createTable_self file .journalMeta
  have hselect : SchemaStatement.selectVersion.perform (file.createTable .journalMeta) =
      (.ok file.version, file.createTable .journalMeta) := by
    rw [← hversion]
    simp only [SchemaStatement.perform, JournalFile.version, hrows, Option.bind_some]
  have hmeta : ((file.createTable .journalMeta).table .journalMeta).isSome := by
    rw [hrows]
    rfl
  unfold JournalFile.init initSchema
  rw [exec_executeBatch]
  simp only [metaTableSql, List.foldl_cons, List.foldl_nil, Prog.exec, hselect, h.checkVersion]
  exact exec_createTables hmeta file.version

end CraftRelay
