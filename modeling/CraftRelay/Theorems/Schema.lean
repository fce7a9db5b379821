import CraftRelay.Journal.Schema

/-!
# Schema upgrades

An upgrade may be cut off between any two of its statements, any number of times: the next
open that is not brings the file to version 2 with all its rows. A file of a version that
is not known is left alone.
-/

namespace CraftRelay

/-! ## Where an upgrade starts -/

/-- A file whose stored version is 1. -/
def JournalFile.AtVersion1 (file : JournalFile) : Prop :=
  ∃ v, file.version = some v ∧ parseI64 v = some 1

/-- A file whose stored version is 2, with the tables of version 2. -/
structure JournalFile.AtVersion2 (file : JournalFile) : Prop where
  version : ∃ v, file.version = some v ∧ parseI64 v = some 2
  tables : ∀ t, (file.table t).isSome

/-- A file whose stored version is above 2 or no integer. -/
def JournalFile.Unknown (file : JournalFile) : Prop :=
  ∃ v, file.version = some v ∧ ∀ ver, parseI64 v = some ver → schemaVersion < ver

/-- An open that was cut off after some of its statements, which may have failed. -/
def CutOff (file file' : JournalFile) : Prop :=
  ∃ tr p, Prog.Run SchemaStep initSchema file tr p file'

theorem JournalFile.openable_empty : JournalFile.empty.Openable := ⟨nofun, nofun⟩

theorem JournalFile.AtVersion1.openable {file : JournalFile} (h : file.AtVersion1) :
    file.Openable := by
  obtain ⟨v, hv, hparse⟩ := h
  constructor
  · intro v' hv'
    obtain rfl : v = v' := Option.some.inj (hv.symm.trans hv')
    exact ⟨1, hparse, by decide⟩
  · intro v' hv' htwo
    obtain rfl : v = v' := Option.some.inj (hv.symm.trans hv')
    rw [hparse] at htwo
    cases htwo

theorem JournalFile.AtVersion2.openable {file : JournalFile} (h : file.AtVersion2) :
    file.Openable := by
  obtain ⟨v, hv, hparse⟩ := h.version
  constructor
  · intro v' hv'
    obtain rfl : v = v' := Option.some.inj (hv.symm.trans hv')
    exact ⟨2, hparse, by decide⟩
  · exact fun _ _ _ => h.tables

/-! ## Interruptions -/

/-- What is left after an interruption can be opened again and has every row. -/
theorem CutOff.upgrading {file file' : JournalFile} (h : CutOff file file')
    (hopen : file.Openable) : Upgrading file file' := by
  obtain ⟨tr, p, hrun⟩ := h
  have hsafe := (sound_initSchema ⟨.refl file, hopen⟩).run (fun _ => rfl) hrun
  cases p with
  | done r => exact (hsafe.done rfl).upgrading
  | op e k => exact (hsafe.op rfl).1

theorem upgrading_of_cutOffs {file file' : JournalFile}
    (h : Relation.ReflTransGen CutOff file file') (hopen : file.Openable) :
    Upgrading file file' := by
  induction h with
  | refl => exact ⟨.refl file, hopen⟩
  | tail _ hcut ih =>
      have hnext := hcut.upgrading ih.openable
      exact ⟨ih.keeps.trans hnext.keeps, hnext.openable⟩

/-- An open that nothing cuts off upgrades what can be opened. -/
theorem JournalFile.Openable.init_upgrades {file : JournalFile} (h : file.Openable) :
    ∃ file', file.init = (.ok (), file') ∧ file.Keeps file' ∧ file'.Upgraded := by
  obtain ⟨tr, hrun⟩ := file.init_run
  have hends := ((sound_initSchema ⟨.refl file, h⟩).run (fun _ => rfl) hrun).done rfl
  refine ⟨file.init.2, ?_, hends.upgrading.keeps, hends.upgraded h.init_ok⟩
  rw [← h.init_ok]

/-! ## Versions that are not known -/

theorem JournalFile.createTable_of_isSome {file : JournalFile} {t : JournalTable}
    (h : (file.table t).isSome) : file.createTable t = file := by
  obtain ⟨rows, hrows⟩ := Option.isSome_iff_exists.mp h
  unfold JournalFile.createTable
  rw [hrows, Option.getD_some, ← hrows, Function.update_eq_self]

theorem JournalFile.Unknown.checkVersion {file : JournalFile} (h : file.Unknown) :
    ∃ e, checkVersion file.version = .error e := by
  obtain ⟨v, hv, hunknown⟩ := h
  unfold CraftRelay.checkVersion
  cases hparse : parseI64 v with
  | none => simp [hv, hparse]
  | some ver => simp [hv, hparse, hunknown ver hparse]

/-- A file of an unknown version is not touched, and not opened. -/
theorem JournalFile.Unknown.sound {file : JournalFile} (h : file.Unknown) :
    initSchema.Safe Eq SchemaStep (fun file' _ => file' = file)
      (fun file' r => file' = file ∧ ∃ e, r = .error e) file := by
  have hmeta : (file.table .journalMeta).isSome := by
    obtain ⟨v, hv, -⟩ := h
    cases hrows : file.table .journalMeta with
    | none => simp [JournalFile.version, hrows] at hv
    | some rows => rfl
  have hcreate : (SchemaStatement.createTable .journalMeta).perform file = (.ok (), file) := by
    simp only [SchemaStatement.perform, JournalFile.createTable_of_isSome hmeta]
  have hselect : SchemaStatement.selectVersion.perform file = (.ok file.version, file) := by
    obtain ⟨rows, hrows⟩ := Option.isSome_iff_exists.mp hmeta
    simp only [SchemaStatement.perform, JournalFile.version, hrows, Option.bind_some]
  obtain ⟨e, hcheck⟩ := h.checkVersion
  rintro _ rfl
  refine ⟨rfl, fun r file' hstep => ?_⟩
  cases hstep with
  | failed e =>
      rintro _ rfl
      exact ⟨rfl, e, rfl⟩
  | performed =>
      rw [hcreate]
      rintro _ rfl
      refine ⟨rfl, fun r file' hstep => ?_⟩
      cases hstep with
      | failed e =>
          rintro _ rfl
          exact ⟨rfl, e, rfl⟩
      | performed =>
          rw [hselect]
          simp only [hcheck]
          rintro _ rfl
          exact ⟨rfl, e, rfl⟩

/-- However often opens were cut off, the next one that is not brings an empty file or one of
version 1 or 2 to version 2, with every table and every row it had at first. A file of an
unknown version is refused, and at no point changed. -/
theorem schema_upgrade_crash_safe :
    (∀ file file₁ : JournalFile, file = .empty ∨ file.AtVersion1 ∨ file.AtVersion2 →
        Relation.ReflTransGen CutOff file file₁ →
        ∃ file₂, file₁.init = (.ok (), file₂) ∧ file₂.version = some "2" ∧
          (∀ t, (file₂.table t).isSome) ∧ file.Keeps file₂) ∧
      ∀ file : JournalFile, file.Unknown →
        (∃ e, file.init = (.error e, file)) ∧
          ∀ tr p file', Prog.Run SchemaStep initSchema file tr p file' →
            file' = file ∧ ∀ r, p = .done r → ∃ e, r = .error e := by
  constructor
  · intro file file₁ hstart hcuts
    have hopen : file.Openable := by
      rcases hstart with rfl | h | h
      · exact JournalFile.openable_empty
      · exact h.openable
      · exact h.openable
    have hcut := upgrading_of_cutOffs hcuts hopen
    obtain ⟨file₂, hinit, hkeeps, hupgraded⟩ := hcut.openable.init_upgrades
    exact ⟨file₂, hinit, hupgraded.version, hupgraded.tables, hcut.keeps.trans hkeeps⟩
  · intro file hunknown
    constructor
    · obtain ⟨tr, hrun⟩ := file.init_run
      obtain ⟨hsame, e, he⟩ := (hunknown.sound.run (fun _ => rfl) hrun).done rfl
      exact ⟨e, Prod.ext he hsame⟩
    · intro tr p file' hrun
      have hsafe := hunknown.sound.run (fun _ => rfl) hrun
      cases p with
      | done r =>
          obtain ⟨hsame, herror⟩ := hsafe.done rfl
          refine ⟨hsame, fun r' hr => ?_⟩
          cases hr
          exact herror
      | op e k => exact ⟨(hsafe.op rfl).1, nofun⟩

/-- A new file is opened as an empty journal. -/
theorem init_empty : ∃ file, JournalFile.empty.init = (.ok (), file) ∧
    ∀ config, (file.db?).map (⟨config, ·, false⟩) = some (LocalJournal.open config) :=
  ⟨_, rfl, fun _ => rfl⟩

end CraftRelay
