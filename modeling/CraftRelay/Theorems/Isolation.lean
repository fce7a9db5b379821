import CraftRelay.Journal.Isolation
import CraftRelay.Journal.Progress

/-!
# Events do not disturb one another

What the clients of a stored event are answered is decided by the calls that name it.
The calls that name other events, the scans and the lookups by sequence number can be
left out of a run, or replaced by any others, and no answer about the event changes.
-/

namespace CraftRelay

/-- What a client decides of a call, and what the call meets. -/
def JournalEvent.input (ev : JournalEvent) : CallEnv × JournalCall := (ev.env, ev.call)

/-- The calls of a trace that concern event `e`. -/
def concerning (e : String) (tr : List JournalEvent) : List JournalEvent :=
  tr.filter fun ev => ev.call.concerns e

variable [Sha256]

/-- The same call in the same environment is answered alike. -/
theorem journalStep_deterministic {j j₁ j₂ : LocalJournal} {a b : JournalEvent}
    (ha : journalLts.step j a j₁) (hb : journalLts.step j b j₂) (hinput : a.input = b.input) :
    a = b ∧ j₁ = j₂ := by
  obtain ⟨env, c, r⟩ := a
  obtain ⟨env', c', r'⟩ := b
  obtain ⟨rfl, rfl⟩ := Prod.mk.inj hinput
  obtain ⟨rfl, rfl⟩ := Prod.mk.inj (Option.some.inj (ha.symm.trans hb))
  exact ⟨rfl, rfl⟩

/-- The calls about a stored event are a run of their own. -/
theorem journalRun_purge {e : String} {j j' k : LocalJournal} {tr : List JournalEvent}
    (hrun : journalLts.Run j tr j') (hagree : j.AgreesOn e k)
    (hstored : j.db.dedupFingerprint.find? e ≠ none) :
    ∃ k', journalLts.Run k (concerning e tr) k' ∧ j'.AgreesOn e k' := by
  have hseen : ∀ (j : LocalJournal) ev j' k,
      (j.AgreesOn e k ∧ j.db.dedupFingerprint.find? e ≠ none) → ev.call.concerns e = true →
      journalLts.step j ev j' → ∃ k', journalLts.step k ev k' ∧
        j'.AgreesOn e k' ∧ j'.db.dedupFingerprint.find? e ≠ none := by
    rintro j ev j' k ⟨hagree, hstored⟩ hsee hst
    obtain ⟨k', hst', hagree'⟩ := hagree.exec hsee hstored hst
    exact ⟨k', hst', hagree', (journalStep_cases hst).keepsDedup hstored⟩
  have hother : ∀ (j : LocalJournal) ev j' k,
      (j.AgreesOn e k ∧ j.db.dedupFingerprint.find? e ≠ none) → ev.call.concerns e = false →
      journalLts.step j ev j' → j'.AgreesOn e k ∧ j'.db.dedupFingerprint.find? e ≠ none := by
    rintro j ev j' k ⟨hagree, hstored⟩ hsee hst
    exact ⟨hagree.other hsee hst, (journalStep_cases hst).keepsDedup hstored⟩
  obtain ⟨k', hrun', hagree', -⟩ := hrun.purge hseen hother ⟨hagree, hstored⟩
  exact ⟨k', hrun', hagree'⟩

omit [Sha256] in
theorem LocalJournal.AgreesOn.refl (e : String) (j : LocalJournal) : j.AgreesOn e j :=
  ⟨rfl, rfl, .refl e j.db⟩

/-- A journal holds an event, another journal holds the same rows of it, whatever else the
two hold. Then the calls about the event in any run of the first, alone, are a run of the
second with the same answers; and in any run of the second in which the same calls about
the event come in the same order, whatever calls about other events come between, each is
answered as in the first and the rows of the event are the same at the end. -/
theorem journal_answers_isolated {e : String} {j j' k : LocalJournal} {tr : List JournalEvent}
    (hrun : journalLts.Run j tr j') (hagree : j.AgreesOn e k)
    (hstored : j.db.dedupFingerprint.find? e ≠ none) :
    (∃ k', journalLts.Run k (concerning e tr) k' ∧ j'.AgreesOn e k') ∧
      ∀ tr₂ k₂, journalLts.Run k tr₂ k₂ →
        (concerning e tr₂).map JournalEvent.input = (concerning e tr).map JournalEvent.input →
        concerning e tr₂ = concerning e tr ∧ j'.db.AgreesOn e k₂.db := by
  obtain ⟨k', hrun', hagree'⟩ := journalRun_purge hrun hagree hstored
  refine ⟨⟨k', hrun', hagree'⟩, ?_⟩
  intro tr₂ k₂ hrun₂ hinput
  have hstored₂ : k.db.dedupFingerprint.find? e ≠ none := by
    rw [hagree.db.dedupFingerprint]
    exact hstored
  obtain ⟨k₃, hrun₃, hagree₃⟩ := journalRun_purge hrun₂ (.refl e k) hstored₂
  -- both purged runs begin in `k` with the same calls
  obtain ⟨htr, rfl⟩ := hrun₃.eq_of_inputs
    (fun _ _ _ _ _ ha hb hin => journalStep_deterministic ha hb hin) hrun' hinput
  exact ⟨htr, hagree'.db.trans hagree₃.db.symm⟩

omit [Sha256] in
/-- A second event was accepted before the status of the first was asked for; without it
the status is the same. -/
theorem journal_answers_isolated_sample :
    ∃ (j j' : LocalJournal) (a : AcceptedEvent) (r : StatusResult),
      (@journalLts fipsSha256).Run j
        [⟨.calm 20, .accept (sampleRequest "e2" "ns" 2), .accepted a⟩,
          ⟨.calm 30, .getStatus "e1", r⟩] j' ∧
      ∃ k', (@journalLts fipsSha256).Run j [⟨.calm 30, .getStatus "e1", r⟩] k' := by
  let _ : Sha256 := fipsSha256
  have hseq₀ : ∀ key row, Db.empty.producerSequence.find? key = some row →
      row.highestSeq < 1 := fun _ _ h => by cases h
  obtain ⟨db₁, a₁, hrun₁, hstep₁, hseq₁⟩ := sampleAccept (.nil : journalLts.Run _ [] _)
    (by decide : "e1" ≠ "") rfl hseq₀ "ns" 10
  obtain ⟨db₂, a₂, hrun₂, -⟩ := sampleAccept hrun₁ (by decide : "e2" ≠ "")
    (hstep₁.putsEnvelope.other (by decide : "e1" ≠ "e2")) hseq₁ "ns" 20
  obtain ⟨j₁, hbefore, hst₂⟩ := hrun₂.last
  obtain rfl := journalRun_deterministic hrun₁ hbefore
  have hrun : journalLts.Run ⟨{}, db₁, false⟩
      [⟨.calm 20, .accept (sampleRequest "e2" "ns" 2), .accepted a₂⟩,
        ⟨.calm 30, .getStatus "e1", getStatusImpl (.calm 30) db₂ "e1"⟩] ⟨{}, db₂, false⟩ :=
    Lts.Run.snoc (Lts.Run.snoc .nil hst₂) rfl
  have hdedup : db₁.dedupFingerprint.find? "e1" = some _ := hstep₁.putsDedup.self
  refine ⟨_, _, a₂, _, hrun, ?_⟩
  obtain ⟨⟨k', hpurged, -⟩, -⟩ := journal_answers_isolated hrun (.refl "e1" _) fun h => by
    cases hdedup.symm.trans h
  exact ⟨k', hpurged⟩

end CraftRelay
