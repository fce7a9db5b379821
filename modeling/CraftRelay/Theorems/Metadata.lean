import CraftRelay.Lib.Joined
import CraftRelay.Client.Metadata

/-!
# Metadata

Which lists of entries bridge and client canonicalise alike, and which lists their text
tells apart.
-/

namespace CraftRelay

/-! ## Both languages -/

/-- Both accept or both refuse, and what they return is the same sequence. -/
structure CanonicalisedAlike (entries : List MetadataEntry) : Prop where
  accepted : (∃ sorted, canonicalizeMetadata entries = .ok sorted) ↔
    ∃ canonical, Client.canonicalMetadata (entries.map Client.transcribe) = .ok canonical
  returned : ∀ sorted canonical, canonicalizeMetadata entries = .ok sorted →
    Client.canonicalMetadata (entries.map Client.transcribe) = .ok canonical →
    canonical.map Client.MetadataEntry.pair = sorted.map Client.transcribe

/-- They agree unless the limits of the client's record are the only thing that is wrong. -/
theorem canonicalisedAlike_iff (entries : List MetadataEntry) :
    CanonicalisedAlike entries ↔
      (∀ entry ∈ entries, Client.WithinRecordLimits entry) ∨ ¬ KeepsMetadataRules entries := by
  have hbridge : (∃ sorted, canonicalizeMetadata entries = .ok sorted) ↔
      KeepsMetadataRules entries := by
    simp [canonicalizeMetadata_eq_ok_iff]
  constructor
  · intro h
    by_cases hrules : KeepsMetadataRules entries
    · have hclient := h.accepted.mp (hbridge.mpr hrules)
      exact .inl (Client.exists_canonicalMetadata_iff.mp hclient).2
    · exact .inr hrules
  · intro h
    refine ⟨?_, fun _ _ => Client.canonicalMetadata_pairs⟩
    rw [hbridge, Client.exists_canonicalMetadata_iff]
    constructor
    · intro hrules
      rcases h with hlimits | hbroken
      · exact ⟨hrules, hlimits⟩
      · exact absurd hrules hbroken
    · exact fun haccepted => haccepted.1

/-- A value of white space is refused by the client only. -/
theorem blank_value_canonicalised_apart : ¬ CanonicalisedAlike [⟨"note", " "⟩] := by
  have hrules : KeepsMetadataRules [⟨"note", " "⟩] := by
    refine ⟨by decide, ?_, by decide, by decide⟩
    intro entry hentry
    rw [List.mem_singleton.mp hentry, ← MetadataEntry.keyIsValid_iff]
    decide
  intro h
  have hclient := h.accepted.mp ⟨_, canonicalizeMetadata_eq_ok_iff.mpr ⟨hrules, rfl⟩⟩
  have hlimits := (Client.exists_canonicalMetadata_iff.mp hclient).2 _ List.mem_cons_self
  obtain ⟨c, hc, hspace⟩ := hlimits.notBlank
  have hc : c = ' ' := by simpa using hc
  subst hc
  exact absurd hspace (by decide)

/-! ## The text -/

namespace MetadataEntry

variable {a b : MetadataEntry}

theorem not_mem_key_of_not_part (h : a.Keyed) {c : Char}
    (hc : (isKeyStart c.toNat || isKeyPart c.toNat) = false) : c ∉ a.key.toList := by
  intro hmem
  have hpart := Ascii.Begins.all h c.toNat (List.mem_map_of_mem hmem)
  rw [hc] at hpart
  exact Bool.false_ne_true hpart

/-- A key has no equals sign, so the first one ends it. -/
theorem field_injective (ha : a.Keyed) (hb : b.Keyed) (h : a.field = b.field) : a = b := by
  have hshift : ∀ {k v k' v' : String}, '=' ∉ k.toList → ¬ Joined.TextShifted '=' k v k' v' := by
    intro k v k' v' hk ⟨w, hw, _⟩
    apply hk
    rw [hw]
    simp
  have hka := not_mem_key_of_not_part ha (c := '=') (by decide)
  have hkb := not_mem_key_of_not_part hb (c := '=') (by decide)
  have hpair := Joined.eq_of_text_pair_iff.mpr ⟨hshift hka, hshift hkb⟩ h
  cases a
  cases b
  rw [mk.injEq]
  exact hpair

end MetadataEntry

/-- The fields in the order of their keys. -/
def orderedFields (entries : List MetadataEntry) : List String :=
  (SortedBy.sortBy MetadataEntry.unsignedKey entries).map MetadataEntry.field

section Text

variable {a b : List MetadataEntry}

theorem canonicalMetadataText_of_rules (h : KeepsMetadataRules a) :
    canonicalMetadataText a = .ok ((String.singleton '|').intercalate (orderedFields a)) := by
  have hcanonical := canonicalizeMetadata_eq_ok_iff.mpr ⟨h, rfl⟩
  unfold canonicalMetadataText
  rw [hcanonical]
  rfl

/-- The fields are those of the same entries. -/
theorem orderedFields_eq_iff (ha : KeepsMetadataRules a) (hb : KeepsMetadataRules b) :
    orderedFields a = orderedFields b ↔ ∀ entry, entry ∈ a ↔ entry ∈ b := by
  have hsub : ∀ {xs ys : List MetadataEntry}, KeepsMetadataRules xs → KeepsMetadataRules ys →
      orderedFields xs = orderedFields ys → ∀ entry ∈ xs, entry ∈ ys := by
    intro xs ys hx hy h entry hentry
    have hfield : entry.field ∈ orderedFields ys := by
      rw [← h]
      exact List.mem_map_of_mem ((SortedBy.mem_sortBy _).mpr hentry)
    obtain ⟨other, hother, heq⟩ := List.mem_map.mp hfield
    rw [SortedBy.mem_sortBy] at hother
    rw [← MetadataEntry.field_injective (hy.keyed other hother) (hx.keyed entry hentry) heq]
    exact hother
  constructor
  · intro h entry
    exact ⟨hsub ha hb h entry, hsub hb ha h.symm entry⟩
  · intro h
    unfold orderedFields
    rw [SortedBy.sortBy_eq_of_mem_iff ha.unsignedKeys hb.unsignedKeys h]

theorem orderedFields_filled (entries : List MetadataEntry) :
    ∀ f ∈ orderedFields entries, f ≠ "" := by
  unfold orderedFields
  rw [List.forall_mem_map]
  intro entry _ h
  have hchars := congrArg String.toList h
  simp [MetadataEntry.field] at hchars

/-- A key has no bar either, so without one in a value the fields cannot be recut. -/
theorem not_textRecut_of_unbarred (ha : KeepsMetadataRules a) (hb : KeepsMetadataRules b)
    (hvaluesA : ∀ entry ∈ a, '|' ∉ entry.value.toList)
    (hvaluesB : ∀ entry ∈ b, '|' ∉ entry.value.toList) :
    ¬ Joined.TextRecut '|' (orderedFields a) (orderedFields b) := by
  have hfields : ∀ {entries : List MetadataEntry}, KeepsMetadataRules entries →
      (∀ entry ∈ entries, '|' ∉ entry.value.toList) →
      ∀ f ∈ orderedFields entries, '|' ∉ f.toList := by
    intro entries hrules hvalues
    unfold orderedFields
    rw [List.forall_mem_map]
    intro entry hentry
    rw [SortedBy.mem_sortBy] at hentry
    have hkey := MetadataEntry.not_mem_key_of_not_part (hrules.keyed entry hentry) (c := '|')
      (by decide)
    have hvalue := hvalues entry hentry
    simp [MetadataEntry.field, hkey, hvalue]
  apply Joined.not_textRecut_of_notMem
  · exact hfields ha hvaluesA
  · exact hfields hb hvaluesB

/-- The text tells two accepted lists apart unless the bars in it can be read as those
between the entries in two ways. -/
theorem text_identifies_metadata_iff (ha : ∃ sorted, canonicalizeMetadata a = .ok sorted)
    (hb : ∃ sorted, canonicalizeMetadata b = .ok sorted) :
    (canonicalMetadataText a = canonicalMetadataText b ↔ ∀ entry, entry ∈ a ↔ entry ∈ b) ↔
      ¬ Joined.TextRecut '|' (orderedFields a) (orderedFields b) := by
  obtain ⟨_, ha⟩ := ha
  obtain ⟨_, hb⟩ := hb
  obtain ⟨ha, -⟩ := canonicalizeMetadata_eq_ok_iff.mp ha
  obtain ⟨hb, -⟩ := canonicalizeMetadata_eq_ok_iff.mp hb
  rw [canonicalMetadataText_of_rules ha, canonicalMetadataText_of_rules hb, Except.ok.injEq,
    ← orderedFields_eq_iff ha hb, ← Joined.eq_of_intercalate_text_iff_of_filled
      (orderedFields_filled a) (orderedFields_filled b)]
  constructor
  · exact fun h => h.mp
  · intro h
    exact ⟨h, congrArg _⟩

end Text

/-- One entry whose value contains what two entries are written as. -/
def barredEntries : List MetadataEntry := [⟨"a", "1|b=2"⟩]

def twoEntries : List MetadataEntry := [⟨"a", "1"⟩, ⟨"b", "2"⟩]

/-- A bar in a value that is not followed by a key is not read as one between entries, while
the one of the list above can be. -/
theorem text_identifies_metadata_sample :
    (canonicalMetadataText twoEntries = .ok "a=1|b=2" ∧
        canonicalMetadataText [⟨"c", "1|2"⟩] = .ok "c=1|2" ∧
        ¬ Joined.TextRecut '|' (orderedFields twoEntries) (orderedFields [⟨"c", "1|2"⟩])) ∧
      canonicalMetadataText barredEntries = canonicalMetadataText twoEntries ∧
      ¬ (∀ entry, entry ∈ barredEntries ↔ entry ∈ twoEntries) ∧
      Joined.TextRecut '|' (orderedFields barredEntries) (orderedFields twoEntries) := by
  have htwo : ∃ sorted, canonicalizeMetadata twoEntries = .ok sorted :=
    ⟨twoEntries, by decide +kernel⟩
  have hone : canonicalMetadataText [⟨"c", "1|2"⟩] = .ok "c=1|2" := by decide +kernel
  have htext : canonicalMetadataText twoEntries = .ok "a=1|b=2" := by decide +kernel
  have hbarred : canonicalMetadataText barredEntries = canonicalMetadataText twoEntries := by
    decide +kernel
  have hother : ¬ ∀ entry, entry ∈ barredEntries ↔ entry ∈ twoEntries := by
    intro h
    exact absurd ((h ⟨"b", "2"⟩).mpr (by decide)) (by decide)
  refine ⟨⟨htext, hone, ?_⟩, hbarred, hother, ?_⟩
  · apply (text_identifies_metadata_iff htwo ⟨[⟨"c", "1|2"⟩], by decide +kernel⟩).mp
    rw [htext, hone]
    constructor
    · intro h
      exact absurd h (by decide)
    · intro h
      exact absurd ((h ⟨"a", "1"⟩).mp (by decide)) (by decide)
  · by_contra hrecut
    exact hother (((text_identifies_metadata_iff ⟨barredEntries, by decide +kernel⟩ htwo).mpr
      hrecut).mp hbarred)

theorem barred_value_reads_as_two_entries :
    canonicalMetadataText barredEntries = .ok "a=1|b=2" ∧
      canonicalMetadataText twoEntries = .ok "a=1|b=2" ∧
      ¬ (canonicalMetadataText barredEntries = canonicalMetadataText twoEntries ↔
        ∀ entry, entry ∈ barredEntries ↔ entry ∈ twoEntries) := by
  have hbarred : canonicalMetadataText barredEntries = .ok "a=1|b=2" := by decide +kernel
  have htwo : canonicalMetadataText twoEntries = .ok "a=1|b=2" := by decide +kernel
  refine ⟨hbarred, htwo, ?_⟩
  intro h
  rw [hbarred, htwo] at h
  have hmem := (h.mp rfl ⟨"b", "2"⟩).mpr (by decide)
  exact absurd hmem (by decide)

end CraftRelay
