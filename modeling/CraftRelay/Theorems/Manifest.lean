import CraftRelay.Client.IntegrationManifest

/-!
# Manifests

What `validate_manifest` accepts, and which names the client judges as the bridge does.
-/

namespace CraftRelay

/-! ## Acceptance -/

/-- Acceptance is well-formedness unless the versions of a query are the only thing that is
wrong. -/
theorem manifest_accepted_iff_wellFormed_iff (manifest : ExtendedIntegrationManifest)
    (ceiling : PriorityClass) :
    (validateManifest manifest ceiling = .ok () ↔ manifest.WellFormed ceiling) ↔
      manifest.QueriesOrdered ∨ ¬ manifest.KeepsRules ceiling := by
  rw [validateManifest_eq_ok_iff]
  constructor
  · intro h
    by_cases hrules : manifest.KeepsRules ceiling
    · exact .inl (h.mp hrules).queriesOrdered
    · exact .inr hrules
  · intro h
    constructor
    · intro hrules
      rcases h with hordered | hbroken
      · exact ⟨hrules, hordered⟩
      · exact absurd hrules hbroken
    · exact fun hwell => hwell.rules

/-- A manifest with one query, for the versions 3 to 1. -/
def unorderedManifest : ExtendedIntegrationManifest where
  integrationId := "economy"
  integrationVersion := 1
  paperPluginId := "economy-plugin"
  events := []
  queries := [⟨"balance", 3, 1⟩]
  namespaces := ["economy"]
  requestedPriority := .p1
  maxPendingPublishes := 64
  maxPendingQueries := 64
  maxActiveWatches := 16

theorem unordered_query_accepted :
    ¬ (validateManifest unorderedManifest .p1 = .ok () ↔ unorderedManifest.WellFormed .p1) := by
  have haccepted : validateManifest unorderedManifest .p1 = .ok () := by decide +kernel
  intro h
  have hordered := (h.mp haccepted).queriesOrdered ⟨"balance", 3, 1⟩ (by decide)
  exact absurd hordered (by decide)

/-! ## Names in both languages -/

namespace Client.IntegrationManifest

/-- Bridge and client judge a name alike unless it is one by the classes of Unicode and has
a character beyond ASCII. -/
theorem names_judged_alike_iff (s : String) :
    (CraftRelay.isValidIdentifier s = true ↔
        isValidIdentifier (JavaString.ofString s) = true) ↔
      (∀ c ∈ s.toList, c.toNat < 128) ∨ ¬ IsUnicodeName s := by
  rw [CraftRelay.isValidIdentifier_iff, isValidIdentifier_ofString_iff]
  constructor
  · intro h
    by_cases hname : IsUnicodeName s
    · left
      exact (h.mpr hname).ascii
    · exact .inr hname
  · intro h
    rcases h with hascii | hno
    · exact (isUnicodeName_iff_of_ascii hascii).symm
    · constructor
      · intro hname
        exact (isUnicodeName_iff_of_ascii hname.ascii).mpr hname
      · intro hname
        exact absurd hname hno

theorem accented_name_judged_apart :
    ¬ (CraftRelay.isValidIdentifier "é" = true ↔
        isValidIdentifier (JavaString.ofString "é") = true) := by
  have hbridge : CraftRelay.isValidIdentifier "é" = false := by decide +kernel
  have hclient : isValidIdentifier (JavaString.ofString "é") = true := by decide +kernel
  intro h
  rw [hbridge, hclient] at h
  exact Bool.false_ne_true (h.mpr rfl)

/-- Of a manifest whose names are ASCII the client reports nothing exactly when the bridge
accepts every name. -/
theorem validateExtended_ascii {manifest : IntegrationManifest} {names : List String}
    (hnames : manifest.declaredNamespaces ++ manifest.declaredEventTypes ++
      manifest.declaredQueryIds = names.map JavaString.ofString)
    (hascii : ∀ s ∈ names, ∀ c ∈ s.toList, c.toNat < 128) :
    manifest.validateExtended = [] ↔
      ∀ s ∈ names, CraftRelay.isValidIdentifier s = true := by
  rw [validateExtended_eq_nil_iff, hnames, List.forall_mem_map]
  constructor
  · intro h s hs
    rw [CraftRelay.isValidIdentifier_iff, ← isUnicodeName_iff_of_ascii (hascii s hs),
      ← isValidIdentifier_ofString_iff]
    exact h s hs
  · intro h s hs
    rw [isValidIdentifier_ofString_iff, isUnicodeName_iff_of_ascii (hascii s hs),
      ← CraftRelay.isValidIdentifier_iff]
    exact h s hs

end Client.IntegrationManifest

end CraftRelay
