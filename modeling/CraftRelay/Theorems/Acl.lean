import CraftRelay.Domain.Acl
import CraftRelay.Client.AclEvaluation
import CraftRelay.Theorems.Policy

/-!
# Access control

Which namespaces a wildcard reaches, which rule decides, and where the order of the rules
comes in. Bridge and client evaluate alike, up to the encoding of their texts.
-/

namespace CraftRelay

/-! ## Wildcards and segments -/

/-- The base is a dot-separated ancestor of the namespace. -/
def AncestorOf (base «namespace» : String) : Prop :=
  ∃ rest ≠ "", «namespace» = base ++ "." ++ rest

/-- The namespace goes on after the base, but not with a dot and a segment behind it. -/
def RunsOn (base «namespace» : String) : Prop :=
  ∃ c rest, «namespace» = base ++ String.singleton c ++ rest ∧ (c ≠ '.' ∨ rest = "")

/-- The star, the namespace itself, or a wildcard of one of its ancestors. -/
def RespectsSegments (pattern «namespace» : String) : Prop :=
  pattern = "*" ∨ pattern = «namespace» ∨
    ∃ base, pattern = base ++ ".*" ∧ AncestorOf base «namespace»

/-- A wildcard over a base that runs on. -/
def Overreaches (pattern «namespace» : String) : Prop :=
  ∃ base, pattern = base ++ ".*" ∧ RunsOn base «namespace»

theorem exists_singleton_of_ne_empty {s : String} (h : s ≠ "") :
    ∃ c rest, s = String.singleton c ++ rest := by
  cases hs : s.toList with
  | nil => exact absurd (String.toList_inj.mp (hs.trans (by simp))) h
  | cons c cs =>
      refine ⟨c, String.ofList cs, ?_⟩
      rw [← String.toList_inj, hs]
      simp

/-- A proper extension starts a new segment, or runs on. -/
theorem extends_iff {base «namespace» : String} :
    (∃ rest ≠ "", «namespace» = base ++ rest) ↔
      AncestorOf base «namespace» ∨ RunsOn base «namespace» := by
  constructor
  · rintro ⟨rest, hne, rfl⟩
    obtain ⟨c, rest, rfl⟩ := exists_singleton_of_ne_empty hne
    by_cases hsegment : c = '.' ∧ rest ≠ ""
    · obtain ⟨rfl, hrest⟩ := hsegment
      exact .inl ⟨rest, hrest, (String.append_assoc).symm⟩
    · refine .inr ⟨c, rest, (String.append_assoc).symm, ?_⟩
      by_contra hno
      exact hsegment ⟨not_not.mp (not_or.mp hno).1, (not_or.mp hno).2⟩
  · rintro (⟨rest, -, rfl⟩ | ⟨c, rest, rfl, -⟩)
    · refine ⟨"." ++ rest, ?_, String.append_assoc⟩
      intro h
      simp [← String.toList_inj] at h
    · refine ⟨String.singleton c ++ rest, ?_, String.append_assoc⟩
      intro h
      simp [← String.toList_inj] at h

theorem RunsOn.not_ancestorOf {base «namespace» : String} (h : RunsOn base «namespace») :
    ¬ AncestorOf base «namespace» := by
  obtain ⟨c, rest, rfl, hc⟩ := h
  rintro ⟨rest', hne, heq⟩
  rw [String.append_assoc, String.append_assoc, ← String.toList_inj] at heq
  simp only [String.toList_append, List.append_cancel_left_eq] at heq
  have hcons : c :: rest.toList = '.' :: rest'.toList := by simpa using heq
  injection hcons with hdot hrest
  rcases hc with hc | rfl
  · exact hc hdot
  · exact hne (String.toList_inj.mp hrest.symm)

/-- A pattern that matches respects segments, or overreaches. -/
theorem respects_or_overreaches {pattern «namespace» : String}
    (h : namespaceMatches pattern «namespace» = true) :
    RespectsSegments pattern «namespace» ∨ Overreaches pattern «namespace» := by
  rcases namespaceMatches_iff.mp h with rfl | ⟨base, rfl, hrest⟩ | ⟨-, rfl⟩
  · exact .inl (.inl rfl)
  · rcases extends_iff.mp hrest with hancestor | hruns
    · exact .inl (.inr (.inr ⟨base, rfl, hancestor⟩))
    · exact .inr ⟨base, rfl, hruns⟩
  · exact .inl (.inr (.inl rfl))

theorem Overreaches.matches {pattern «namespace» : String} (h : Overreaches pattern «namespace») :
    namespaceMatches pattern «namespace» = true := by
  obtain ⟨base, rfl, hruns⟩ := h
  exact namespaceMatches_wildcard_iff.mpr (extends_iff.mpr (.inr hruns))

theorem Overreaches.not_respects {pattern «namespace» : String}
    (h : Overreaches pattern «namespace») : ¬ RespectsSegments pattern «namespace» := by
  obtain ⟨base, rfl, hruns⟩ := h
  rintro (hstar | hname | ⟨base', hbase, hancestor⟩)
  · exact wildcard_ne_star base hstar
  · -- the pattern itself would be a namespace of the base
    refine hruns.not_ancestorOf ⟨"*", by simp, ?_⟩
    rw [← hname, ← String.toList_inj]
    simp
  · have hlist := congrArg String.toList hbase
    rw [String.toList_append, String.toList_append] at hlist
    rw [← String.toList_inj.mp (List.append_cancel_right hlist)] at hancestor
    exact hruns.not_ancestorOf hancestor

/-- Another rule that applies is tried before this one. -/
def Outranked (action : AclAction) (scopeNamespace : String) (before : List AclRule)
    (rule : AclRule) (after : List AclRule) : Prop :=
  (∃ other ∈ before, other.applies action scopeNamespace = true ∧
      rule.priority ≤ other.priority) ∨
    ∃ other ∈ after, other.applies action scopeNamespace = true ∧ rule.priority < other.priority

section

variable {action : AclAction} {scopeNamespace : String} {rules before after : List AclRule}
  {rule : AclRule}

/-- A rule that applies is the one the loop returns at, when it is not outranked. -/
theorem matchedRule_split (hrules : rules = before ++ rule :: after)
    (happlies : rule.applies action scopeNamespace = true)
    (h : ¬ Outranked action scopeNamespace before rule after) :
    matchedRule scopeNamespace action rules = some rule := by
  obtain ⟨hbefore, hafter⟩ := not_or.mp h
  refine matchedRule_eq_some_iff.mpr ⟨before, after, hrules, happlies, ?_, ?_⟩
  · intro other hother hp
    exact Int.not_le.mp fun hle => hbefore ⟨other, hother, hp, hle⟩
  · intro other hother hp
    exact Int.not_lt.mp fun hlt => hafter ⟨other, hother, hp, hlt⟩

theorem first_not_outranked
    (h : Ranked.First AclRule.priority (AclRule.applies action scopeNamespace) rules rule) :
    ∃ before after, rules = before ++ rule :: after ∧
      ¬ Outranked action scopeNamespace before rule after := by
  obtain ⟨before, after, hrules, -, hbefore, hafter⟩ := h
  refine ⟨before, after, hrules, ?_⟩
  rintro (⟨other, hother, hp, hle⟩ | ⟨other, hother, hp, hlt⟩)
  · exact Int.not_le.mpr (hbefore other hother hp) hle
  · exact Int.not_lt.mpr (hafter other hother hp) hlt

theorem AclRule.applies_iff : rule.applies action scopeNamespace = true ↔
    rule.action = action ∧ namespaceMatches rule.namespacePattern scopeNamespace = true := by
  simp [AclRule.applies]

end

/-- The matcher takes the descendants of a wildcard's base, and what runs on after it. -/
theorem wildcard_meaning_iff (base «namespace» : String) :
    (namespaceMatches (base ++ ".*") «namespace» = true ↔ AncestorOf base «namespace») ↔
      ¬ RunsOn base «namespace» := by
  rw [namespaceMatches_wildcard_iff, extends_iff]
  constructor
  · exact fun h hruns => hruns.not_ancestorOf (h.mp (.inr hruns))
  · exact fun h => ⟨fun hcase => hcase.resolve_right h, .inl⟩

/-- So does the client's, code unit by code unit. -/
theorem client_wildcard_meaning_iff (base «namespace» : Client.JavaString) :
    (Client.AclEvaluation.namespaceMatches (base ++ Client.JavaString.ofString ".*")
          «namespace» = true ↔
        ∃ rest ≠ [], «namespace» = base ++ Client.JavaString.ofString "." ++ rest) ↔
      ¬ ∃ u rest, «namespace» = base ++ u :: rest ∧
        ([u] ≠ Client.JavaString.ofString "." ∨ rest = []) := by
  have hdot : Client.JavaString.ofString "." = [46] := by decide
  show (Client.AclEvaluation.namespaceMatches (base ++ Client.AclEvaluation.dotStar) «namespace» =
    true ↔ _) ↔ _
  rw [Client.AclEvaluation.namespaceMatches_wildcard_iff, hdot]
  constructor
  · rintro h ⟨u, rest, rfl, hu⟩
    obtain ⟨rest', hne, heq⟩ := h.mp ⟨u :: rest, by simp, rfl⟩
    rw [List.append_assoc, List.append_cancel_left_eq] at heq
    injection heq with hu' hrest
    rcases hu with hu | rfl
    · exact hu (by rw [hu'])
    · exact hne hrest.symm
  · intro h
    constructor
    · rintro ⟨rest, hne, rfl⟩
      obtain ⟨u, rest, rfl⟩ := List.exists_cons_of_ne_nil hne
      by_contra hno
      refine h ⟨u, rest, rfl, ?_⟩
      by_contra hsegment
      obtain ⟨hu, hrest⟩ := not_or.mp hsegment
      refine hno ⟨rest, hrest, ?_⟩
      rw [← not_not.mp hu]
      simp
    · rintro ⟨rest, -, rfl⟩
      exact ⟨46 :: rest, by simp, by simp⟩

/-- A principal is let in by a rule that respects segments, exactly when every allowing rule
for the action that overreaches is outranked. -/
theorem evaluateAcl_respects_iff (principal : AclPrincipal)
    (scopeInstallationId scopeNamespace : String) (action : AclAction) (rules : List AclRule)
    (policyVersion : Int) :
    ((evaluateAcl principal scopeInstallationId scopeNamespace action rules
          policyVersion).decision = .allow →
        ∀ rule, matchedRule scopeNamespace action rules = some rule →
          RespectsSegments rule.namespacePattern scopeNamespace) ↔
      principal.installationId ≠ scopeInstallationId ∨
        principal.credential.status ≠ .active ∨
        ∀ before rule after, rules = before ++ rule :: after → rule.action = action →
          rule.decision = .allow → Overreaches rule.namespacePattern scopeNamespace →
          Outranked action scopeNamespace before rule after := by
  rw [evaluateAcl_allow_iff]
  constructor
  · intro h
    by_contra hno
    obtain ⟨hinstallation, hno⟩ := not_or.mp hno
    obtain ⟨hactive, hno⟩ := not_or.mp hno
    rw [not_not] at hinstallation hactive
    refine hno fun before rule after hrules haction hallow hover => ?_
    by_contra houtranked
    have hmatch := matchedRule_split hrules (AclRule.applies_iff.mpr ⟨haction, hover.matches⟩)
      houtranked
    exact hover.not_respects (h ⟨hinstallation, hactive, rule, hmatch, hallow⟩ rule hmatch)
  · rintro h ⟨hinstallation, hactive, rule, hmatch, hallow⟩ rule' hmatch'
    obtain rfl : rule = rule' := Option.some.inj (hmatch.symm.trans hmatch')
    have hfirst := matchedRule_eq_some_iff.mp hmatch
    obtain ⟨haction, hmatches⟩ := AclRule.applies_iff.mp hfirst.satisfies
    obtain ⟨before, after, hrules, hnot⟩ := first_not_outranked hfirst
    rcases respects_or_overreaches hmatches with hrespects | hover
    · exact hrespects
    · rcases h with h | h | h
      · exact absurd hinstallation h
      · exact absurd hactive h
      · exact absurd (h before rule after hrules haction hallow hover) hnot

/-- In both languages a wildcard means what it says, exactly for the namespaces that do not
run on after its base; and a principal is let in by a rule that respects segments, exactly
when every allowing rule for the action that overreaches is outranked. -/
theorem wildcards_respect_segments_iff (base «namespace» : String)
    (clientBase clientNamespace : Client.JavaString) (principal : AclPrincipal)
    (scopeInstallationId scopeNamespace : String) (action : AclAction) (rules : List AclRule)
    (policyVersion : Int) :
    ((namespaceMatches (base ++ ".*") «namespace» = true ↔ AncestorOf base «namespace») ↔
        ¬ RunsOn base «namespace») ∧
      ((Client.AclEvaluation.namespaceMatches (clientBase ++ Client.JavaString.ofString ".*")
              clientNamespace = true ↔
            ∃ rest ≠ [], clientNamespace =
              clientBase ++ Client.JavaString.ofString "." ++ rest) ↔
        ¬ ∃ u rest, clientNamespace = clientBase ++ u :: rest ∧
          ([u] ≠ Client.JavaString.ofString "." ∨ rest = [])) ∧
      (((evaluateAcl principal scopeInstallationId scopeNamespace action rules
              policyVersion).decision = .allow →
            ∀ rule, matchedRule scopeNamespace action rules = some rule →
              RespectsSegments rule.namespacePattern scopeNamespace) ↔
          principal.installationId ≠ scopeInstallationId ∨
            principal.credential.status ≠ .active ∨
            ∀ before rule after, rules = before ++ rule :: after → rule.action = action →
              rule.decision = .allow → Overreaches rule.namespacePattern scopeNamespace →
              Outranked action scopeNamespace before rule after) := by
  refine ⟨wildcard_meaning_iff base «namespace», ?_, ?_⟩
  · exact client_wildcard_meaning_iff clientBase clientNamespace
  · exact evaluateAcl_respects_iff principal scopeInstallationId scopeNamespace action rules
      policyVersion

/-- The wildcard of `economy` lets `economyx` in. -/
theorem wildcards_overreach :
    (¬ ∀ base «namespace» : String,
      namespaceMatches (base ++ ".*") «namespace» = true ↔ AncestorOf base «namespace») ∧
      ¬ ∀ (principal : AclPrincipal) (scopeInstallationId scopeNamespace : String)
        (action : AclAction) (rules : List AclRule) (policyVersion : Int),
        (evaluateAcl principal scopeInstallationId scopeNamespace action rules
            policyVersion).decision = .allow →
          ∀ rule, matchedRule scopeNamespace action rules = some rule →
            RespectsSegments rule.namespacePattern scopeNamespace := by
  have hruns : RunsOn "economy" "economyx" := ⟨'x', "", rfl, .inl (by decide)⟩
  have hover : Overreaches "economy.*" "economyx" := ⟨"economy", rfl, hruns⟩
  constructor
  · intro hall
    exact hruns.not_ancestorOf ((hall "economy" "economyx").mp hover.matches)
  · intro hall
    have happlies : AclRule.applies .publish "economyx"
        ⟨"allow-economy", .publish, "economy.*", .allow, 10⟩ = true :=
      AclRule.applies_iff.mpr ⟨rfl, hover.matches⟩
    have hmatch : matchedRule "economyx" .publish
        [⟨"allow-economy", .publish, "economy.*", .allow, 10⟩] = some _ :=
      matchedRule_split (List.nil_append _).symm happlies (by simp [Outranked])
    refine hover.not_respects (hall ⟨"installation-a", ⟨.active⟩⟩ "installation-a" "economyx"
      .publish _ 1 ?_ _ hmatch)
    exact evaluateAcl_allow_iff.mpr ⟨rfl, rfl, _, hmatch, rfl⟩

/-! ## The order of the rules -/

/-- A rule that applies, with no rule that applies above it. -/
structure AclRule.IsTop (action : AclAction) (scopeNamespace : String) (rules : List AclRule)
    (rule : AclRule) : Prop where
  mem : rule ∈ rules
  applies : rule.applies action scopeNamespace = true
  top : ∀ other ∈ rules, other.applies action scopeNamespace = true →
    other.priority ≤ rule.priority

section

variable {principal : AclPrincipal} {scopeInstallationId scopeNamespace : String}
  {action : AclAction} {rules rules' : List AclRule} {policyVersion : Int} {rule : AclRule}

theorem isTop_of_matchedRule (h : matchedRule scopeNamespace action rules = some rule) :
    rule.IsTop action scopeNamespace rules := by
  have hfirst := matchedRule_eq_some_iff.mp h
  exact ⟨hfirst.mem, hfirst.satisfies, fun other hother hp => hfirst.rank_le hother hp⟩

/-- Some order of the rules puts a top rule first. -/
theorem AclRule.IsTop.exists_perm (h : rule.IsTop action scopeNamespace rules) :
    ∃ rules', rules.Perm rules' ∧ matchedRule scopeNamespace action rules' = some rule := by
  obtain ⟨rules', hperm, hfirst⟩ := Ranked.exists_perm_first h.mem h.applies h.top
  exact ⟨rules', hperm, matchedRule_eq_some_iff.mpr hfirst⟩

/-- What another order finds is a top rule too, and nothing is found in either or in both. -/
theorem matchedRule_of_perm (hperm : rules.Perm rules') :
    (matchedRule scopeNamespace action rules = none ∧
        matchedRule scopeNamespace action rules' = none) ∨
      ∃ rule rule', matchedRule scopeNamespace action rules = some rule ∧
        matchedRule scopeNamespace action rules' = some rule' ∧
        rule.IsTop action scopeNamespace rules ∧ rule'.IsTop action scopeNamespace rules := by
  cases hmatch : matchedRule scopeNamespace action rules with
  | none =>
      refine .inl ⟨rfl, matchedRule_eq_none_iff.mpr fun rule hrule => ?_⟩
      exact matchedRule_eq_none_iff.mp hmatch rule (hperm.mem_iff.mpr hrule)
  | some rule =>
      obtain ⟨rule', hfirst, hrank⟩ := (matchedRule_eq_some_iff.mp hmatch).of_perm hperm
      have htop := isTop_of_matchedRule hmatch
      refine .inr ⟨rule, rule', rfl, matchedRule_eq_some_iff.mpr hfirst, htop, ?_⟩
      refine ⟨hperm.mem_iff.mpr hfirst.mem, hfirst.satisfies, fun other hother hp => ?_⟩
      rw [hrank]
      exact htop.top other hother hp

theorem evaluateAcl_decision_of_some (hinstallation : principal.installationId = scopeInstallationId)
    (hactive : principal.credential.status = .active)
    (h : matchedRule scopeNamespace action rules = some rule) :
    (evaluateAcl principal scopeInstallationId scopeNamespace action rules
      policyVersion).decision = rule.decision := by
  rw [evaluateAcl_of_active hinstallation hactive, h]
  rfl

/-- Before the rules are looked at, their order does not matter. -/
theorem evaluateAcl_of_not_active
    (h : principal.installationId ≠ scopeInstallationId ∨ principal.credential.status ≠ .active) :
    evaluateAcl principal scopeInstallationId scopeNamespace action rules policyVersion =
      evaluateAcl principal scopeInstallationId scopeNamespace action rules' policyVersion := by
  unfold evaluateAcl
  by_cases hinstallation : principal.installationId = scopeInstallationId
  · have hactive := h.resolve_left (not_not.mpr hinstallation)
    cases hstatus : principal.credential.status with
    | active => exact absurd hstatus hactive
    | _ => rfl
  · rw [if_pos hinstallation, if_pos hinstallation]

end

/-- Every order of the rules gives one decision, exactly when no rule is looked at or the
rules that apply with the highest priority agree. -/
theorem acl_order_independent_iff (principal : AclPrincipal)
    (scopeInstallationId scopeNamespace : String) (action : AclAction) (rules : List AclRule)
    (policyVersion : Int) :
    (∀ rules', rules.Perm rules' →
        (evaluateAcl principal scopeInstallationId scopeNamespace action rules
            policyVersion).decision =
          (evaluateAcl principal scopeInstallationId scopeNamespace action rules'
            policyVersion).decision) ↔
      principal.installationId ≠ scopeInstallationId ∨ principal.credential.status ≠ .active ∨
        ∀ rule rule' : AclRule, rule.IsTop action scopeNamespace rules →
          rule'.IsTop action scopeNamespace rules → rule.decision = rule'.decision := by
  constructor
  · intro h
    by_contra hno
    obtain ⟨hinstallation, hno⟩ := not_or.mp hno
    obtain ⟨hactive, hno⟩ := not_or.mp hno
    rw [not_not] at hinstallation hactive
    refine hno fun rule rule' htop htop' => ?_
    obtain ⟨rules₁, hperm₁, hmatch₁⟩ := htop.exists_perm
    obtain ⟨rules₂, hperm₂, hmatch₂⟩ := htop'.exists_perm
    calc rule.decision
        = (evaluateAcl principal scopeInstallationId scopeNamespace action rules₁
            policyVersion).decision := by
          rw [evaluateAcl_decision_of_some hinstallation hactive hmatch₁]
      _ = (evaluateAcl principal scopeInstallationId scopeNamespace action rules₂
            policyVersion).decision := by rw [← h rules₁ hperm₁, ← h rules₂ hperm₂]
      _ = rule'.decision := by
          rw [evaluateAcl_decision_of_some hinstallation hactive hmatch₂]
  · intro h rules' hperm
    by_cases hrefused : principal.installationId ≠ scopeInstallationId ∨
        principal.credential.status ≠ .active
    · rw [evaluateAcl_of_not_active hrefused]
    · obtain ⟨hinstallation, hactive⟩ := not_or.mp hrefused
      rw [not_not] at hinstallation hactive
      rcases @matchedRule_of_perm scopeNamespace action _ _ hperm with
        ⟨hnone, hnone'⟩ | ⟨rule, rule', hmatch, hmatch', htop, htop'⟩
      · rw [evaluateAcl_of_active hinstallation hactive, hnone,
          evaluateAcl_of_active hinstallation hactive, hnone']
      · rw [evaluateAcl_decision_of_some hinstallation hactive hmatch,
          evaluateAcl_decision_of_some hinstallation hactive hmatch']
        rcases h with h | h | h
        · exact absurd hinstallation h
        · exact absurd hactive h
        · exact h rule rule' htop htop'

/-- Two rules of one priority and one pattern, the first of which decides. -/
theorem acl_order_matters :
    ¬ ∀ (principal : AclPrincipal) (scopeInstallationId scopeNamespace : String)
      (action : AclAction) (rules rules' : List AclRule) (policyVersion : Int),
      rules.Perm rules' →
      (evaluateAcl principal scopeInstallationId scopeNamespace action rules
          policyVersion).decision =
        (evaluateAcl principal scopeInstallationId scopeNamespace action rules'
          policyVersion).decision := by
  intro hall
  have h := hall ⟨"installation-a", ⟨.active⟩⟩ "installation-a" "economy" .publish
    [⟨"allow-economy", .publish, "economy", .allow, 10⟩,
      ⟨"deny-economy", .publish, "economy", .deny, 10⟩]
    [⟨"deny-economy", .publish, "economy", .deny, 10⟩,
      ⟨"allow-economy", .publish, "economy", .allow, 10⟩] 1 (List.Perm.swap ..)
  revert h
  decide

/-! ## The answers -/

/-- What the bridge has to answer. Of the rules for the action whose pattern matches, the one
of the highest priority decides, and of several of these the earliest in the list. -/
structure AclSpecification (principal : AclPrincipal) (scopeInstallationId scopeNamespace : String)
    (action : AclAction) (rules : List AclRule) (policyVersion : Int)
    (result : AclEvaluationResult) : Prop where
  crossInstallation : principal.installationId ≠ scopeInstallationId →
    result = ⟨.deny, some .crossInstallation, none, policyVersion⟩
  credential : principal.installationId = scopeInstallationId →
    ∀ reason, principal.credential.status.denyReason = some reason →
      result = ⟨.deny, some reason, none, policyVersion⟩
  rule : principal.installationId = scopeInstallationId → principal.credential.status = .active →
    ∀ rule : AclRule,
      Ranked.First AclRule.priority (AclRule.applies action scopeNamespace) rules rule →
      result = ⟨rule.decision, if rule.decision = .deny then some .explicitDeny else none,
        some rule.ruleId, policyVersion⟩
  noMatchingRule : principal.installationId = scopeInstallationId →
    principal.credential.status = .active →
    (∀ rule ∈ rules, ¬ rule.applies action scopeNamespace = true) →
      result = ⟨.deny, some .noMatchingRule, none, policyVersion⟩

theorem evaluateAcl_meets (principal : AclPrincipal) (scopeInstallationId scopeNamespace : String)
    (action : AclAction) (rules : List AclRule) (policyVersion : Int) :
    AclSpecification principal scopeInstallationId scopeNamespace action rules policyVersion
      (evaluateAcl principal scopeInstallationId scopeNamespace action rules policyVersion) where
  crossInstallation := fun h => if_pos h
  credential := fun h _ hreason => evaluateAcl_of_refused h hreason
  rule := by
    intro h hactive rule hfirst
    rw [evaluateAcl_of_active h hactive, matchedRule_eq_some_iff.mpr hfirst]
    rfl
  noMatchingRule := by
    intro h hactive hnone
    rw [evaluateAcl_of_active h hactive, matchedRule_eq_none_iff.mpr hnone]
    rfl

namespace Client.AclEvaluation

/-- What the client has to answer, which is the same. -/
structure Specification (principal : Principal) (scopeInstallationId scopeNamespace : JavaString)
    (action : Action) (rules : List Rule) (policyVersion : Int) (result : AclResult) : Prop where
  crossInstallation : principal.installationId ≠ scopeInstallationId →
    result = ⟨.deny, some .crossInstallation, none, policyVersion⟩
  credential : principal.installationId = scopeInstallationId →
    ∀ reason, principal.credential.status.denyReason = some reason →
      result = ⟨.deny, some reason, none, policyVersion⟩
  rule : principal.installationId = scopeInstallationId → principal.credential.status = .active →
    ∀ rule : Rule, Ranked.First Rule.priority (Rule.applies action scopeNamespace) rules rule →
      result = ⟨rule.decision, if rule.decision = .deny then some .explicitDeny else none,
        some rule.ruleId, policyVersion⟩
  noMatchingRule : principal.installationId = scopeInstallationId →
    principal.credential.status = .active →
    (∀ rule ∈ rules, ¬ rule.applies action scopeNamespace = true) →
      result = ⟨.deny, some .noMatchingRule, none, policyVersion⟩

theorem evaluate_meets (principal : Principal) (scopeInstallationId scopeNamespace : JavaString)
    (action : Action) (rules : List Rule) (policyVersion : Int) :
    Specification principal scopeInstallationId scopeNamespace action rules policyVersion
      (evaluate principal scopeInstallationId scopeNamespace action rules policyVersion) where
  crossInstallation := fun h => if_pos h
  credential := fun h _ hreason => evaluate_of_refused h hreason
  rule := by
    intro h hactive rule hfirst
    rw [evaluate_of_active h hactive, matchedRule_eq_some_iff.mpr hfirst]
    rfl
  noMatchingRule := by
    intro h hactive hnone
    rw [evaluate_of_active h hactive, matchedRule_eq_none_iff.mpr hnone]
    rfl

end Client.AclEvaluation

/-! ## The client's names for the bridge's values -/

def AclAction.toClient : AclAction → Client.AclEvaluation.Action
  | .publish => .publish
  | .query => .query
  | .watch => .watch
  | .admin => .admin

def CredentialStatus.toClient : CredentialStatus → Client.CredentialStatus
  | .active => .active
  | .revoked => .revoked
  | .expired => .expired
  | .unknown => .unknown

def AclDenyReason.toClient : AclDenyReason → Client.AclDenyReason
  | .noMatchingRule => .noMatchingRule
  | .explicitDeny => .explicitDeny
  | .credentialInvalid => .credentialInvalid
  | .credentialRevoked => .credentialRevoked
  | .credentialExpired => .credentialExpired
  | .crossInstallation => .crossInstallation
  | .namespaceDenied => .namespaceDenied

def AclPrincipal.toClient (principal : AclPrincipal) : Client.AclEvaluation.Principal :=
  ⟨.ofString principal.installationId, ⟨principal.credential.status.toClient⟩⟩

def AclRule.toClient (rule : AclRule) : Client.AclEvaluation.Rule :=
  ⟨.ofString rule.ruleId, rule.action.toClient, .ofString rule.namespacePattern,
    rule.decision.toClient, rule.priority⟩

def AclEvaluationResult.toClient (result : AclEvaluationResult) : Client.AclResult :=
  ⟨result.decision.toClient, result.denyReason.map (·.toClient),
    result.matchedRuleId.map Client.JavaString.ofString, result.policyVersion⟩

theorem AclAction.toClient_inj {a b : AclAction} : a.toClient = b.toClient ↔ a = b := by
  cases a <;> cases b <;> simp [toClient]

theorem CredentialStatus.denyReason_toClient (status : CredentialStatus) :
    status.toClient.denyReason = status.denyReason.map (·.toClient) := by
  cases status <;> rfl

/-- A pattern matches a namespace in code units exactly when it does in characters. -/
theorem namespaceMatches_ofString (pattern «namespace» : String) :
    Client.AclEvaluation.namespaceMatches (Client.JavaString.ofString pattern)
        (Client.JavaString.ofString «namespace») =
      namespaceMatches pattern «namespace» := by
  have hdot : Client.JavaString.ofString ".*" = [46, 42] := by decide
  have hwild (start : Client.JavaString)
      (h : Client.JavaString.ofString pattern = start ++ Client.AclEvaluation.dotStar) :
      ∃ base, pattern = base ++ ".*" ∧ start = Client.JavaString.ofString base :=
    Client.JavaString.ofString_eq_append_right (by decide) hdot h
  rw [Bool.eq_iff_iff, Client.AclEvaluation.namespaceMatches_iff, namespaceMatches_iff]
  refine or_congr ?_ (or_congr ?_ (and_congr ?_ ?_))
  · exact Client.JavaString.ofString_inj
  · constructor
    · rintro ⟨start, hstart, rest, hne, hrest⟩
      obtain ⟨base, rfl, rfl⟩ := hwild start hstart
      obtain ⟨rest, rfl, rfl⟩ := Client.JavaString.ofString_eq_append hrest
      refine ⟨base, rfl, rest, ?_, rfl⟩
      rintro rfl
      exact hne rfl
    · rintro ⟨base, rfl, rest, hne, rfl⟩
      refine ⟨Client.JavaString.ofString base, Client.JavaString.ofString_append ..,
        Client.JavaString.ofString rest, ?_,
        Client.JavaString.ofString_append ..⟩
      intro h
      exact hne (Client.JavaString.ofString_injective h)
  · constructor
    · rintro h base rfl
      exact h _ (Client.JavaString.ofString_append ..)
    · intro h start hstart
      obtain ⟨base, hbase, -⟩ := hwild start hstart
      exact h base hbase
  · exact Client.JavaString.ofString_inj

theorem AclRule.applies_toClient (action : AclAction) (scopeNamespace : String) (rule : AclRule) :
    rule.toClient.applies action.toClient (Client.JavaString.ofString scopeNamespace) =
      rule.applies action scopeNamespace := by
  unfold AclRule.applies Client.AclEvaluation.Rule.applies
  rw [← namespaceMatches_ofString]
  simp [AclRule.toClient, AclAction.toClient_inj]

theorem CredentialStatus.toClient_eq_active {status : CredentialStatus} :
    status.toClient = .active ↔ status = .active := by
  cases status <;> simp [toClient]

/-- The rule that decides in the bridge decides in the client. -/
theorem evaluate_toClient_of_active {principal : AclPrincipal}
    {scopeInstallationId scopeNamespace : String} {action : AclAction} {rules : List AclRule}
    {policyVersion : Int} {result : Client.AclResult}
    (hmeets : Client.AclEvaluation.Specification principal.toClient
      (Client.JavaString.ofString scopeInstallationId) (Client.JavaString.ofString scopeNamespace)
      action.toClient (rules.map AclRule.toClient) policyVersion result)
    (hinstallation : principal.installationId = scopeInstallationId)
    (hactive : principal.credential.status = .active) :
    result = (evaluateAcl principal scopeInstallationId scopeNamespace action rules
      policyVersion).toClient := by
  subst hinstallation
  have hclientActive : principal.toClient.credential.status = .active :=
    CredentialStatus.toClient_eq_active.mpr hactive
  rw [evaluateAcl_of_active rfl hactive]
  cases hmatch : matchedRule scopeNamespace action rules with
  | some rule =>
      have hfirst : Ranked.First Client.AclEvaluation.Rule.priority
          (Client.AclEvaluation.Rule.applies action.toClient
            (Client.JavaString.ofString scopeNamespace))
          (rules.map AclRule.toClient) rule.toClient :=
        (matchedRule_eq_some_iff.mp hmatch).map (fun _ => rfl)
          (AclRule.applies_toClient action scopeNamespace)
      rw [hmeets.rule rfl hclientActive rule.toClient hfirst]
      obtain ⟨ruleId, action, namespacePattern, decision, priority⟩ := rule
      cases decision <;> rfl
  | none =>
      refine hmeets.noMatchingRule rfl hclientActive fun rule hrule => ?_
      obtain ⟨rule, hmem, rfl⟩ := List.mem_map.mp hrule
      rw [AclRule.applies_toClient]
      exact matchedRule_eq_none_iff.mp hmatch rule hmem

/-- On the bridge's values the client's evaluation is the bridge's. -/
theorem evaluate_toClient (principal : AclPrincipal) (scopeInstallationId scopeNamespace : String)
    (action : AclAction) (rules : List AclRule) (policyVersion : Int) :
    Client.AclEvaluation.evaluate principal.toClient
        (Client.JavaString.ofString scopeInstallationId)
        (Client.JavaString.ofString scopeNamespace) action.toClient
        (rules.map AclRule.toClient) policyVersion =
      (evaluateAcl principal scopeInstallationId scopeNamespace action rules
        policyVersion).toClient := by
  have hmeets := Client.AclEvaluation.evaluate_meets principal.toClient
    (Client.JavaString.ofString scopeInstallationId) (Client.JavaString.ofString scopeNamespace)
    action.toClient (rules.map AclRule.toClient) policyVersion
  by_cases hinstallation : principal.installationId = scopeInstallationId
  · by_cases hactive : principal.credential.status = .active
    · exact evaluate_toClient_of_active hmeets hinstallation hactive
    · cases hreason : principal.credential.status.denyReason with
      | none => exact absurd (CredentialStatus.denyReason_eq_none_iff.mp hreason) hactive
      | some reason =>
          rw [evaluateAcl_of_refused hinstallation hreason]
          refine hmeets.credential (congrArg Client.JavaString.ofString hinstallation)
            reason.toClient ?_
          show principal.credential.status.toClient.denyReason = some reason.toClient
          rw [CredentialStatus.denyReason_toClient, hreason]
          rfl
  · have hclient : principal.toClient.installationId ≠
        Client.JavaString.ofString scopeInstallationId := fun h =>
      hinstallation (Client.JavaString.ofString_injective h)
    rw [hmeets.crossInstallation hclient]
    unfold evaluateAcl
    rw [if_pos hinstallation]
    rfl

/-- Both evaluations answer as they have to, and they answer alike. -/
theorem acl_evaluations_meet_specification :
    (∀ (principal : AclPrincipal) (scopeInstallationId scopeNamespace : String)
        (action : AclAction) (rules : List AclRule) (policyVersion : Int),
        AclSpecification principal scopeInstallationId scopeNamespace action rules policyVersion
          (evaluateAcl principal scopeInstallationId scopeNamespace action rules policyVersion)) ∧
      (∀ (principal : Client.AclEvaluation.Principal)
        (scopeInstallationId scopeNamespace : Client.JavaString)
        (action : Client.AclEvaluation.Action) (rules : List Client.AclEvaluation.Rule)
        (policyVersion : Int),
        Client.AclEvaluation.Specification principal scopeInstallationId scopeNamespace action
          rules policyVersion (Client.AclEvaluation.evaluate principal scopeInstallationId
            scopeNamespace action rules policyVersion)) ∧
      ∀ (principal : AclPrincipal) (scopeInstallationId scopeNamespace : String)
        (action : AclAction) (rules : List AclRule) (policyVersion : Int),
        Client.AclEvaluation.evaluate principal.toClient
            (Client.JavaString.ofString scopeInstallationId)
            (Client.JavaString.ofString scopeNamespace) action.toClient
            (rules.map AclRule.toClient) policyVersion =
          (evaluateAcl principal scopeInstallationId scopeNamespace action rules
            policyVersion).toClient :=
  ⟨evaluateAcl_meets, Client.AclEvaluation.evaluate_meets, evaluate_toClient⟩

end CraftRelay
