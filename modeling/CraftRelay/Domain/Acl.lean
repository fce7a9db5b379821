import Mathlib.Data.List.Infix
import CraftRelay.Lib.Ranked
import CraftRelay.Domain.PolicyResolution

/-!
# Access control in the bridge

`evaluate_acl` of `craftrelay-domain`: a principal of the scope's installation with an
active credential is answered by the rule with the highest priority among those for the
action whose pattern matches the namespace. Priorities are `i32` values that are only
compared, so they are `Int`.
-/

namespace CraftRelay

inductive CredentialStatus where
  | active | revoked | expired | unknown
  deriving DecidableEq, Repr

/-- The column of a credential that is read. -/
structure CredentialReference where
  status : CredentialStatus
  deriving DecidableEq

inductive AclAction where
  | publish | query | watch | admin
  deriving DecidableEq, Repr

/-- The columns of a principal that are read. -/
structure AclPrincipal where
  installationId : String
  credential : CredentialReference
  deriving DecidableEq

/-- A rule of the list, with its place in the order of evaluation. -/
structure AclRule where
  ruleId : String
  action : AclAction
  namespacePattern : String
  decision : AclDecision
  priority : Int
  deriving DecidableEq

/-! ## Patterns -/

/-- `str::strip_suffix`. -/
def stripSuffix (s suffix : String) : Option String :=
  if suffix.toList.isSuffixOf s.toList then
    some (String.ofList (s.toList.take (s.toList.length - suffix.toList.length)))
  else none

/-- `str::starts_with`. -/
def startsWith (s start : String) : Bool := start.toList.isPrefixOf s.toList

/-- `len` counts the bytes of a text. -/
def namespaceMatches (pattern «namespace» : String) : Bool :=
  if pattern = "*" then true
  else
    match stripSuffix pattern ".*" with
    | some base =>
        startsWith «namespace» base && decide (base.utf8ByteSize < «namespace».utf8ByteSize)
    | none => pattern = «namespace»

/-- What is left is what stands before the suffix. -/
theorem stripSuffix_eq_some_iff {s suffix base : String} :
    stripSuffix s suffix = some base ↔ s = base ++ suffix := by
  unfold stripSuffix
  constructor
  · intro h
    split at h
    · rename_i hsuffix
      injection h with h
      obtain ⟨rest, hrest⟩ := List.isSuffixOf_iff_suffix.mp hsuffix
      rw [← String.toList_inj, ← h, String.toList_append, String.toList_ofList, ← hrest]
      simp
    · cases h
  · rintro rfl
    simp

/-- A text starts with another when something follows that one. -/
theorem startsWith_iff {s start : String} :
    startsWith s start = true ↔ ∃ rest, s = start ++ rest := by
  unfold startsWith
  rw [ List.isPrefixOf_iff_prefix]
  constructor
  · rintro ⟨rest, hrest⟩
    refine ⟨String.ofList rest, ?_⟩
    rw [← String.toList_inj, ← hrest]
    simp
  · rintro ⟨rest, rfl⟩
    exact ⟨rest.toList, by simp⟩

theorem wildcard_ne_star (base : String) : base ++ ".*" ≠ "*" := by
  intro h
  have hlen := congrArg (fun s => s.toList.length) h
  simp at hlen

/-- A wildcard matches every proper extension of what stands before the dot, the dot not
included. -/
theorem namespaceMatches_wildcard_iff {base «namespace» : String} :
    namespaceMatches (base ++ ".*") «namespace» = true ↔
      ∃ rest ≠ "", «namespace» = base ++ rest := by
  unfold namespaceMatches
  rw [if_neg (wildcard_ne_star base), stripSuffix_eq_some_iff.mpr rfl]
  simp only [Bool.and_eq_true, startsWith_iff, decide_eq_true_eq]
  -- among extensions, a greater length and a rest that is not empty are the same
  constructor
  · rintro ⟨⟨rest, rfl⟩, hlen⟩
    refine ⟨rest, ?_, rfl⟩
    rintro rfl
    simp at hlen
  · rintro ⟨rest, hne, rfl⟩
    refine ⟨⟨rest, rfl⟩, ?_⟩
    have hpos : rest.utf8ByteSize ≠ 0 := by simpa using hne
    simp only [String.utf8ByteSize_append]
    omega

/-- Every pattern is the star, a wildcard or a name that matches itself. -/
theorem namespaceMatches_iff {pattern «namespace» : String} :
    namespaceMatches pattern «namespace» = true ↔
      pattern = "*" ∨ (∃ base, pattern = base ++ ".*" ∧ ∃ rest ≠ "", «namespace» = base ++ rest) ∨
        (∀ base, pattern ≠ base ++ ".*") ∧ pattern = «namespace» := by
  -- the branches of the code: the star, a pattern that ends with `.*`, any other
  by_cases hwild : ∃ base, pattern = base ++ ".*"
  · obtain ⟨base, rfl⟩ := hwild
    rw [namespaceMatches_wildcard_iff]
    constructor
    · exact fun h => .inr (.inl ⟨base, rfl, h⟩)
    · rintro (h | ⟨base', hbase, h⟩ | ⟨h, -⟩)
      · exact absurd h (wildcard_ne_star base)
      -- a wildcard pattern has one base only
      · have heq : base = base' := by
          have hlist := congrArg String.toList hbase
          rw [String.toList_append, String.toList_append] at hlist
          exact String.toList_inj.mp (List.append_cancel_right hlist)
        rw [heq]
        exact h
      · exact absurd rfl (h base)
  · have hstrip : stripSuffix pattern ".*" = none := by
      cases hcase : stripSuffix pattern ".*" with
      | none => rfl
      | some base => exact absurd ⟨base, stripSuffix_eq_some_iff.mp hcase⟩ hwild
    unfold namespaceMatches
    rw [hstrip]
    by_cases hstar : pattern = "*"
    · simp [hstar]
    · rw [if_neg hstar, decide_eq_true_eq]
      simp only [hstar, false_or]
      constructor
      · exact fun h => .inr ⟨fun base hbase => hwild ⟨base, hbase⟩, h⟩
      · rintro (⟨base, hbase, -⟩ | ⟨-, h⟩)
        · exact absurd ⟨base, hbase⟩ hwild
        · exact h

/-! ## Evaluation -/

/-- `slice::sort_by`, which is stable. -/
def sortBy {α : Type} (cmp : α → α → Ordering) (xs : List α) : List α :=
  xs.insertionSort fun a b => cmp a b ≠ .gt

/-- A refusal that no rule gave. -/
def AclEvaluationResult.denied (reason : AclDenyReason) (policyVersion : Int) :
    AclEvaluationResult :=
  ⟨.deny, some reason, none, policyVersion⟩

/-- The answer a rule gives. -/
def AclRule.result (rule : AclRule) (policyVersion : Int) : AclEvaluationResult where
  decision := rule.decision
  denyReason := if rule.decision = .deny then some .explicitDeny else none
  matchedRuleId := some rule.ruleId
  policyVersion := policyVersion

/-- The rule at which the loop over the sorted rules returns. -/
def matchedRule (scopeNamespace : String) (action : AclAction) (rules : List AclRule) :
    Option AclRule :=
  (sortBy (fun a b => compare b.priority a.priority)
    (rules.filter fun rule => rule.action = action)).find?
      fun rule => namespaceMatches rule.namespacePattern scopeNamespace

/-- The installation is compared first, then the credential, and only then the rules. -/
def evaluateAcl (principal : AclPrincipal) (scopeInstallationId scopeNamespace : String)
    (action : AclAction) (rules : List AclRule) (policyVersion : Int) : AclEvaluationResult :=
  if principal.installationId ≠ scopeInstallationId then .denied .crossInstallation policyVersion
  else
    match principal.credential.status with
    | .revoked => .denied .credentialRevoked policyVersion
    | .expired => .denied .credentialExpired policyVersion
    | .unknown => .denied .credentialInvalid policyVersion
    | .active =>
      match matchedRule scopeNamespace action rules with
      | some rule => rule.result policyVersion
      | none => .denied .noMatchingRule policyVersion

/-- The rule is for the action and its pattern matches. -/
def AclRule.applies (action : AclAction) (scopeNamespace : String) (rule : AclRule) : Bool :=
  rule.action = action && namespaceMatches rule.namespacePattern scopeNamespace

/-- The reason a credential is refused for. -/
def CredentialStatus.denyReason : CredentialStatus → Option AclDenyReason
  | .active => none
  | .revoked => some .credentialRevoked
  | .expired => some .credentialExpired
  | .unknown => some .credentialInvalid

theorem CredentialStatus.denyReason_eq_none_iff {status : CredentialStatus} :
    status.denyReason = none ↔ status = .active := by
  cases status <;> simp [denyReason]

section

variable {action : AclAction} {scopeNamespace : String} {rules : List AclRule} {rule : AclRule}

/-- The loop returns at the first match of the ranked list. -/
theorem matchedRule_eq_some_iff : matchedRule scopeNamespace action rules = some rule ↔
    Ranked.First AclRule.priority (AclRule.applies action scopeNamespace) rules rule := by
  have hr : Ranked.Ranks (fun a b : AclRule => compare b.priority a.priority ≠ .gt)
      AclRule.priority := fun a b => Int.compare_ne_gt
  unfold matchedRule sortBy
  rw [Ranked.find?_insertionSort_iff hr, Ranked.first_filter_iff]
  rfl

/-- No rule is found when none applies. -/
theorem matchedRule_eq_none_iff : matchedRule scopeNamespace action rules = none ↔
    ∀ rule ∈ rules, ¬ rule.applies action scopeNamespace = true := by
  unfold matchedRule sortBy
  rw [Ranked.find?_insertionSort_eq_none]
  simp [AclRule.applies]

variable {principal : AclPrincipal} {scopeInstallationId : String} {policyVersion : Int}

/-- An active credential leaves the answer to the rules. -/
theorem evaluateAcl_of_active (hinstallation : principal.installationId = scopeInstallationId)
    (hactive : principal.credential.status = .active) :
    evaluateAcl principal scopeInstallationId scopeNamespace action rules policyVersion =
      match matchedRule scopeNamespace action rules with
      | some rule => rule.result policyVersion
      | none => .denied .noMatchingRule policyVersion := by
  unfold evaluateAcl
  rw [if_neg (not_not.mpr hinstallation), hactive]

/-- A credential that is not active is refused whatever the rules are. -/
theorem evaluateAcl_of_refused (hinstallation : principal.installationId = scopeInstallationId)
    {reason : AclDenyReason} (hreason : principal.credential.status.denyReason = some reason) :
    evaluateAcl principal scopeInstallationId scopeNamespace action rules policyVersion =
      .denied reason policyVersion := by
  unfold evaluateAcl
  rw [if_neg (not_not.mpr hinstallation)]
  cases hstatus : principal.credential.status with
  | active =>
      rw [hstatus] at hreason
      cases hreason
  | _ =>
      rw [hstatus] at hreason
      cases hreason
      rfl

/-- A principal is let in by the rule the loop returns at, and by nothing else. -/
theorem evaluateAcl_allow_iff :
    (evaluateAcl principal scopeInstallationId scopeNamespace action rules
        policyVersion).decision = .allow ↔
      principal.installationId = scopeInstallationId ∧ principal.credential.status = .active ∧
        ∃ rule, matchedRule scopeNamespace action rules = some rule ∧
          rule.decision = .allow := by
  by_cases hinstallation : principal.installationId = scopeInstallationId
  · cases hstatus : principal.credential.status with
    | active =>
        rw [evaluateAcl_of_active hinstallation hstatus]
        cases hmatch : matchedRule scopeNamespace action rules with
        | none => simp [AclEvaluationResult.denied]
        | some rule => simp [AclRule.result, hinstallation]
    | _ =>
        rw [evaluateAcl_of_refused hinstallation (by rw [hstatus]; rfl)]
        simp [AclEvaluationResult.denied]
  · unfold evaluateAcl
    simp [hinstallation, AclEvaluationResult.denied]

end

end CraftRelay
