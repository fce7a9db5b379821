import Mathlib.Data.List.Infix
import CraftRelay.Lib.Ranked
import CraftRelay.Client.PolicyResolution

/-!
# Access control in the client

`AclEvaluation.java`, the client's copy of the bridge's evaluation: the same answers, a
comparator that is reversed instead of written the other way round, and prefixes in
UTF-16 code units.
-/

namespace CraftRelay.Client

/-- `CredentialReference.CredentialStatus`. -/
inductive CredentialStatus where
  | active | revoked | expired | unknown
  deriving DecidableEq, Repr

/-- The component of a credential that is read. -/
structure CredentialReference where
  status : CredentialStatus
  deriving DecidableEq

/-- The reason a credential is refused for. -/
def CredentialStatus.denyReason : CredentialStatus → Option AclDenyReason
  | .active => none
  | .revoked => some .credentialRevoked
  | .expired => some .credentialExpired
  | .unknown => some .credentialInvalid

namespace AclEvaluation

inductive Action where
  | publish | query | watch | admin
  deriving DecidableEq, Repr

/-- The components of a principal that are read. -/
structure Principal where
  installationId : JavaString
  credential : CredentialReference
  deriving DecidableEq

structure Rule where
  ruleId : JavaString
  action : Action
  namespacePattern : JavaString
  decision : AclDecision
  priority : Int
  deriving DecidableEq

/-! ## Patterns -/

/-- The pattern `*`. -/
def star : JavaString := .ofString "*"

/-- The end of a wildcard, `.*`. -/
def dotStar : JavaString := .ofString ".*"

def namespaceMatches (pattern «namespace» : JavaString) : Bool :=
  if pattern = star then true
  else if dotStar.isSuffixOf pattern then
    let base := pattern.take (pattern.length - 2)
    base.isPrefixOf «namespace» && decide (base.length < «namespace».length)
  else pattern = «namespace»

theorem wildcard_ne_star (base : JavaString) : base ++ dotStar ≠ star := by
  intro h
  have hlen := congrArg List.length h
  have hdot : dotStar.length = 2 := by decide
  have hstar : star.length = 1 := by decide
  rw [List.length_append, hdot, hstar] at hlen
  omega

/-- A wildcard matches every proper extension of what stands before the dot. -/
theorem namespaceMatches_wildcard_iff {base «namespace» : JavaString} :
    namespaceMatches (base ++ dotStar) «namespace» = true ↔
      ∃ rest ≠ [], «namespace» = base ++ rest := by
  have hsuffix : dotStar.isSuffixOf (base ++ dotStar) = true :=
    List.isSuffixOf_iff_suffix.mpr (List.suffix_append _ _)
  have hbase : (base ++ dotStar).take ((base ++ dotStar).length - 2) = base := by
    have hdot : dotStar.length = 2 := by decide
    rw [List.length_append, hdot, Nat.add_sub_cancel, List.take_left]
  unfold namespaceMatches
  rw [if_neg (wildcard_ne_star base), if_pos hsuffix]
  simp only [hbase, Bool.and_eq_true, List.isPrefixOf_iff_prefix, decide_eq_true_eq]
  constructor
  · rintro ⟨⟨rest, rfl⟩, hlen⟩
    refine ⟨rest, ?_, rfl⟩
    rintro rfl
    simp at hlen
  · rintro ⟨rest, hne, rfl⟩
    have hpos := List.length_pos_of_ne_nil hne
    refine ⟨⟨rest, rfl⟩, ?_⟩
    rw [List.length_append]
    omega

theorem namespaceMatches_iff {pattern «namespace» : JavaString} :
    namespaceMatches pattern «namespace» = true ↔
      pattern = star ∨
        (∃ base, pattern = base ++ dotStar ∧ ∃ rest ≠ [], «namespace» = base ++ rest) ∨
        (∀ base, pattern ≠ base ++ dotStar) ∧ pattern = «namespace» := by
  by_cases hwild : ∃ base, pattern = base ++ dotStar
  · obtain ⟨base, rfl⟩ := hwild
    rw [namespaceMatches_wildcard_iff]
    constructor
    · exact fun h => .inr (.inl ⟨base, rfl, h⟩)
    · rintro (h | ⟨base', hbase, h⟩ | ⟨h, -⟩)
      · exact absurd h (wildcard_ne_star base)
      · rw [List.append_cancel_right hbase]
        exact h
      · exact absurd rfl (h base)
  · have hsuffix : ¬ dotStar.isSuffixOf pattern = true := by
      intro h
      obtain ⟨base, hbase⟩ := List.isSuffixOf_iff_suffix.mp h
      exact hwild ⟨base, hbase.symm⟩
    unfold namespaceMatches
    rw [if_neg hsuffix]
    by_cases hstar : pattern = star
    · simp [hstar]
    · rw [if_neg hstar, decide_eq_true_eq]
      simp only [hstar, false_or]
      constructor
      · exact fun h => .inr ⟨fun base hbase => hwild ⟨base, hbase⟩, h⟩
      · rintro (⟨base, hbase, -⟩ | ⟨-, h⟩)
        · exact absurd ⟨base, hbase⟩ hwild
        · exact h

/-! ## Evaluation -/

/-- `Comparator.comparingInt`. -/
def comparingInt {α : Type} (key : α → Int) (a b : α) : Int :=
  if key a < key b then -1 else if key a = key b then 0 else 1

/-- `Comparator.reversed`. -/
def reversed {α : Type} (comparator : α → α → Int) (a b : α) : Int := comparator b a

/-- `Stream.sorted`, which is stable for ordered streams. -/
def sorted {α : Type} (comparator : α → α → Int) (xs : List α) : List α :=
  xs.insertionSort fun a b => comparator a b ≤ 0

/-- A refusal that no rule gave. -/
def denied (reason : AclDenyReason) (policyVersion : Int) : AclResult :=
  ⟨.deny, some reason, none, policyVersion⟩

/-- The answer a rule gives. -/
def Rule.result (rule : Rule) (policyVersion : Int) : AclResult where
  decision := rule.decision
  denyReason := if rule.decision = .deny then some .explicitDeny else none
  matchedRuleId := some rule.ruleId
  policyVersion := policyVersion

/-- The rule at which the loop over the sorted rules returns. -/
def matchedRule (scopeNamespace : JavaString) (action : Action) (rules : List Rule) :
    Option Rule :=
  (sorted (reversed (comparingInt Rule.priority))
    (rules.filter fun rule => rule.action = action)).find?
      fun rule => namespaceMatches rule.namespacePattern scopeNamespace

def evaluate (principal : Principal) (scopeInstallationId scopeNamespace : JavaString)
    (action : Action) (rules : List Rule) (policyVersion : Int) : AclResult :=
  if principal.installationId ≠ scopeInstallationId then denied .crossInstallation policyVersion
  else
    match principal.credential.status with
    | .revoked => denied .credentialRevoked policyVersion
    | .expired => denied .credentialExpired policyVersion
    | .unknown => denied .credentialInvalid policyVersion
    | .active =>
      match matchedRule scopeNamespace action rules with
      | some rule => rule.result policyVersion
      | none => denied .noMatchingRule policyVersion

/-- The rule is for the action and its pattern matches. -/
def Rule.applies (action : Action) (scopeNamespace : JavaString) (rule : Rule) : Bool :=
  rule.action = action && namespaceMatches rule.namespacePattern scopeNamespace

/-- The reversed comparator puts higher priorities first. -/
theorem reversed_comparingInt_le {α : Type} (key : α → Int) (a b : α) :
    reversed (comparingInt key) a b ≤ 0 ↔ key b ≤ key a := by
  unfold reversed comparingInt
  split
  · simp; omega
  · split
    · simp; omega
    · simp; omega

section

variable {action : Action} {scopeNamespace : JavaString} {rules : List Rule} {rule : Rule}

/-- The loop returns at the first match of the ranked list. -/
theorem matchedRule_eq_some_iff : matchedRule scopeNamespace action rules = some rule ↔
    Ranked.First Rule.priority (Rule.applies action scopeNamespace) rules rule := by
  unfold matchedRule sorted
  rw [Ranked.find?_insertionSort_iff (reversed_comparingInt_le Rule.priority),
    Ranked.first_filter_iff]
  rfl

theorem matchedRule_eq_none_iff : matchedRule scopeNamespace action rules = none ↔
    ∀ rule ∈ rules, ¬ rule.applies action scopeNamespace = true := by
  unfold matchedRule sorted
  rw [Ranked.find?_insertionSort_eq_none]
  simp [Rule.applies]

variable {principal : Principal} {scopeInstallationId : JavaString} {policyVersion : Int}

theorem evaluate_of_active (hinstallation : principal.installationId = scopeInstallationId)
    (hactive : principal.credential.status = .active) :
    evaluate principal scopeInstallationId scopeNamespace action rules policyVersion =
      match matchedRule scopeNamespace action rules with
      | some rule => rule.result policyVersion
      | none => denied .noMatchingRule policyVersion := by
  unfold evaluate
  rw [if_neg (not_not.mpr hinstallation), hactive]

theorem evaluate_of_refused (hinstallation : principal.installationId = scopeInstallationId)
    {reason : AclDenyReason} (hreason : principal.credential.status.denyReason = some reason) :
    evaluate principal scopeInstallationId scopeNamespace action rules policyVersion =
      denied reason policyVersion := by
  unfold evaluate
  rw [if_neg (not_not.mpr hinstallation)]
  cases hstatus : principal.credential.status with
  | active =>
      rw [hstatus] at hreason
      cases hreason
  | _ =>
      rw [hstatus] at hreason
      cases hreason
      rfl

end

end AclEvaluation

end CraftRelay.Client
