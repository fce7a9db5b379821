import CraftRelay.Client.Character
import CraftRelay.Domain.Manifest

/-!
# The names of a manifest in the bridge's client

`IntegrationManifest.java`: `validateExtended` reports every declared name that is no
identifier. Names are judged by their code units, with the character classes of Unicode.
-/

namespace CraftRelay.Client

open Collected (flag)

/-- The names a manifest declares, each set in the order it is walked. -/
structure IntegrationManifest where
  declaredNamespaces : List JavaString
  declaredEventTypes : List JavaString
  declaredQueryIds : List JavaString
  deriving DecidableEq

inductive ValidationCode where
  | valid | duplicateEvent | duplicateQuery | duplicateNamespace
  | invalidEventName | invalidQueryName | invalidNamespaceName
  | unboundedLimit | missingLimit | bestEffortForbidden | selfPromotionForbidden
  | invalidSchemaVersion
  deriving DecidableEq, Repr

namespace IntegrationManifest

/-- What the loop lets pass. -/
def isIdentifierChar (n : Nat) : Bool :=
  Character.isLowerCase n || Character.isDigit n || n == 46 || n == 95 || n == 45

def isValidIdentifier (value : JavaString) : Bool :=
  match value with
  | [] => false
  | first :: _ =>
      if 128 < value.length then false
      else if Character.isLowerCase first.toNat = false then false
      else value.all fun c => isIdentifierChar c.toNat

def validateExtended (manifest : IntegrationManifest) : List ValidationCode :=
  manifest.declaredNamespaces.flatMap
    (fun ns => flag (isValidIdentifier ns = false) .invalidNamespaceName) ++
  manifest.declaredEventTypes.flatMap
    (fun event => flag (isValidIdentifier event = false) .invalidEventName) ++
  manifest.declaredQueryIds.flatMap
    (fun query => flag (isValidIdentifier query = false) .invalidQueryName)

/-- Nothing is reported when every name is an identifier. -/
theorem validateExtended_eq_nil_iff {manifest : IntegrationManifest} :
    manifest.validateExtended = [] ↔
      ∀ name ∈ manifest.declaredNamespaces ++ manifest.declaredEventTypes ++
        manifest.declaredQueryIds, isValidIdentifier name = true := by
  unfold validateExtended
  simp only [List.append_eq_nil_iff, List.flatMap_eq_nil_iff, Collected.flag_eq_nil_iff,
    Bool.not_eq_false, List.mem_append]
  constructor
  · intro ⟨⟨hnamespaces, hevents⟩, hqueries⟩ name hname
    rcases hname with (hname | hname) | hname
    · exact hnamespaces name hname
    · exact hevents name hname
    · exact hqueries name hname
  · intro h
    exact ⟨⟨fun name hname => h name (.inl (.inl hname)),
      fun name hname => h name (.inl (.inr hname))⟩, fun name hname => h name (.inr hname)⟩

/-! ## Names as texts -/

/-- The same rule with the classes of Unicode. -/
abbrev IsUnicodeName : String → Prop := IsName Character.isLowerCase isIdentifierChar

theorem isIdentifierChar_of_ascii {n : Nat} (h : n < 128) :
    isIdentifierChar n = isIdentifierPart n := by
  unfold isIdentifierChar isIdentifierPart
  rw [Character.isLowerCase_of_ascii h, Character.isDigit_of_ascii h]

theorem oneUnit_isLowerCase : JavaString.OneUnit Character.isLowerCase :=
  Character.oneUnit_inClass Ascii.narrow_isLower Character.ordinary_of_mem_lowerCaseRanges

/-- A name has no pair of surrogates. -/
theorem oneUnit_isIdentifierChar : JavaString.OneUnit isIdentifierChar := by
  have hdigit := Character.oneUnit_inClass Ascii.narrow_isDigit
    Character.ordinary_of_mem_digitRanges
  intro n hn
  simp only [isIdentifierChar, Bool.or_eq_true, beq_iff_eq] at hn
  rcases hn with (((hn | hn) | hn) | hn) | hn
  · exact oneUnit_isLowerCase n hn
  · exact hdigit n hn
  · omega
  · omega
  · omega

/-- The checks one after the other are a rule about the units. -/
theorem isValidIdentifier_iff {value : JavaString} :
    isValidIdentifier value = true ↔
      Ascii.Begins Character.isLowerCase isIdentifierChar value.units ∧ value.length ≤ 128 := by
  cases value with
  | nil => simp [isValidIdentifier, JavaString.units, Ascii.Begins]
  | cons first rest =>
      -- a letter is a part of a name
      have hletter : Character.isLowerCase first.toNat = true →
          isIdentifierChar first.toNat = true := by
        intro h
        simp [isIdentifierChar, h]
      unfold isValidIdentifier
      show (if _ then false else if _ then false else _) = true ↔ _
      simp only [JavaString.units, List.map_cons, Ascii.Begins, List.forall_mem_map]
      by_cases hlong : 128 < (first :: rest).length
      · rw [if_pos hlong]
        constructor
        · exact fun h => absurd h Bool.false_ne_true
        · intro hname
          exact absurd hlong (Nat.not_lt.mpr hname.2)
      by_cases hfirst : Character.isLowerCase first.toNat = false
      · simp [hfirst]
      · rw [if_neg hlong, if_neg hfirst, List.all_cons]
        rw [Bool.not_eq_false] at hfirst
        rw [hletter hfirst, Bool.true_and, List.all_eq_true]
        constructor
        · intro hrest
          exact ⟨⟨hfirst, hrest⟩, Nat.not_lt.mp hlong⟩
        · intro hname
          exact hname.1.2

/-- The code units pass when the characters do. -/
theorem isValidIdentifier_ofString_iff {s : String} :
    isValidIdentifier (JavaString.ofString s) = true ↔ IsUnicodeName s := by
  rw [isValidIdentifier_iff,
    JavaString.begins_units_iff oneUnit_isLowerCase oneUnit_isIdentifierChar]
  have hlength : Ascii.Begins Character.isLowerCase isIdentifierChar
      (s.toList.map Char.toNat) → (JavaString.ofString s).length = s.toList.length := by
    intro h
    have hunits := JavaString.units_of_begins oneUnit_isLowerCase oneUnit_isIdentifierChar h
    simpa [JavaString.units] using congrArg List.length hunits
  constructor
  · intro ⟨htext, hlen⟩
    rw [hlength htext] at hlen
    exact ⟨htext, hlen⟩
  · intro ⟨htext, hlen⟩
    rw [hlength htext]
    exact ⟨htext, hlen⟩

/-- On ASCII the classes are the same. -/
theorem isUnicodeName_iff_of_ascii {s : String} (h : ∀ c ∈ s.toList, c.toNat < 128) :
    IsUnicodeName s ↔ IsIdentifier s := by
  have hclasses : ∀ n ∈ s.toList.map Char.toNat,
      Character.isLowerCase n = Ascii.isLower n ∧ isIdentifierChar n = isIdentifierPart n := by
    rw [List.forall_mem_map]
    intro c hc
    exact ⟨Character.isLowerCase_of_ascii (h c hc), isIdentifierChar_of_ascii (h c hc)⟩
  have htext := Ascii.begins_congr hclasses
  constructor
  · intro hname
    exact ⟨htext.mp hname.text, hname.length⟩
  · intro hname
    exact ⟨htext.mpr hname.text, hname.length⟩

end IntegrationManifest

end CraftRelay.Client
