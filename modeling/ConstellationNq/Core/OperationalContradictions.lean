import ConstellationNq.Core.OperationalQualification
import Mathlib.Data.List.Induction

/-!
# Contradicting inputs

The single pass of `contradictions` keeps only the first value of a subject and a claim.
It reports each later input that differs from it, so it reports something exactly when two
inputs differ, in whatever order they come.
-/

set_option autoImplicit false

namespace ConstellationNq.Core

open Protocol

/-- A claim that an input supports about a subject. -/
structure SupportedClaim where
  subject : String
  inputId : String
  claim : OperationalClaimSupportV1

def testimonies (inputs : List QualifiedOperationalInputV1) : List SupportedClaim :=
  inputs.flatMap fun input =>
    match input.subjectIdentityDigest with
    | none => []
    | some subject => input.claimSupport.map fun claim => { subject, inputId := input.inputId, claim }

def noted (events : List SupportedClaim) : FirstValues × List OperationalContradictionV1 :=
  events.foldl (fun state event => contradict event.subject event.inputId state event.claim) ([], [])

theorem contradictions_eq (inputs : List QualifiedOperationalInputV1) :
    contradictions inputs = (noted (testimonies inputs)).2 := by
  rw [contradictions, noted, testimonies, List.foldl_flatMap]
  congr 2
  funext state input
  cases input.subjectIdentityDigest with
  | none => rfl
  | some subject => rw [List.foldl_map]

section Key

variable (subject claimId : String)

def heard (events : List SupportedClaim) : List (String × Sha256Digest) :=
  events.filterMap fun event =>
    if event.subject = subject ∧ event.claim.claimId = claimId then some (event.inputId, event.claim.valueDigest) else none

def OperationalContradictionV1.isAbout (entry : OperationalContradictionV1) : Bool :=
  entry.subjectIdentityDigest = subject ∧ entry.claimId = claimId

def pairing (first other : String × Sha256Digest) : OperationalContradictionV1 where
  subjectIdentityDigest := subject
  claimId := claimId
  firstInputId := first.1
  firstValueDigest := first.2
  secondInputId := other.1
  secondValueDigest := other.2

def disagreements : List (String × Sha256Digest) → List OperationalContradictionV1
  | [] => []
  | first :: later => (later.filter fun other => first.2 ≠ other.2).map (pairing subject claimId first)

/-- After any part of the pass, the first value is remembered and every other one that
differs has been reported. -/
structure Noted (events : List SupportedClaim) (state : FirstValues × List OperationalContradictionV1) : Prop where
  first : (state.1.find? fun entry => entry.1 = (subject, claimId)).map Prod.snd = (heard subject claimId events).head?
  reported : state.2.filter (OperationalContradictionV1.isAbout subject claimId) =
    disagreements subject claimId (heard subject claimId events)

variable {subject claimId} {events : List SupportedClaim} {event : SupportedClaim} {state : FirstValues × List OperationalContradictionV1}

theorem Noted.other (noted : Noted subject claimId events state)
    (other : ¬ (event.subject = subject ∧ event.claim.claimId = claimId)) :
    Noted subject claimId (events ++ [event]) (contradict event.subject event.inputId state event.claim) := by
  have unheard : heard subject claimId (events ++ [event]) = heard subject claimId events := by
    simp [heard, other]
  have otherKey : ¬ (event.subject, event.claim.claimId) = (subject, claimId) := by simpa using other
  obtain ⟨first, reported⟩ := noted
  constructor
  case first =>
    rw [unheard, ← first, contradict]
    split
    · split <;> rfl
    · simp [List.find?_append, otherKey]
  case reported =>
    rw [unheard, ← reported, contradict]
    split
    · split
      · simp [List.filter_append, OperationalContradictionV1.isAbout, other]
      · rfl
    · rfl

theorem Noted.same (noted : Noted subject claimId events state) (same : event.subject = subject ∧ event.claim.claimId = claimId) :
    Noted subject claimId (events ++ [event]) (contradict event.subject event.inputId state event.claim) := by
  have heardNext : heard subject claimId (events ++ [event]) =
      heard subject claimId events ++ [(event.inputId, event.claim.valueDigest)] := by
    simp [heard, same]
  obtain ⟨rfl, rfl⟩ := same
  obtain ⟨first, reported⟩ := noted
  rw [contradict]
  cases found : state.1.find? fun entry => entry.1 = (event.subject, event.claim.claimId) with
  | none =>
      rw [found] at first
      have silent := List.head?_eq_none_iff.mp first.symm
      rw [silent, List.nil_append] at heardNext
      constructor
      case first => simp [heardNext, List.find?_append, found]
      case reported => rw [heardNext, reported, silent]; rfl
  | some entry =>
      obtain ⟨key, firstInput, firstValue⟩ := entry
      rw [found] at first
      obtain ⟨later, shape⟩ := List.head?_eq_some_iff.mp first.symm
      rw [shape] at reported
      rw [shape, List.cons_append] at heardNext
      dsimp only
      split
      · rename_i differs
        constructor
        case first => rw [found, heardNext]; rfl
        case reported =>
          rw [heardNext, disagreements, List.filter_append, reported, disagreements, List.filter_append, List.map_append]
          simp [differs, OperationalContradictionV1.isAbout, pairing]
      · rename_i agrees
        constructor
        case first => rw [found, heardNext]; rfl
        case reported =>
          rw [heardNext, disagreements, reported, disagreements, List.filter_append, List.map_append]
          simp [not_not.mp agrees]

theorem noted_holds (subject claimId : String) (events : List SupportedClaim) : Noted subject claimId events (noted events) := by
  induction events using List.reverseRecOn with
  | nil => exact ⟨rfl, rfl⟩
  | append_singleton events event ih =>
      have step : noted (events ++ [event]) =
          contradict event.subject event.inputId (noted events) event.claim := by
        simp [noted]
      rw [step]
      by_cases same : event.subject = subject ∧ event.claim.claimId = claimId
      · exact ih.same same
      · exact ih.other same

theorem disagreements_ne_nil {values : List (String × Sha256Digest)} :
    disagreements subject claimId values ≠ [] ↔ ∃ one ∈ values, ∃ other ∈ values, one.2 ≠ other.2 := by
  cases values with
  | nil => simp [disagreements]
  | cons first later =>
      rw [disagreements, Ne, List.map_eq_nil_iff, List.filter_eq_nil_iff, not_forall₂]
      simp only [decide_eq_true_eq, not_not]
      constructor
      · rintro ⟨other, member, differs⟩
        exact ⟨first, List.mem_cons_self, other, List.mem_cons_of_mem _ member, differs⟩
      · rintro ⟨one, oneMember, other, otherMember, differs⟩
        -- one of the two differs from the first, and so is not the first
        by_cases same : first.2 = other.2
        · rw [← same] at differs
          refine ⟨one, ?_, Ne.symm differs⟩
          rcases List.mem_cons.mp oneMember with rfl | later
          · exact absurd rfl differs
          · exact later
        · refine ⟨other, ?_, same⟩
          rcases List.mem_cons.mp otherMember with rfl | later
          · exact absurd rfl same
          · exact later

end Key

/-! ## Inputs -/

/-- The value that an input supports for a claim about a subject. -/
def QualifiedOperationalInputV1.valueOf (subject claimId : String) (input : QualifiedOperationalInputV1) :
    Option Sha256Digest :=
  if input.subjectIdentityDigest = some subject then
    (input.claimSupport.find? fun claim => claim.claimId = claimId).map OperationalClaimSupportV1.valueDigest
  else none

/-- The inputs that support a claim about a subject, each with its value. -/
def supporting (subject claimId : String) (inputs : List QualifiedOperationalInputV1) : List (String × Sha256Digest) :=
  inputs.filterMap fun input => (input.valueOf subject claimId).map (input.inputId, ·)

theorem heard_claims {claims : List OperationalClaimSupportV1}
    (once : (claims.map OperationalClaimSupportV1.claimId).Nodup) (subject claimId inputId : String) :
    heard subject claimId (claims.map fun claim => { subject, inputId, claim }) =
      (((claims.find? fun claim => claim.claimId = claimId).map OperationalClaimSupportV1.valueDigest).map
        (inputId, ·)).toList := by
  rw [heard, List.filterMap_map]
  induction claims with
  | nil => rfl
  | cons claim claims ih =>
      obtain ⟨fresh, others⟩ := List.nodup_cons.mp once
      by_cases same : claim.claimId = claimId
      · have silent : ∀ other ∈ claims, other.claimId ≠ claimId := fun other member equal =>
          fresh (same.trans equal.symm ▸ List.mem_map_of_mem member)
        have none : claims.filterMap ((fun event : SupportedClaim =>
            if event.subject = subject ∧ event.claim.claimId = claimId then some (event.inputId, event.claim.valueDigest)
            else none) ∘ fun claim => { subject, inputId, claim }) = [] :=
          List.filterMap_eq_nil_iff.mpr fun other member => by simp [silent other member]
        rw [List.filterMap_cons, none]
        simp [same]
      · rw [List.filterMap_cons, ih others]
        simp [same]

variable {inputs : List QualifiedOperationalInputV1}

theorem heard_testimonies (once : ∀ input ∈ inputs, (input.claimSupport.map OperationalClaimSupportV1.claimId).Nodup)
    (subject claimId : String) :
    heard subject claimId (testimonies inputs) = supporting subject claimId inputs := by
  induction inputs with
  | nil => rfl
  | cons input inputs ih =>
      obtain ⟨first, others⟩ := List.forall_mem_cons.mp once
      have this : heard subject claimId (testimonies [input]) = supporting subject claimId [input] := by
        have single : supporting subject claimId [input] =
            ((input.valueOf subject claimId).map (input.inputId, ·)).toList := by
          cases value : input.valueOf subject claimId <;> simp [supporting, value]
        rw [testimonies, List.flatMap_singleton, single, QualifiedOperationalInputV1.valueOf]
        cases input.subjectIdentityDigest with
        | none => rfl
        | some named =>
            by_cases same : named = subject
            · subst same
              rw [if_pos rfl]
              exact heard_claims first named claimId input.inputId
            · have silent : ¬ some named = some subject := fun equal => same (Option.some.inj equal)
              rw [if_neg silent, heard, List.filterMap_map]
              exact List.filterMap_eq_nil_iff.mpr fun claim _ => by simp [same]
      have split : testimonies (input :: inputs) = testimonies [input] ++ testimonies inputs := by
        simp [testimonies]
      rw [split, heard, List.filterMap_append, ← heard, ← heard, this, ih others, supporting, supporting, supporting,
        ← List.filterMap_append, List.singleton_append]

theorem mem_supporting {subject claimId : String} {said : String × Sha256Digest} :
    said ∈ supporting subject claimId inputs ↔
      ∃ input ∈ inputs, input.inputId = said.1 ∧ input.valueOf subject claimId = some said.2 := by
  obtain ⟨inputId, value⟩ := said
  simp only [supporting, List.mem_filterMap, Option.map_eq_some_iff, Prod.mk.injEq]
  constructor
  · rintro ⟨input, member, _, found, named, rfl⟩
    exact ⟨input, member, named, found⟩
  · rintro ⟨input, member, named, found⟩
    exact ⟨input, member, value, found, named, rfl⟩

/-- Two inputs give a claim about a subject different values. -/
def Disagree (subject claimId : String) (inputs : List QualifiedOperationalInputV1) : Prop :=
  ∃ one ∈ inputs, ∃ other ∈ inputs, ∃ value ∈ one.valueOf subject claimId, ∃ differing ∈ other.valueOf subject claimId,
    value ≠ differing

theorem disagree_iff {subject claimId : String} :
    disagreements subject claimId (supporting subject claimId inputs) ≠ [] ↔ Disagree subject claimId inputs := by
  rw [disagreements_ne_nil]
  constructor
  · rintro ⟨one, oneSaid, other, otherSaid, differs⟩
    obtain ⟨first, firstMember, -, firstValue⟩ := mem_supporting.mp oneSaid
    obtain ⟨second, secondMember, -, secondValue⟩ := mem_supporting.mp otherSaid
    exact ⟨first, firstMember, second, secondMember, one.2, firstValue, other.2, secondValue, differs⟩
  · rintro ⟨first, firstMember, second, secondMember, value, firstValue, differing, secondValue, differs⟩
    exact ⟨(first.inputId, value), mem_supporting.mpr ⟨first, firstMember, rfl, firstValue⟩, (second.inputId, differing),
      mem_supporting.mpr ⟨second, secondMember, rfl, secondValue⟩, differs⟩

/-- The entries about a subject and a claim pair the first input that supports it with
every later one that differs from it. There is one exactly when two inputs differ, in
whatever order the inputs stand. -/
theorem contradictions_exact {inputs : List QualifiedOperationalInputV1}
    (once : ∀ input ∈ inputs, (input.claimSupport.map OperationalClaimSupportV1.claimId).Nodup) (subject claimId : String) :
    (contradictions inputs).filter (OperationalContradictionV1.isAbout subject claimId) =
        disagreements subject claimId (supporting subject claimId inputs) ∧
      ((∃ entry ∈ contradictions inputs, entry.isAbout subject claimId = true) ↔ Disagree subject claimId inputs) ∧
      ∀ reordered, reordered.Perm inputs →
        ((∃ entry ∈ contradictions reordered, entry.isAbout subject claimId = true) ↔
          ∃ entry ∈ contradictions inputs, entry.isAbout subject claimId = true) := by
  have entries {listed : List QualifiedOperationalInputV1}
      (once : ∀ input ∈ listed, (input.claimSupport.map OperationalClaimSupportV1.claimId).Nodup) :
      (contradictions listed).filter (OperationalContradictionV1.isAbout subject claimId) =
        disagreements subject claimId (supporting subject claimId listed) := by
    rw [contradictions_eq, (noted_holds subject claimId (testimonies listed)).reported, heard_testimonies once]
  have found {listed : List QualifiedOperationalInputV1}
      (once : ∀ input ∈ listed, (input.claimSupport.map OperationalClaimSupportV1.claimId).Nodup) :
      (∃ entry ∈ contradictions listed, entry.isAbout subject claimId = true) ↔ Disagree subject claimId listed := by
    rw [← disagree_iff, ← entries once, Ne, List.filter_eq_nil_iff]
    simp
  refine ⟨entries once, found once, fun reordered perm => ?_⟩
  rw [found once, found fun input member => once input (perm.subset member)]
  simp only [Disagree, perm.mem_iff]

/-- An input that supports one claim. -/
def claiming (inputId : String) (digit : Char) (valid : isSha256Digest ("sha256:" ++ String.ofList (.replicate 64 digit))) :
    QualifiedOperationalInputV1 where
  inputId := inputId
  subjectIdentityDigest := some "subject"
  claimSupport := [{ claimId := "claim", valueDigest := ⟨_, valid⟩ }]

theorem contradictions_exact_three :
    ((contradictions [claiming "a" '1' rfl, claiming "b" '2' rfl, claiming "c" '1' rfl]).filter
      (OperationalContradictionV1.isAbout "subject" "claim")).length = 1 := by
  have once : ∀ input ∈ [claiming "a" '1' rfl, claiming "b" '2' rfl, claiming "c" '1' rfl],
      (input.claimSupport.map OperationalClaimSupportV1.claimId).Nodup := by
    simp [claiming]
  rw [(contradictions_exact once "subject" "claim").1]
  decide

end ConstellationNq.Core
