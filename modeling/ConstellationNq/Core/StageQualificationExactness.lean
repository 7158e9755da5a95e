import ConstellationNq.Core.StageQualification
import ConstellationNq.Protocol.Value

/-!
# What a stage verdict says

The three checks of the evaluation note failures while they may still find the evidence
incomplete. Each is characterised by what it requires of the whole evidence, and the
verdict by the three together: a stage qualifies when everything required held, fails
when the evidence is complete and something required did not, and is indeterminate
otherwise.
-/

set_option autoImplicit false

namespace ConstellationNq.Core

open Protocol

variable {profile : CampaignStageQualificationProfileV1} {evidence : CampaignStageQualificationEvidenceV1}

/-! ## Gates -/

/-- A requirement and what was observed of it. -/
abbrev GatePair := GateRequirementV1 × GateEvidenceV1

variable (profile evidence) in
def gatePairs : List GatePair :=
  profile.orderedGates.zip evidence.gates

structure GateMatches (evidence : CampaignStageQualificationEvidenceV1) (pair : GatePair) : Prop where
  ordinal : pair.2.ordinal = pair.1.ordinal
  gateId : pair.2.gateId = pair.1.gateId
  context : pair.2.context = pair.1.context
  forwards : pair.2.startedAtUnixMs ≤ pair.2.finishedAtUnixMs
  afterStart : evidence.qualificationStartedAtUnixMs ≤ pair.2.startedAtUnixMs
  beforeFinish : pair.2.finishedAtUnixMs ≤ evidence.qualificationFinishedAtUnixMs

/-- No gate starts before the previous one has finished. -/
def OrderedFrom (finish : UInt64) : List GatePair → Prop
  | [] => True
  | pair :: pairs => finish ≤ pair.2.startedAtUnixMs ∧ OrderedFrom pair.2.finishedAtUnixMs pairs

def CompletedWith (accepts : Int32 → Prop) (pair : GatePair) : Prop :=
  ∃ exitCode stdoutSha256 stderrSha256, pair.2.outcome = .completed exitCode stdoutSha256 stderrSha256 ∧
    isSha256Digest stdoutSha256 = true ∧ isSha256Digest stderrSha256 = true ∧ accepts exitCode

def GatePasses (pair : GatePair) : Prop := CompletedWith (· = pair.1.requiredExitCode) pair

def GateFails (pair : GatePair) : Prop := CompletedWith (· ≠ pair.1.requiredExitCode) pair

def NotRunAfter (ordinal : UInt32) (pair : GatePair) : Prop := pair.2.outcome = .notRunAfterFailure ordinal

/-- Passes, then possibly one failure and only gates that were not run because of it. -/
def FailFast (pairs : List GatePair) (failure : Option UInt32) : Prop :=
  ∃ passed rest, pairs = passed ++ rest ∧ (∀ pair ∈ passed, GatePasses pair) ∧
    (rest = [] ∧ failure = none ∨
      ∃ failing later, rest = failing :: later ∧ GateFails failing ∧ (∀ pair ∈ later, NotRunAfter failing.1.ordinal pair) ∧
        failure = some failing.1.ordinal)

variable {pair : GatePair}

theorem GatePasses.not_fails (passes : GatePasses pair) : ¬ GateFails pair := by
  rintro ⟨exitCode, stdout, stderr, outcome, _, _, differs⟩
  obtain ⟨required, _, _, completed, _, _, rfl⟩ := passes
  rw [completed] at outcome
  cases outcome
  exact differs rfl

variable {failure : Option UInt32} {pairs : List GatePair}

theorem FailFast.none_iff (failFast : FailFast pairs failure) :
    failure = none ↔ ∀ pair ∈ pairs, GatePasses pair := by
  obtain ⟨passed, rest, rfl, passes, ⟨rfl, rfl⟩ | ⟨failing, later, rfl, fails, _, rfl⟩⟩ := failFast
  · simpa using passes
  · refine iff_of_false nofun fun all => ?_
    exact (all failing (by simp)).not_fails fails

theorem failFast_nil : FailFast [] failure ↔ failure = none := by
  constructor
  · rintro ⟨passed, rest, split, -, ⟨-, rfl⟩ | ⟨failing, later, rfl, -⟩⟩
    · rfl
    · simp at split
  · rintro rfl
    exact ⟨[], [], rfl, List.forall_mem_nil _, .inl ⟨rfl, rfl⟩⟩

theorem failFast_cons : FailFast (pair :: pairs) failure ↔ GatePasses pair ∧ FailFast pairs failure ∨
    GateFails pair ∧ (∀ later ∈ pairs, NotRunAfter pair.1.ordinal later) ∧ failure = some pair.1.ordinal := by
  constructor
  · rintro ⟨passed, rest, split, passes, shape⟩
    cases passed with
    | cons first passed =>
        obtain ⟨rfl, rfl⟩ := List.cons.inj split
        obtain ⟨here, others⟩ := List.forall_mem_cons.mp passes
        exact .inl ⟨here, passed, rest, rfl, others, shape⟩
    | nil =>
        obtain ⟨rfl, -⟩ | ⟨failing, later, rfl, fails, notRun, rfl⟩ := shape
        · cases split
        · obtain ⟨rfl, rfl⟩ := List.cons.inj split
          exact .inr ⟨fails, notRun, rfl⟩
  · rintro (⟨passes, passed, rest, rfl, others, shape⟩ | ⟨fails, notRun, rfl⟩)
    · exact ⟨pair :: passed, rest, rfl, List.forall_mem_cons.mpr ⟨passes, others⟩, shape⟩
    · exact ⟨[], pair :: pairs, rfl, List.forall_mem_nil _, .inr ⟨pair, pairs, rfl, fails, notRun, rfl⟩⟩

/-- What one gate needs and what it leaves. -/
theorem observeGate_eq_some {progress next : GateProgress} :
    observeGate evidence progress pair.1 pair.2 = some next ↔
      (GateMatches evidence pair ∧ progress.previousFinish ≤ pair.2.startedAtUnixMs) ∧
      next.previousFinish = pair.2.finishedAtUnixMs ∧
      match progress.firstFailure with
      | none => GatePasses pair ∧ next.firstFailure = none ∨ GateFails pair ∧ next.firstFailure = some pair.1.ordinal
      | some first => NotRunAfter first pair ∧ next.firstFailure = some first := by
  obtain ⟨required, observed⟩ := pair
  obtain ⟨failure, finish⟩ := next
  have guard : GateMatches evidence (required, observed) ∧ progress.previousFinish ≤ observed.startedAtUnixMs ↔
      observed.ordinal = required.ordinal ∧ observed.gateId = required.gateId ∧ observed.context = required.context ∧
        observed.startedAtUnixMs ≤ observed.finishedAtUnixMs ∧
        evidence.qualificationStartedAtUnixMs ≤ observed.startedAtUnixMs ∧
        observed.finishedAtUnixMs ≤ evidence.qualificationFinishedAtUnixMs ∧
        progress.previousFinish ≤ observed.startedAtUnixMs :=
    ⟨fun ⟨⟨ordinal, gateId, context, forwards, afterStart, beforeFinish⟩, later⟩ =>
        ⟨ordinal, gateId, context, forwards, afterStart, beforeFinish, later⟩,
      fun ⟨ordinal, gateId, context, forwards, afterStart, beforeFinish, later⟩ =>
        ⟨⟨ordinal, gateId, context, forwards, afterStart, beforeFinish⟩, later⟩⟩
  rw [guard, observeGate, Option.ite_none_right_eq_some]
  simp only [Bool.and_eq_true, beq_iff_eq, decide_eq_true_eq]
  refine and_congr_right fun _ => ?_
  simp only [GatePasses, GateFails, CompletedWith, NotRunAfter]
  cases observed.outcome with
  | completed exitCode stdout stderr =>
      cases progress.firstFailure with
      | none =>
          by_cases same : exitCode = required.requiredExitCode
          · simp only [same, Option.ite_none_right_eq_some]
            grind
          · simp only [same, Option.ite_none_right_eq_some]
            grind
      | some first => simp
  | notRunAfterFailure ordinal =>
      cases progress.firstFailure with
      | none => simp
      | some first => grind
  | indeterminate reason => cases progress.firstFailure <;> simp

def observePair (evidence : CampaignStageQualificationEvidenceV1) (progress : GateProgress) (pair : GatePair) :
    Option GateProgress :=
  observeGate evidence progress pair.1 pair.2

def Observes (evidence : CampaignStageQualificationEvidenceV1) (progress : GateProgress) (pairs : List GatePair)
    (failure : Option UInt32) : Prop :=
  ∃ final, pairs.foldlM (observePair evidence) progress = some final ∧ final.firstFailure = failure

theorem observes_nil {progress : GateProgress} : Observes evidence progress [] failure ↔ failure = progress.firstFailure := by
  simp [Observes, eq_comm]

theorem observes_cons {progress : GateProgress} :
    Observes evidence progress (pair :: pairs) failure ↔
      ∃ next, observeGate evidence progress pair.1 pair.2 = some next ∧ Observes evidence next pairs failure := by
  unfold Observes
  rw [List.foldlM_cons]
  constructor
  · rintro ⟨final, ran, ends⟩
    obtain ⟨next, taken, rest⟩ := Option.bind_eq_some_iff.mp ran
    exact ⟨next, taken, final, rest, ends⟩
  · rintro ⟨next, taken, final, rest, ends⟩
    exact ⟨final, Option.bind_eq_some_iff.mpr ⟨next, taken, rest⟩, ends⟩

def Aligned (evidence : CampaignStageQualificationEvidenceV1) (finish : UInt64) (pairs : List GatePair) : Prop :=
  (∀ pair ∈ pairs, GateMatches evidence pair) ∧ OrderedFrom finish pairs

theorem aligned_cons {finish : UInt64} : Aligned evidence finish (pair :: pairs) ↔
    (GateMatches evidence pair ∧ finish ≤ pair.2.startedAtUnixMs) ∧ Aligned evidence pair.2.finishedAtUnixMs pairs := by
  rw [Aligned, List.forall_mem_cons, OrderedFrom, and_and_and_comm]
  rfl

theorem observe_after {first : UInt32} {finish : UInt64} :
    Observes evidence ⟨some first, finish⟩ pairs failure ↔
      Aligned evidence finish pairs ∧ (∀ pair ∈ pairs, NotRunAfter first pair) ∧ failure = some first := by
  induction pairs generalizing finish with
  | nil => simp [observes_nil, Aligned, OrderedFrom]
  | cons pair pairs ih =>
      rw [observes_cons, aligned_cons, List.forall_mem_cons]
      constructor
      · rintro ⟨⟨failed, next⟩, taken, rest⟩
        obtain ⟨matched, rfl, notRun, rfl⟩ := observeGate_eq_some.mp taken
        obtain ⟨aligned, notRuns, same⟩ := ih.mp rest
        exact ⟨⟨matched, aligned⟩, ⟨notRun, notRuns⟩, same⟩
      · rintro ⟨⟨matched, aligned⟩, ⟨notRun, notRuns⟩, same⟩
        exact ⟨_, observeGate_eq_some.mpr ⟨matched, rfl, notRun, rfl⟩, ih.mpr ⟨aligned, notRuns, same⟩⟩

theorem observe_before {finish : UInt64} :
    Observes evidence ⟨none, finish⟩ pairs failure ↔ Aligned evidence finish pairs ∧ FailFast pairs failure := by
  induction pairs generalizing finish with
  | nil => simp [observes_nil, Aligned, OrderedFrom, failFast_nil]
  | cons pair pairs ih =>
      rw [observes_cons, aligned_cons, failFast_cons]
      constructor
      · rintro ⟨⟨failed, next⟩, taken, rest⟩
        obtain ⟨matched, rfl, ⟨passes, rfl⟩ | ⟨fails, rfl⟩⟩ := observeGate_eq_some.mp taken
        · obtain ⟨aligned, failFast⟩ := ih.mp rest
          exact ⟨⟨matched, aligned⟩, .inl ⟨passes, failFast⟩⟩
        · obtain ⟨aligned, notRun⟩ := observe_after.mp rest
          exact ⟨⟨matched, aligned⟩, .inr ⟨fails, notRun⟩⟩
      · rintro ⟨⟨matched, aligned⟩, ⟨passes, failFast⟩ | ⟨fails, notRun⟩⟩
        · exact ⟨_, observeGate_eq_some.mpr ⟨matched, rfl, .inl ⟨passes, rfl⟩⟩, ih.mpr ⟨aligned, failFast⟩⟩
        · exact ⟨_, observeGate_eq_some.mpr ⟨matched, rfl, .inr ⟨fails, rfl⟩⟩, observe_after.mpr ⟨aligned, notRun⟩⟩

variable (profile evidence) in
/-- The gates are the required ones in their order, at times that do not overlap, and
nothing runs after a failure. -/
structure GatesComplete : Prop where
  count : evidence.gates.length = profile.orderedGates.length
  matched : ∀ pair ∈ gatePairs profile evidence, GateMatches evidence pair
  ordered : OrderedFrom evidence.qualificationStartedAtUnixMs (gatePairs profile evidence)
  failFast : ∃ failure, FailFast (gatePairs profile evidence) failure

variable {failed : Bool}

theorem gatesAreWellFormed_eq_some :
    gatesAreWellFormed profile evidence = some failed ↔
      GatesComplete profile evidence ∧ (failed = false ↔ ∀ pair ∈ gatePairs profile evidence, GatePasses pair) := by
  have unfolded : gatesAreWellFormed profile evidence = some failed ↔
      evidence.gates.length = profile.orderedGates.length ∧ ∃ failure, Observes evidence
        ⟨none, evidence.qualificationStartedAtUnixMs⟩ (gatePairs profile evidence) failure ∧ failure.isSome = failed := by
    rw [gatesAreWellFormed, Option.ite_none_right_eq_some]
    refine and_congr_right fun _ => ?_
    rw [Option.bind_eq_bind, Option.bind_eq_some_iff]
    simp only [Option.pure_def, Option.some.injEq, Observes]
    constructor
    · rintro ⟨final, ran, same⟩
      exact ⟨_, ⟨final, ran, rfl⟩, same⟩
    · rintro ⟨_, ⟨final, ran, rfl⟩, same⟩
      exact ⟨final, ran, same⟩
  have decided {failure : Option UInt32} (failFast : FailFast (gatePairs profile evidence) failure) :
      failure.isSome = failed ↔ (failed = false ↔ ∀ pair ∈ gatePairs profile evidence, GatePasses pair) := by
    rw [← failFast.none_iff]
    cases failure <;> cases failed <;> simp
  simp only [unfolded, observe_before]
  constructor
  · rintro ⟨count, failure, ⟨⟨matched, ordered⟩, failFast⟩, same⟩
    exact ⟨⟨count, matched, ordered, failure, failFast⟩, (decided failFast).mp same⟩
  · rintro ⟨⟨count, matched, ordered, failure, failFast⟩, passes⟩
    exact ⟨count, failure, ⟨⟨matched, ordered⟩, failFast⟩, (decided failFast).mpr passes⟩

/-! ## Sets of observations -/

/-- A count, an equality of sets and no repetition together say that the required ones
are there, each once, in some order. -/
theorem exactSet_iff {α : Type} [DecidableEq α] {expected actual : List α} :
    actual.length = expected.length ∧ expected.toFinset = actual.toFinset ∧ actual.Nodup ↔
      actual.Perm expected ∧ expected.Nodup := by
  constructor
  · rintro ⟨count, same, distinct⟩
    have sized : expected.toFinset.card = expected.length := by
      rw [same, List.toFinset_card_of_nodup distinct, count]
    have expectedDistinct : expected.Nodup := by
      rw [List.card_toFinset] at sized
      exact List.dedup_eq_self.mp ((List.dedup_sublist expected).eq_of_length sized)
    exact ⟨List.perm_of_nodup_nodup_toFinset_eq distinct expectedDistinct same.symm, expectedDistinct⟩
  · rintro ⟨perm, distinct⟩
    exact ⟨perm.length_eq, List.toFinset_eq_of_perm _ _ perm.symm, perm.nodup_iff.mpr distinct⟩

theorem judged_eq_some {α : Type} {judge : α → Option Bool} {items : List α} :
    (items.mapM judge).map (·.any id) = some failed ↔
      (∀ item ∈ items, ∃ verdict, judge item = some verdict) ∧ (failed = false ↔ ∀ item ∈ items, judge item = some false) := by
  induction items generalizing failed with
  | nil => cases failed <;> simp
  | cons item items ih =>
      rw [List.mapM_cons, List.forall_mem_cons, List.forall_mem_cons]
      cases first : judge item with
      | none => simp
      | some verdict =>
          have split : ((some verdict >>= fun result => items.mapM judge >>= fun results => pure (result :: results)).map
              (·.any id)) = ((items.mapM judge).map (·.any id)).map (verdict || ·) := by
            cases items.mapM judge <;> rfl
          rw [split, Option.map_eq_some_iff]
          constructor
          · rintro ⟨rest, judged, rfl⟩
            obtain ⟨decided, others⟩ := ih.mp judged
            refine ⟨⟨⟨verdict, rfl⟩, decided⟩, ?_⟩
            rw [Bool.or_eq_false_iff, others, Option.some.injEq]
          · rintro ⟨⟨-, decided⟩, none⟩
            classical
            refine ⟨!decide (∀ item ∈ items, judge item = some false), ih.mpr ⟨decided, by simp⟩, ?_⟩
            rw [Option.some.injEq] at none
            cases verdict with
            | true => cases failed <;> simp at none ⊢
            | false => cases failed <;> simpa using none

/-! ## Artifacts -/

/-- A digest of what is there, or nothing where nothing is. -/
def ArtifactReadable (observed : ArtifactEvidenceV1) : Prop :=
  isSha256Digest observed.observationSha256 = true ∧
    ((∃ digest, observed.sha256 = some digest ∧ observed.present = true ∧ isSha256Digest digest = true) ∨
      observed.sha256 = none ∧ observed.present = false)

variable (profile evidence) in
@[mk_iff]
structure ArtifactsComplete : Prop where
  exactly : (evidence.artifacts.map ArtifactEvidenceV1.repositoryRelativePath).Perm
    (profile.requiredArtifacts.map ArtifactRequirementV1.repositoryRelativePath)
  distinct : (profile.requiredArtifacts.map ArtifactRequirementV1.repositoryRelativePath).Nodup
  readable : ∀ observed ∈ evidence.artifacts, ArtifactReadable observed

variable (profile evidence) in
def ArtifactsPresent : Prop :=
  ∀ required ∈ profile.requiredArtifacts, ∃ observed ∈ evidence.artifacts,
    observed.repositoryRelativePath = required.repositoryRelativePath ∧ observed.present = true ∧
      observed.sha256 = some required.sha256

/-- The requirement that the loop over the artifacts expects. -/
def requirementOf (profile : CampaignStageQualificationProfileV1) (observed : ArtifactEvidenceV1) :
    Option ArtifactRequirementV1 :=
  profile.requiredArtifacts.find? fun artifact => artifact.repositoryRelativePath == observed.repositoryRelativePath

variable {observed : ArtifactEvidenceV1}

theorem requirementOf_eq {required : ArtifactRequirementV1}
    (distinct : (profile.requiredArtifacts.map ArtifactRequirementV1.repositoryRelativePath).Nodup)
    (member : required ∈ profile.requiredArtifacts)
    (same : observed.repositoryRelativePath = required.repositoryRelativePath) :
    requirementOf profile observed = some required := by
  cases found : requirementOf profile observed with
  | none => exact absurd (beq_iff_eq.mpr same.symm) (List.find?_eq_none.mp found required member)
  | some other =>
      have path : other.repositoryRelativePath = observed.repositoryRelativePath := by
        simpa using List.find?_some found
      rw [List.inj_on_of_nodup_map distinct (List.mem_of_find?_eq_some found) member (path.trans same)]

theorem observeArtifact_eq_some {required : ArtifactRequirementV1}
    (found : requirementOf profile observed = some required) :
    observeArtifact profile observed = some failed ↔
      ArtifactReadable observed ∧ (failed = false ↔ observed.present = true ∧ observed.sha256 = some required.sha256) := by
  rw [observeArtifact, ArtifactReadable]
  by_cases valid : isSha256Digest observed.observationSha256 = true
  · rw [if_neg (by simp [valid])]
    simp only [show profile.requiredArtifacts.find? (fun artifact =>
      artifact.repositoryRelativePath == observed.repositoryRelativePath) = some required from found,
      Option.bind_eq_bind, Option.bind_some, valid, true_and]
    cases observed.sha256 <;> cases observed.present <;> cases failed <;> simp
  · simp [valid]

section Exactly

variable (exactly : (evidence.artifacts.map ArtifactEvidenceV1.repositoryRelativePath).Perm
    (profile.requiredArtifacts.map ArtifactRequirementV1.repositoryRelativePath))
  (distinct : (profile.requiredArtifacts.map ArtifactRequirementV1.repositoryRelativePath).Nodup)

include exactly distinct

theorem requirement_found (member : observed ∈ evidence.artifacts) :
    ∃ required ∈ profile.requiredArtifacts, observed.repositoryRelativePath = required.repositoryRelativePath ∧
      requirementOf profile observed = some required := by
  obtain ⟨required, inside, same⟩ := List.mem_map.mp (exactly.subset (List.mem_map_of_mem member))
  exact ⟨required, inside, same.symm, requirementOf_eq distinct inside same.symm⟩

theorem artifacts_judged :
    (∀ observed ∈ evidence.artifacts, ∃ verdict, observeArtifact profile observed = some verdict) ↔
      ∀ observed ∈ evidence.artifacts, ArtifactReadable observed := by
  classical
  refine forall₂_congr fun observed member => ?_
  obtain ⟨required, _, _, found⟩ := requirement_found exactly distinct member
  simp only [observeArtifact_eq_some found, exists_and_left, and_iff_left_iff_imp]
  exact fun _ => ⟨!decide (observed.present = true ∧ observed.sha256 = some required.sha256), by simp⟩

theorem artifacts_passed (readable : ∀ observed ∈ evidence.artifacts, ArtifactReadable observed) :
    (∀ observed ∈ evidence.artifacts, observeArtifact profile observed = some false) ↔ ArtifactsPresent profile evidence := by
  constructor
  · intro passed required member
    obtain ⟨observed, inside, same⟩ := List.mem_map.mp (exactly.symm.subset (List.mem_map_of_mem member))
    have found := requirementOf_eq distinct member same
    obtain ⟨present, digest⟩ := ((observeArtifact_eq_some found).mp (passed observed inside)).2.mp rfl
    exact ⟨observed, inside, same, present, digest⟩
  · intro present observed member
    obtain ⟨required, inside, same, found⟩ := requirement_found exactly distinct member
    obtain ⟨other, otherMember, otherSame, there, digest⟩ := present required inside
    obtain rfl : other = observed :=
      List.inj_on_of_nodup_map (exactly.nodup_iff.mpr distinct) otherMember member (otherSame.trans same.symm)
    exact (observeArtifact_eq_some found).mpr ⟨readable _ member, iff_of_true rfl ⟨there, digest⟩⟩

end Exactly

theorem artifactsAreWellFormed_eq_some :
    artifactsAreWellFormed profile evidence = some failed ↔
      ArtifactsComplete profile evidence ∧ (failed = false ↔ ArtifactsPresent profile evidence) := by
  have unfolded : artifactsAreWellFormed profile evidence = some failed ↔
      ((evidence.artifacts.map ArtifactEvidenceV1.repositoryRelativePath).Perm
        (profile.requiredArtifacts.map ArtifactRequirementV1.repositoryRelativePath) ∧
        (profile.requiredArtifacts.map ArtifactRequirementV1.repositoryRelativePath).Nodup) ∧
        (evidence.artifacts.mapM (observeArtifact profile)).map (·.any id) = some failed := by
    rw [artifactsAreWellFormed, Option.ite_none_right_eq_some, ← exactSet_iff, List.length_map, List.length_map]
    refine and_congr_right fun _ => ?_
    cases evidence.artifacts.mapM (observeArtifact profile) <;> rfl
  rw [unfolded, judged_eq_some]
  constructor
  · rintro ⟨⟨exactly, distinct⟩, judged, passes⟩
    have readable := (artifacts_judged exactly distinct).mp judged
    exact ⟨⟨exactly, distinct, readable⟩, passes.trans (artifacts_passed exactly distinct readable)⟩
  · rintro ⟨⟨exactly, distinct, readable⟩, passes⟩
    exact ⟨⟨exactly, distinct⟩, (artifacts_judged exactly distinct).mpr readable,
      passes.trans (artifacts_passed exactly distinct readable).symm⟩

/-! ## Custody -/

def CustodyReadable (observed : WorkspaceCustodyEvidenceV1) : Prop :=
  isSha256Digest observed.observationSha256 = true ∧ ∀ reason, observed.outcome ≠ .indeterminate reason

variable (profile evidence) in
@[mk_iff]
structure CustodyComplete : Prop where
  exactly : (evidence.workspaceCustody.map WorkspaceCustodyEvidenceV1.predicate).Perm profile.requiredWorkspacePredicates
  distinct : profile.requiredWorkspacePredicates.Nodup
  readable : ∀ observed ∈ evidence.workspaceCustody, CustodyReadable observed

variable (profile evidence) in
def CustodyPasses : Prop :=
  ∀ predicate ∈ profile.requiredWorkspacePredicates, ∃ observed ∈ evidence.workspaceCustody,
    observed.predicate = predicate ∧ observed.outcome = .passed

theorem observeCustody_eq_some {observed : WorkspaceCustodyEvidenceV1} :
    observeCustody observed = some failed ↔ CustodyReadable observed ∧ (failed = false ↔ observed.outcome = .passed) := by
  rw [observeCustody, Option.ite_none_right_eq_some, CustodyReadable, and_assoc]
  refine and_congr_right fun _ => ?_
  cases observed.outcome <;> cases failed <;> simp

theorem custodyIsWellFormed_eq_some :
    custodyIsWellFormed profile evidence = some failed ↔
      CustodyComplete profile evidence ∧ (failed = false ↔ CustodyPasses profile evidence) := by
  have unfolded : custodyIsWellFormed profile evidence = some failed ↔
      ((evidence.workspaceCustody.map WorkspaceCustodyEvidenceV1.predicate).Perm profile.requiredWorkspacePredicates ∧
        profile.requiredWorkspacePredicates.Nodup) ∧
        (evidence.workspaceCustody.mapM observeCustody).map (·.any id) = some failed := by
    rw [custodyIsWellFormed, Option.ite_none_right_eq_some, ← exactSet_iff, List.length_map]
    refine and_congr_right fun _ => ?_
    cases evidence.workspaceCustody.mapM observeCustody <;> rfl
  have judged : (∀ observed ∈ evidence.workspaceCustody, ∃ verdict, observeCustody observed = some verdict) ↔
      ∀ observed ∈ evidence.workspaceCustody, CustodyReadable observed := by
    refine forall₂_congr fun observed _ => ?_
    simp only [observeCustody_eq_some, exists_and_left, and_iff_left_iff_imp]
    exact fun _ => ⟨!decide (observed.outcome = .passed), by simp⟩
  have passed (exactly : (evidence.workspaceCustody.map WorkspaceCustodyEvidenceV1.predicate).Perm
        profile.requiredWorkspacePredicates) (distinct : profile.requiredWorkspacePredicates.Nodup)
      (readable : ∀ observed ∈ evidence.workspaceCustody, CustodyReadable observed) :
      (∀ observed ∈ evidence.workspaceCustody, observeCustody observed = some false) ↔ CustodyPasses profile evidence := by
    constructor
    · intro all predicate member
      obtain ⟨observed, inside, same⟩ := List.mem_map.mp (exactly.symm.subset member)
      exact ⟨observed, inside, same, (observeCustody_eq_some.mp (all observed inside)).2.mp rfl⟩
    · intro passes observed member
      obtain ⟨other, inside, same, outcome⟩ := passes _ (exactly.subset (List.mem_map_of_mem member))
      obtain rfl : other = observed := List.inj_on_of_nodup_map (exactly.nodup_iff.mpr distinct) inside member same
      exact observeCustody_eq_some.mpr ⟨readable _ member, iff_of_true rfl outcome⟩
  rw [unfolded, judged_eq_some, judged]
  constructor
  · rintro ⟨⟨exactly, distinct⟩, readable, passes⟩
    exact ⟨⟨exactly, distinct, readable⟩, passes.trans (passed exactly distinct readable)⟩
  · rintro ⟨⟨exactly, distinct, readable⟩, passes⟩
    exact ⟨⟨exactly, distinct⟩, readable, passes.trans (passed exactly distinct readable).symm⟩

/-! ## The loop over the artifacts, with its expectation -/

/-- The loop of `artifacts_are_well_formed`, which ends the program where the requirement
it expects is missing. -/
def judgeArtifacts (profile : CampaignStageQualificationProfileV1) : List ArtifactEvidenceV1 → Except String (Option Bool)
  | [] => .ok (some false)
  | observed :: rest =>
      if isSha256Digest observed.observationSha256 then
        match requirementOf profile observed with
        | none => .error "set equality established"
        | some required =>
            match observed.sha256, observed.present with
            | some digest, true =>
                if isSha256Digest digest then (judgeArtifacts profile rest).map (Option.map (digest != required.sha256 || ·))
                else .ok none
            | none, false => (judgeArtifacts profile rest).map (Option.map (true || ·))
            | _, _ => .ok none
      else .ok none

variable (profile evidence) in
def artifactsOrPanic : Except String (Option Bool) :=
  let expected := profile.requiredArtifacts.map ArtifactRequirementV1.repositoryRelativePath
  let actual := evidence.artifacts.map ArtifactEvidenceV1.repositoryRelativePath
  if evidence.artifacts.length = profile.requiredArtifacts.length ∧ expected.toFinset = actual.toFinset ∧
      actual.Nodup then
    judgeArtifacts profile evidence.artifacts
  else .ok none

theorem judgeArtifacts_eq {artifacts : List ArtifactEvidenceV1}
    (found : ∀ observed ∈ artifacts, ∃ required, requirementOf profile observed = some required) :
    judgeArtifacts profile artifacts = .ok ((artifacts.mapM (observeArtifact profile)).map (·.any id)) := by
  induction artifacts with
  | nil => rfl
  | cons observed rest ih =>
      obtain ⟨⟨required, here⟩, others⟩ := List.forall_mem_cons.mp found
      have later := ih others
      rw [requirementOf] at here
      rw [judgeArtifacts, requirementOf, here, List.mapM_cons, observeArtifact, here, later]
      cases rest.mapM (observeArtifact profile) <;> cases isSha256Digest observed.observationSha256 <;>
        cases observed.present <;> cases observed.sha256 with
        | none => rfl
        | some digest => cases valid : isSha256Digest digest <;> simp [valid, Except.map]

variable (profile evidence) in
/-- No evidence, however malformed, makes the loop miss a requirement. -/
theorem artifactsOrPanic_eq : artifactsOrPanic profile evidence = .ok (artifactsAreWellFormed profile evidence) := by
  rw [artifactsOrPanic, artifactsAreWellFormed]
  split
  · rename_i guard
    obtain ⟨exactly, distinct⟩ := exactSet_iff.mp ⟨by rw [List.length_map, List.length_map, guard.1], guard.2⟩
    rw [judgeArtifacts_eq fun observed member => by
      obtain ⟨required, _, _, found⟩ := requirement_found exactly distinct member
      exact ⟨required, found⟩]
    cases evidence.artifacts.mapM (observeArtifact profile) <;> rfl
  · rfl

/-! ## The digest of the evidence -/

def canonicalSha256 (codec : Codec) (value : Json) : String :=
  match semanticDigest codec value with
  | .ok digest => digest.text
  | .error failure => "invalid:" ++ failure.message

theorem isSha256Digest_canonicalSha256 {codec : Codec} {value : Json} :
    isSha256Digest (canonicalSha256 codec value) = true ↔ validateIJsonNumbers value = .ok () := by
  rw [canonicalSha256, semanticDigest, canonicalJsonBytes]
  cases validateIJsonNumbers value with
  | ok _ => exact iff_of_true (codec.sha256Bytes _).valid rfl
  | error failure =>
      refine iff_of_false ?_ (by simp)
      simp only [bind, Except.bind, Except.map, isSha256Digest, String.toList_append, Bool.and_eq_true, not_and]
      intro starts
      exact absurd starts (by simp [List.isPrefixOf])

def GitObjectIdentityV1.toJson (value : GitObjectIdentityV1) : Json :=
  .object [("object_format", .string value.objectFormat), ("digest", .string value.digest)]

def EvidenceProducerIdentityV1.toJson (value : EvidenceProducerIdentityV1) : Json :=
  .object [("producer_id", .string value.producerId), ("producer_version", .string value.producerVersion),
    ("executable_sha256", .string value.executableSha256)]

def GateExecutionContextV1.toJson (value : GateExecutionContextV1) : Json :=
  .object [("executable_sha256", .string value.executableSha256),
    ("argv_transcript_sha256", .string value.argvTranscriptSha256),
    ("repository_relative_cwd", .string value.repositoryRelativeCwd),
    ("environment_transcript_sha256", .string value.environmentTranscriptSha256)]

def GateOutcomeV1.toJson : GateOutcomeV1 → Json
  | .completed exitCode stdoutSha256 stderrSha256 =>
      .object [("outcome", .string "COMPLETED"), ("exit_code", .integer exitCode.toInt),
        ("stdout_sha256", .string stdoutSha256), ("stderr_sha256", .string stderrSha256)]
  | .notRunAfterFailure failedGateOrdinal =>
      .object [("outcome", .string "NOT_RUN_AFTER_FAILURE"), ("failed_gate_ordinal", .integer failedGateOrdinal.toNat)]
  | .indeterminate reason => .object [("outcome", .string "INDETERMINATE"), ("reason", .string reason)]

def GateEvidenceV1.toJson (value : GateEvidenceV1) : Json :=
  .object [("ordinal", .integer value.ordinal.toNat), ("gate_id", .string value.gateId), ("context", value.context.toJson),
    ("started_at_unix_ms", .integer value.startedAtUnixMs.toNat),
    ("finished_at_unix_ms", .integer value.finishedAtUnixMs.toNat), ("outcome", value.outcome.toJson)]

def ArtifactEvidenceV1.toJson (value : ArtifactEvidenceV1) : Json :=
  .object [("repository_relative_path", .string value.repositoryRelativePath), ("present", .bool value.present),
    ("sha256", value.sha256.elim .null .string), ("observation_sha256", .string value.observationSha256)]

def WorkspaceCustodyPredicateV1.name : WorkspaceCustodyPredicateV1 → String
  | .repositoryIdentityMatches => "REPOSITORY_IDENTITY_MATCHES"
  | .persistentWriteReadRoundTrip => "PERSISTENT_WRITE_READ_ROUND_TRIP"
  | .headAndTreeStableDuringQualification => "HEAD_AND_TREE_STABLE_DURING_QUALIFICATION"
  | .worktreeMatchesDeclaredCleanliness => "WORKTREE_MATCHES_DECLARED_CLEANLINESS"
  | .mutationScopeRespected => "MUTATION_SCOPE_RESPECTED"

def WorkspacePredicateOutcomeV1.toJson : WorkspacePredicateOutcomeV1 → Json
  | .passed => .object [("outcome", .string "PASSED")]
  | .failed reason => .object [("outcome", .string "FAILED"), ("reason", .string reason)]
  | .indeterminate reason => .object [("outcome", .string "INDETERMINATE"), ("reason", .string reason)]

def WorkspaceCustodyEvidenceV1.toJson (value : WorkspaceCustodyEvidenceV1) : Json :=
  .object [("predicate", .string value.predicate.name), ("observation_sha256", .string value.observationSha256),
    ("outcome", value.outcome.toJson)]

def CampaignStageQualificationEvidenceV1.toJson (value : CampaignStageQualificationEvidenceV1) : Json :=
  .object [("schema", .string value.schema), ("evidence_id", .string value.evidenceId),
    ("profile_id", .string value.profileId), ("profile_sha256", .string value.profileSha256),
    ("campaign_packet_sha256", .string value.campaignPacketSha256), ("stage_id", .string value.stageId),
    ("repository_id", .string value.repositoryId), ("repository_ref", .string value.repositoryRef),
    ("predecessor_head", value.predecessorHead.toJson), ("predecessor_tree", value.predecessorTree.toJson),
    ("result_head", value.resultHead.toJson), ("result_tree", value.resultTree.toJson), ("producer", value.producer.toJson),
    ("qualification_started_at_unix_ms", .integer value.qualificationStartedAtUnixMs.toNat),
    ("qualification_finished_at_unix_ms", .integer value.qualificationFinishedAtUnixMs.toNat),
    ("gates", .array (value.gates.map GateEvidenceV1.toJson)),
    ("artifacts", .array (value.artifacts.map ArtifactEvidenceV1.toJson)),
    ("workspace_custody", .array (value.workspaceCustody.map WorkspaceCustodyEvidenceV1.toJson)),
    ("observed_clean_worktree", value.observedCleanWorktree.elim .null .bool)]

/-- Artifacts and custody hold no numbers, so they do not decide whether the evidence has a
digest. -/
theorem validateIJsonNumbers_evidence (artifacts : List ArtifactEvidenceV1) (custody : List WorkspaceCustodyEvidenceV1) :
    validateIJsonNumbers { evidence with artifacts, workspaceCustody := custody }.toJson = .ok () ↔
      validateIJsonNumbers evidence.toJson = .ok () := by
  have artifactNumbers (listed : List ArtifactEvidenceV1) :
      validateIJsonItems (listed.map ArtifactEvidenceV1.toJson) = .ok () := by
    rw [validateIJsonItems_eq_ok, List.forall_mem_map]
    intro observed _
    cases sha : observed.sha256 <;> simp [ArtifactEvidenceV1.toJson, sha, validateIJsonNumbers, validateIJsonMembers_eq_ok]
  have custodyNumbers (listed : List WorkspaceCustodyEvidenceV1) :
      validateIJsonItems (listed.map WorkspaceCustodyEvidenceV1.toJson) = .ok () := by
    rw [validateIJsonItems_eq_ok, List.forall_mem_map]
    intro observed _
    cases outcome : observed.outcome <;>
      simp [WorkspaceCustodyEvidenceV1.toJson, WorkspacePredicateOutcomeV1.toJson, outcome, validateIJsonNumbers,
        validateIJsonMembers_eq_ok]
  simp only [CampaignStageQualificationEvidenceV1.toJson, validateIJsonNumbers, validateIJsonMembers_eq_ok,
    List.forall_mem_cons, artifactNumbers, custodyNumbers]

/-! ## The verdict -/

/-- The digests that the evaluation computes; the profile's is only compared. -/
def canonicalDigests (codec : Codec) (profileDigest : CampaignStageQualificationProfileV1 → String) : QualificationDigests where
  profile := profileDigest
  evidence value := canonicalSha256 codec value.toJson

variable (profile evidence) in
/-- Nothing required is missing or undecided. -/
structure EvidenceComplete : Prop where
  gates : GatesComplete profile evidence
  artifacts : ArtifactsComplete profile evidence
  custody : CustodyComplete profile evidence
  cleanliness : ∃ observed, evidence.observedCleanWorktree = some observed

variable (profile evidence) in
structure EverythingHolds : Prop where
  complete : EvidenceComplete profile evidence
  gates : ∀ pair ∈ gatePairs profile evidence, GatePasses pair
  artifacts : ArtifactsPresent profile evidence
  custody : CustodyPasses profile evidence
  cleanliness : evidence.observedCleanWorktree = some profile.expectedCleanWorktree

section Verdict

variable {digests : QualificationDigests} {evaluator : QualificationEvaluatorIdentityV1} {evaluatedAtUnixMs : UInt64}

theorem evaluate_complete (identity : identityHolds digests profile evidence evaluator evaluatedAtUnixMs = true)
    (complete : EvidenceComplete profile evidence) :
    ((evaluateCampaignStageQualification digests profile evidence evaluator evaluatedAtUnixMs).1 = .qualified ↔
      EverythingHolds profile evidence) ∧
    ((evaluateCampaignStageQualification digests profile evidence evaluator evaluatedAtUnixMs).1 = .failed ↔
      ¬ EverythingHolds profile evidence) := by
  classical
  obtain ⟨observed, seen⟩ := complete.cleanliness
  have gates := gatesAreWellFormed_eq_some.mpr ⟨complete.gates, show
    (!decide (∀ pair ∈ gatePairs profile evidence, GatePasses pair)) = false ↔ _ by simp⟩
  have artifacts := artifactsAreWellFormed_eq_some.mpr ⟨complete.artifacts, show
    (!decide (ArtifactsPresent profile evidence)) = false ↔ _ by simp⟩
  have custody := custodyIsWellFormed_eq_some.mpr ⟨complete.custody, show
    (!decide (CustodyPasses profile evidence)) = false ↔ _ by simp⟩
  have holds : EverythingHolds profile evidence ↔ (∀ pair ∈ gatePairs profile evidence, GatePasses pair) ∧
      ArtifactsPresent profile evidence ∧ CustodyPasses profile evidence ∧ observed = profile.expectedCleanWorktree := by
    constructor
    · rintro ⟨-, gates, artifacts, custody, clean⟩
      exact ⟨gates, artifacts, custody, Option.some.inj (seen.symm.trans clean)⟩
    · rintro ⟨gates, artifacts, custody, rfl⟩
      exact ⟨complete, gates, artifacts, custody, seen⟩
  rw [evaluateCampaignStageQualification, identity, gates, artifacts, custody, seen, holds]
  dsimp only
  split
  · rename_i failed
    simp only [Bool.or_eq_true, Bool.not_eq_true', decide_eq_false_iff_not, bne_iff_ne, ne_eq] at failed
    exact ⟨iff_of_false nofun (by tauto), iff_of_true rfl (by tauto)⟩
  · rename_i passed
    simp only [Bool.or_eq_true, Bool.not_eq_true', decide_eq_false_iff_not, bne_iff_ne, ne_eq] at passed
    exact ⟨iff_of_true rfl (by tauto), iff_of_false nofun (by tauto)⟩

theorem evaluate_incomplete (incomplete : ¬ EvidenceComplete profile evidence) :
    evaluateCampaignStageQualification digests profile evidence evaluator evaluatedAtUnixMs =
      (.indeterminate, [.evidenceIncomplete, .contractOrIdentityMismatch]) := by
  rw [evaluateCampaignStageQualification]
  split
  · rename_i gates artifacts custody seen
    exact absurd ⟨(gatesAreWellFormed_eq_some.mp gates).1, (artifactsAreWellFormed_eq_some.mp artifacts).1,
      (custodyIsWellFormed_eq_some.mp custody).1, _, seen⟩ incomplete
  · rfl

variable {artifacts : List ArtifactEvidenceV1} {custody : List WorkspaceCustodyEvidenceV1}

theorem artifactsAreWellFormed_perm (perm : artifacts.Perm evidence.artifacts) :
    artifactsAreWellFormed profile { evidence with artifacts, workspaceCustody := custody } =
      artifactsAreWellFormed profile evidence := by
  refine Option.ext fun failed => ?_
  simp only [artifactsAreWellFormed_eq_some, artifactsComplete_iff, ArtifactsPresent, perm.mem_iff,
    (perm.map _).congr_left]

theorem custodyIsWellFormed_perm (perm : custody.Perm evidence.workspaceCustody) :
    custodyIsWellFormed profile { evidence with artifacts, workspaceCustody := custody } =
      custodyIsWellFormed profile evidence := by
  refine Option.ext fun failed => ?_
  simp only [custodyIsWellFormed_eq_some, custodyComplete_iff, CustodyPasses, perm.mem_iff, (perm.map _).congr_left]

theorem identityHolds_reordered {codec : Codec} {profileDigest : CampaignStageQualificationProfileV1 → String} :
    identityHolds (canonicalDigests codec profileDigest) profile { evidence with artifacts, workspaceCustody := custody }
        evaluator evaluatedAtUnixMs =
      identityHolds (canonicalDigests codec profileDigest) profile evidence evaluator evaluatedAtUnixMs := by
  have digested : isSha256Digest (canonicalSha256 codec { evidence with artifacts, workspaceCustody := custody }.toJson) =
      isSha256Digest (canonicalSha256 codec evidence.toJson) := by
    rw [Bool.eq_iff_iff, isSha256Digest_canonicalSha256, isSha256Digest_canonicalSha256, validateIJsonNumbers_evidence]
  simp only [identityHolds, canonicalDigests, digested]
  rfl

end Verdict

/-- The evaluation returns for every profile and evidence. A stage whose identities hold
qualifies exactly when everything required held, and fails exactly when the evidence is
complete and something did not; incomplete evidence leaves it indeterminate, and the order
of the artifacts and of the custody evidence does not matter. -/
theorem stageVerdict_exact (codec : Codec) (profileDigest : CampaignStageQualificationProfileV1 → String)
    (profile : CampaignStageQualificationProfileV1) (evidence : CampaignStageQualificationEvidenceV1)
    (evaluator : QualificationEvaluatorIdentityV1) (evaluatedAtUnixMs : UInt64) :
    let digests := canonicalDigests codec profileDigest
    let verdict := evaluateCampaignStageQualification digests profile evidence evaluator evaluatedAtUnixMs
    artifactsOrPanic profile evidence = .ok (artifactsAreWellFormed profile evidence) ∧
      (identityHolds digests profile evidence evaluator evaluatedAtUnixMs = true →
        (verdict.1 = .qualified ↔ EverythingHolds profile evidence) ∧
        (verdict.1 = .failed ↔ EvidenceComplete profile evidence ∧ ¬ EverythingHolds profile evidence)) ∧
      (¬ EvidenceComplete profile evidence → verdict.1 = .indeterminate) ∧
      ∀ (artifacts : List ArtifactEvidenceV1) (custody : List WorkspaceCustodyEvidenceV1),
        artifacts.Perm evidence.artifacts → custody.Perm evidence.workspaceCustody →
          evaluateCampaignStageQualification digests profile { evidence with artifacts, workspaceCustody := custody }
            evaluator evaluatedAtUnixMs = verdict := by
  intro digests verdict
  refine ⟨artifactsOrPanic_eq profile evidence, fun identity => ?_, fun incomplete => ?_, ?_⟩
  · by_cases complete : EvidenceComplete profile evidence
    · obtain ⟨qualified, failed⟩ := evaluate_complete identity complete
      exact ⟨qualified, failed.trans (and_iff_right complete).symm⟩
    · have indeterminate : verdict = _ := evaluate_incomplete complete
      rw [indeterminate]
      exact ⟨iff_of_false nofun fun holds => complete holds.complete, iff_of_false nofun fun failed => complete failed.1⟩
  · have indeterminate : verdict = _ := evaluate_incomplete incomplete
    rw [indeterminate]
  · intro artifacts custody artifactPerm custodyPerm
    change _ = evaluateCampaignStageQualification digests profile evidence evaluator evaluatedAtUnixMs
    rw [evaluateCampaignStageQualification, evaluateCampaignStageQualification, identityHolds_reordered,
      artifactsAreWellFormed_perm artifactPerm, custodyIsWellFormed_perm custodyPerm]
    rfl

end ConstellationNq.Core
