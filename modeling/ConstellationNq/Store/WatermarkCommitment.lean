import Mathlib.Data.List.Forall2
import ConstellationNq.Store.HistoryScope

/-!
# The commitment of a validation watermark

A watermark carries the digest of its store identity, its rule sets, the
certified frontier and the semantic replay state. The bytes that are hashed
frame most texts and the list of evaluation heads with their length; the texts
of a table's frontier and the list of lineage heads stand there as they are.
-/

set_option autoImplicit false

namespace ConstellationNq.Store

open Library.Text Library.Delimiting

def validationWatermarkSchema : String := "nq.validation_watermark.v4"

structure LineageHead where
  lineage : String
  findingId : String
  eventRevision : Int
  conditionState : String
deriving DecidableEq

structure EvaluationHead where
  lineage : String
  evaluationSequence : Int
  evaluationRevision : Int
deriving DecidableEq

structure SemanticState where
  lineageHeads : List LineageHead
  evaluationHeads : List EvaluationHead
deriving DecidableEq

structure RetentionWitness where
  generation : Int
  evaluationFloor : Int
  reportFloor : Int
  intakeFloor : Int
  statusFloor : Int
  lineageFloorsDigest : String
deriving DecidableEq

structure CommittedWatermark extends ValidationWatermark where
  schema : String
  validationRules : String
  engineRules : String
  genesisId : String
  schemaVersion : Int
  schemaArtifactDigest : String
  retention : RetentionWitness
  commitmentDigest : String
  semantic : Option SemanticState

def framedText (text : String) : List UInt8 :=
  bigEndian64 (utf8Bytes text).length ++ utf8Bytes text

def RetentionWitness.hashInto (retention : RetentionWitness) : List UInt8 :=
  utf8Bytes "\nretention" ++ [0] ++ bigEndian64 retention.generation ++ bigEndian64 retention.evaluationFloor ++
    bigEndian64 retention.reportFloor ++ bigEndian64 retention.intakeFloor ++ bigEndian64 retention.statusFloor ++
    framedText retention.lineageFloorsDigest

def TableFrontier.hashInto (table : String) (recorded : TableFrontier) : List UInt8 :=
  utf8Bytes "\ntable" ++ [0] ++ utf8Bytes table ++ bigEndian64 (recorded.maxRowid.getD 0) ++
    bigEndian64 recorded.rows ++ utf8Bytes recorded.accumulator ++ utf8Bytes (recorded.boundary.getD "")

def HistoryFrontier.hashInto (frontier : HistoryFrontier) : List UInt8 :=
  (frontier.tables.toList.flatMap fun entry => entry.2.hashInto entry.1) ++ bigEndian64 frontier.evaluationSequence

def LineageHead.hashInto (head : LineageHead) : List UInt8 :=
  framedText head.lineage ++ framedText head.findingId ++ framedText head.conditionState ++
    bigEndian64 head.eventRevision

def EvaluationHead.hashInto (head : EvaluationHead) : List UInt8 :=
  framedText head.lineage ++ bigEndian64 head.evaluationSequence ++ bigEndian64 head.evaluationRevision

/-- Only the second list is preceded by its length. -/
def SemanticState.hashInto (state : SemanticState) : List UInt8 :=
  state.lineageHeads.flatMap LineageHead.hashInto ++
    (bigEndian64 state.evaluationHeads.length ++ state.evaluationHeads.flatMap EvaluationHead.hashInto)

namespace CommittedWatermark

end CommittedWatermark

/-! ## What the types of the source hold -/

def Short (text : String) : Prop := (utf8Bytes text).length < 2 ^ 56

structure RetentionWitness.Typed (retention : RetentionWitness) : Prop where
  generation : IsInt64 retention.generation
  evaluationFloor : IsInt64 retention.evaluationFloor
  reportFloor : IsInt64 retention.reportFloor
  intakeFloor : IsInt64 retention.intakeFloor
  statusFloor : IsInt64 retention.statusFloor
  lineageFloorsDigest : Short retention.lineageFloorsDigest

structure TableFrontier.Typed (recorded : TableFrontier) : Prop where
  maxRowid : ∀ bound ∈ recorded.maxRowid, IsInt64 bound
  rows : IsInt64 recorded.rows

structure LineageHead.Typed (head : LineageHead) : Prop where
  lineage : Short head.lineage
  findingId : Short head.findingId
  eventRevision : IsInt64 head.eventRevision
  conditionState : Short head.conditionState

structure EvaluationHead.Typed (head : EvaluationHead) : Prop where
  lineage : Short head.lineage
  evaluationSequence : IsInt64 head.evaluationSequence
  evaluationRevision : IsInt64 head.evaluationRevision

structure SemanticState.Typed (state : SemanticState) : Prop where
  lineageHeads : ∀ head ∈ state.lineageHeads, head.Typed
  evaluationHeads : ∀ head ∈ state.evaluationHeads, head.Typed
  few : state.evaluationHeads.length < 2 ^ 56

structure CommittedWatermark.Typed (watermark : CommittedWatermark) : Prop where
  schema : Short watermark.schema
  validationRules : Short watermark.validationRules
  engineRules : Short watermark.engineRules
  genesisId : Short watermark.genesisId
  schemaVersion : IsInt64 watermark.schemaVersion
  schemaArtifactDigest : Short watermark.schemaArtifactDigest
  retention : watermark.retention.Typed
  tables : ∀ entry ∈ watermark.frontier.tables.toList, entry.2.Typed
  evaluationSequence : IsInt64 watermark.frontier.evaluationSequence
  semantic : ∀ state ∈ watermark.semantic, state.Typed

/-! ## The fields -/

theorem delimited_length : Delimited (fun size : Nat => bigEndian64 size) fun size => size < 2 ^ 56 := by
  intro left right leftShort rightShort
  exact delimited_size (by omega) (by omega)

theorem delimited_text : Delimited framedText Short :=
  delimited_of_prefixed delimited_length (fun _ short => short) fun _ _ _ _ same => utf8Bytes_injective same

theorem RetentionWitness.delimited : Delimited RetentionWitness.hashInto RetentionWitness.Typed := by
  intro left right leftTyped rightTyped after others same
  simp only [RetentionWitness.hashInto, List.append_assoc, List.append_cancel_left_eq] at same
  obtain ⟨generation, same⟩ := delimited_integer leftTyped.generation rightTyped.generation same
  obtain ⟨evaluationFloor, same⟩ := delimited_integer leftTyped.evaluationFloor rightTyped.evaluationFloor same
  obtain ⟨reportFloor, same⟩ := delimited_integer leftTyped.reportFloor rightTyped.reportFloor same
  obtain ⟨intakeFloor, same⟩ := delimited_integer leftTyped.intakeFloor rightTyped.intakeFloor same
  obtain ⟨statusFloor, same⟩ := delimited_integer leftTyped.statusFloor rightTyped.statusFloor same
  obtain ⟨digest, rest⟩ := delimited_text leftTyped.lineageFloorsDigest rightTyped.lineageFloorsDigest same
  obtain ⟨⟩ := left
  obtain ⟨⟩ := right
  simp_all

theorem LineageHead.delimited : Delimited LineageHead.hashInto LineageHead.Typed := by
  intro left right leftTyped rightTyped after others same
  simp only [LineageHead.hashInto, List.append_assoc] at same
  obtain ⟨lineage, same⟩ := delimited_text leftTyped.lineage rightTyped.lineage same
  obtain ⟨findingId, same⟩ := delimited_text leftTyped.findingId rightTyped.findingId same
  obtain ⟨conditionState, same⟩ := delimited_text leftTyped.conditionState rightTyped.conditionState same
  obtain ⟨eventRevision, rest⟩ := delimited_integer leftTyped.eventRevision rightTyped.eventRevision same
  obtain ⟨⟩ := left
  obtain ⟨⟩ := right
  simp_all

theorem EvaluationHead.delimited : Delimited EvaluationHead.hashInto EvaluationHead.Typed := by
  intro left right leftTyped rightTyped after others same
  simp only [EvaluationHead.hashInto, List.append_assoc] at same
  obtain ⟨lineage, same⟩ := delimited_text leftTyped.lineage rightTyped.lineage same
  obtain ⟨sequence, same⟩ := delimited_integer leftTyped.evaluationSequence rightTyped.evaluationSequence same
  obtain ⟨revision, rest⟩ := delimited_integer leftTyped.evaluationRevision rightTyped.evaluationRevision same
  obtain ⟨⟩ := left
  obtain ⟨⟩ := right
  simp_all

/-! ## The unframed parts -/

/-- Where two bounds are written alike, both or neither is there, and so are the
boundaries, which are equally long. -/
structure TableFrontier.Aligned (left right : TableFrontier) : Prop where
  accumulator : (utf8Bytes left.accumulator).length = (utf8Bytes right.accumulator).length
  bounded : left.maxRowid.getD 0 = right.maxRowid.getD 0 →
    left.maxRowid.isSome = right.maxRowid.isSome ∧ left.boundary.isSome = right.boundary.isSome ∧
      (utf8Bytes (left.boundary.getD "")).length = (utf8Bytes (right.boundary.getD "")).length

/-- The lineage of a head is a text that starts with something else than a NUL. -/
def LineageHead.Named (head : LineageHead) : Prop :=
  ∃ byte rest, utf8Bytes head.lineage = byte :: rest ∧ byte ≠ 0

/-- Equally many heads, or none whose lineage could be a count. -/
def ToldApart (left right : List LineageHead) : Prop :=
  left.length = right.length ∨ (∀ head ∈ left, head.Named) ∧ ∀ head ∈ right, head.Named

theorem ToldApart.tail {head other : LineageHead} {left right : List LineageHead}
    (apart : ToldApart (head :: left) (other :: right)) : ToldApart left right := by
  rcases apart with lengths | ⟨leftNamed, rightNamed⟩
  · exact .inl (Nat.succ.inj lengths)
  · exact .inr ⟨fun entry member => leftNamed entry (List.mem_cons_of_mem _ member),
      fun entry member => rightNamed entry (List.mem_cons_of_mem _ member)⟩

namespace CommittedWatermark

/-- The framed fields that come first. -/
def header (watermark : CommittedWatermark) :=
  (watermark.schema, watermark.validationRules, watermark.engineRules, watermark.genesisId,
    watermark.schemaArtifactDigest, watermark.schemaVersion, watermark.retention)

/-- The unframed parts of two watermarks are equally long where they could be confused. -/
structure Aligned (left right : CommittedWatermark) : Prop where
  tables : List.Forall₂ (fun entry other => entry.1 = other.1 ∧ entry.2.Aligned other.2)
    left.frontier.tables.toList right.frontier.tables.toList
  lineages : ∀ state ∈ left.semantic, ∀ other ∈ right.semantic, ToldApart state.lineageHeads other.lineageHeads

variable {sha256 : Sha256} {left right : CommittedWatermark}

end CommittedWatermark

namespace CommitmentSample

def untouched : TableFrontier where
  maxRowid := none
  rows := 0
  accumulator := "0000000000000000000000000000000000000000000000000000000000000000"
  boundary := none

def frontier : HistoryFrontier where
  tables := historyTables.foldl (fun tables table => tables.insert table untouched) ∅
  evaluationSequence := 0

def watermark (state : SemanticState) : CommittedWatermark where
  frontier := frontier
  validatedAt := "2026-01-01T00:00:00Z"
  schema := validationWatermarkSchema
  validationRules := "nq"
  engineRules := "nq"
  genesisId := "nq"
  schemaVersion := 0
  schemaArtifactDigest := "nq"
  retention := {
    generation := 0
    evaluationFloor := 0
    reportFloor := 0
    intakeFloor := 0
    statusFloor := 0
    lineageFloorsDigest := "nq" }
  commitmentDigest := "nq"
  semantic := some state

/-- Short texts and small numbers. -/
def small (state : SemanticState) : Bool :=
  state.lineageHeads.all (fun head => (utf8Bytes head.lineage).length ≤ 64 && (utf8Bytes head.findingId).length ≤ 64 &&
    (utf8Bytes head.conditionState).length ≤ 64 && 0 ≤ head.eventRevision && head.eventRevision < 2 ^ 63) &&
  state.evaluationHeads.all (fun head => (utf8Bytes head.lineage).length ≤ 64 && 0 ≤ head.evaluationSequence &&
    head.evaluationSequence < 2 ^ 63 && 0 ≤ head.evaluationRevision && head.evaluationRevision < 2 ^ 63) &&
  state.evaluationHeads.length ≤ 64

end CommitmentSample

end ConstellationNq.Store
