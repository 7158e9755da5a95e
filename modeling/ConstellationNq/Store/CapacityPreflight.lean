import ConstellationNq.Library.Loop
import ConstellationNq.Store.CapacityProperties

/-!
# Preflight of a derived envelope

An envelope is checked again before every write. Under the observation it was derived
from, every bound that it was derived with holds again, so what is left to refuse is a
file that was already larger than its own bound.
-/

set_option autoImplicit false

namespace ConstellationNq.Store

open Library.Loop Library.Word

/-! ## The parts of the check -/

theorem add_eq_ok {left right : UInt64} (fits : left.toNat + right.toNat < 2 ^ 64) :
    ∃ sum, add left right = .ok sum ∧ sum.toNat = left.toNat + right.toNat := by
  have computed : checkedAdd left right = some (left + right) := by
    unfold checkedAdd
    rw [if_pos fits]
  refine ⟨left + right, ?_, checkedAdd_eq_some.mp computed⟩
  unfold add
  rw [computed]
  rfl

theorem checkedSub_eq_of_le {left right : UInt64} (below : right ≤ left) :
    ∃ difference, checkedSub left right = some difference ∧ difference.toNat + right.toNat = left.toNat := by
  have computed : checkedSub left right = some (left - right) := by
    unfold checkedSub
    rw [if_pos below]
  exact ⟨left - right, computed, checkedSub_eq_some.mp computed⟩

theorem permit_of {holds : Bool} {message : String} (held : holds = true) : permit holds message = .ok ⟨⟩ := by
  rw [held]
  rfl

namespace OperatingEnvelope

variable {policy : CapacityPolicy} {observed : CapacityObservation} {pageSize existingPages : UInt64}
variable {envelope : OperatingEnvelope} {disk : Disk}

theorem derive_without_pages (derived : derive policy observed pageSize existingPages = .ok envelope) :
    derive policy observed pageSize 0 = .ok envelope := by
  revert derived
  unfold derive
  iterate 12 refine bind_ok_mono fun _ => ?_
  intro admitted
  obtain ⟨passed, rest⟩ := check_bind_eq_ok.mp admitted
  refine check_bind_eq_ok.mpr ⟨permit_of ?_, rest⟩
  have within := (permit_meets _ (by decide) _).value _ passed
  rw [Bool.and_eq_true] at within ⊢
  exact ⟨within.1, decide_eq_true (UInt64.le_iff_toNat_le.mpr (Nat.zero_le _))⟩

namespace Derived

variable (derived : Derived policy observed pageSize existingPages envelope)

include derived

theorem walFrameCeiling {frames : UInt64}
    (counted : frames.toNat = envelope.maxPages.toNat + (paddingFrames (pageSize + 24)).toNat) :
    envelope.walFrameCeiling = .ok frames := by
  have smallest := derived.smallest
  have largest := derived.largest
  have walBytes := derived.walBytes
  have header : (32 : UInt64).toNat = 32 := rfl
  have frameHeader : (24 : UInt64).toNat = 24 := rfl
  obtain ⟨payload, payloadEq, payloadNat⟩ := @checkedSub_eq_of_le envelope.walBytes 32
    (UInt64.le_iff_toNat_le.mpr (by omega))
  obtain ⟨frameBytes, frameEq, frameNat⟩ := @add_eq_ok pageSize 24 (by omega)
  have quotient : payload / frameBytes = frames := by
    rw [← UInt64.toNat_inj, UInt64.toNat_div, frameNat, frameHeader]
    have whole : payload.toNat = frames.toNat * (pageSize.toNat + 24) := by
      rw [counted]
      omega
    rw [whole]
    exact Nat.mul_div_cancel _ (by omega)
  unfold OperatingEnvelope.walFrameCeiling
  rw [payloadEq, derived.samePageSize, frameEq]
  exact congrArg Except.ok quotient

theorem shmBound : ∃ shmBytes, envelope.shmBound = .ok shmBytes ∧ shmBytes.toNat ≤ envelope.mainBytes.toNat := by
  obtain ⟨frames, shmBytes, counted, allowed, -, -⟩ := derived.covered
  refine ⟨shmBytes, ?_, ?_⟩
  · unfold OperatingEnvelope.shmBound
    rw [derived.walFrameCeiling counted]
    exact allowed
  · have smallest := derived.smallest
    have regions := (shmAllowance_meets frames).value shmBytes allowed
    have index := shmRegions_le frames.toNat
    have least : 256 ≤ envelope.maxPages.toNat := UInt64.le_iff_toNat_le.mp derived.pages.1
    have few : (paddingFrames (pageSize + 24)).toNat ≤ 123 := by
      apply paddingFrames_le
      rw [UInt64.toNat_add, Nat.mod_eq_of_lt]
      · exact Nat.add_le_add_right smallest 24
      · have largest := derived.largest
        change pageSize.toNat + 24 < _
        omega
    have wide : envelope.maxPages.toNat * 512 ≤ envelope.maxPages.toNat * pageSize.toNat :=
      Nat.mul_le_mul_left _ smallest
    rw [derived.mainBytes]
    omega

theorem admitFileLimit {shmBytes : UInt64} (small : shmBytes.toNat ≤ envelope.mainBytes.toNat) :
    envelope.admitFileLimit shmBytes observed.fileLimitBytes = .ok ⟨⟩ := by
  cases limited : observed.fileLimitBytes with
  | none => rfl
  | some limit =>
      apply permit_of
      have margin := derived.margin limit limited
      have most : (4096 : UInt64).toNat = 4096 := rfl
      rw [decide_eq_true_eq, UInt64.le_iff_toNat_le, toNat_saturatingAdd, toNat_max, toNat_max, toNat_max,
        derived.samePageSize, most]
      omega

theorem remaining (occupied : observed.occupiedBytes ≤ envelope.aggregateBytes) : ∃ remaining needed,
    checkedSub envelope.aggregateBytes observed.occupiedBytes = some remaining ∧
      add policy.reserveBytes remaining = .ok needed ∧ needed ≤ observed.availableBytes := by
  obtain ⟨remaining, remainingEq, remainingNat⟩ := checkedSub_eq_of_le occupied
  have reserved := derived.reserved
  have bounded := observed.availableBytes.toNat_lt
  obtain ⟨needed, neededEq, neededNat⟩ := @add_eq_ok policy.reserveBytes remaining (by omega)
  exact ⟨remaining, needed, remainingEq, neededEq, UInt64.le_iff_toNat_le.mpr (by omega)⟩

theorem allowance : ∃ allowance, add fixedAllowance policy.auxiliaryBytes = .ok allowance ∧
    allowance.toNat = fixedAllowance.toNat + policy.auxiliaryBytes.toNat := by
  obtain ⟨_, _, _, _, covered, _⟩ := derived.covered
  have bounded := envelope.aggregateBytes.toNat_lt
  exact add_eq_ok (by omega)

end Derived

/-! ## Files within their bounds -/

structure FilesFit (envelope : OperatingEnvelope) (shmBytes : UInt64) (disk : Disk) : Prop where
  main : ∀ file ∈ disk.main, file.length ≤ envelope.mainBytes
  wal : ∀ file ∈ disk.wal, file.length ≤ envelope.walBytes
  shm : ∀ file ∈ disk.shm, file.length ≤ shmBytes
  journal : ∀ file ∈ disk.journal, file.length ≤ envelope.walBytes

theorem admitFile_eq_ok {cap : UInt64} {file : Option StoreFile} :
    admitFile cap file = .ok ⟨⟩ ↔ ∀ present ∈ file, present.length ≤ cap := by
  cases file with
  | none => simp [admitFile]
  | some file => by_cases fits : file.length ≤ cap <;> simp [admitFile, permit, fits]

theorem admitFiles_eq_ok {shmBytes : UInt64} :
    admitFiles envelope shmBytes disk = .ok ⟨⟩ ↔ FilesFit envelope shmBytes disk := by
  unfold admitFiles
  rw [check_bind_eq_ok, check_bind_eq_ok, check_bind_eq_ok, admitFile_eq_ok, admitFile_eq_ok, admitFile_eq_ok,
    admitFile_eq_ok]
  constructor
  · rintro ⟨main, wal, shm, journal⟩
    exact ⟨main, wal, shm, journal⟩
  · intro fit
    exact ⟨fit.main, fit.wal, fit.shm, fit.journal⟩

theorem admitFile_refused {cap : UInt64} {file : Option StoreFile} (larger : admitFile cap file ≠ .ok ⟨⟩) :
    admitFile cap file = .error (.refusal "existing SQLite file exceeds envelope") := by
  cases file with
  | none => exact absurd rfl larger
  | some file =>
      by_cases fits : file.length ≤ cap
      · exact absurd (permit_of (decide_eq_true fits)) larger
      · change permit (decide (file.length ≤ cap)) _ = _
        rw [decide_eq_false fits]
        rfl

private theorem refused_bind {first second : Except CapacityFault Unit} {fault : CapacityFault}
    (firstRefused : first ≠ .ok ⟨⟩ → first = .error fault) (secondRefused : second ≠ .ok ⟨⟩ → second = .error fault)
    (refused : (first >>= fun _ => second) ≠ .ok ⟨⟩) : (first >>= fun _ => second) = .error fault := by
  by_cases passed : first = .ok ⟨⟩
  · subst passed
    exact secondRefused refused
  · rw [firstRefused passed]
    rfl

theorem admitFiles_refused {shmBytes : UInt64} (larger : admitFiles envelope shmBytes disk ≠ .ok ⟨⟩) :
    admitFiles envelope shmBytes disk = .error (.refusal "existing SQLite file exceeds envelope") := by
  revert larger
  unfold admitFiles
  refine refused_bind ?_ (refused_bind ?_ (refused_bind ?_ ?_)) <;> exact admitFile_refused

theorem ofCapacity_eq_ok {α : Type} {computed : Except CapacityFault α} {value : α} :
    ofCapacity computed = .ok value ↔ computed = .ok value := by
  cases computed <;> simp [ofCapacity]

theorem preflight_eq_admitFiles (derived : derive policy observed pageSize existingPages = .ok envelope)
    (unchanged : observe disk = .ok observed) (occupied : observed.occupiedBytes ≤ envelope.aggregateBytes)
    (auxiliary : observed.auxiliaryOccupiedBytes.toNat ≤ fixedAllowance.toNat + policy.auxiliaryBytes.toNat)
    {shmBytes : UInt64} (bound : envelope.shmBound = .ok shmBytes) :
    envelope.preflight disk = ofCapacity (admitFiles envelope shmBytes disk) := by
  have sound := (derive_meets policy observed pageSize existingPages).value envelope derived
  obtain ⟨allowance, allowanceEq, allowanceNat⟩ := sound.allowance
  obtain ⟨remaining, needed, remainingEq, neededEq, available⟩ := sound.remaining occupied
  obtain ⟨sameBytes, sameBound, small⟩ := sound.shmBound
  cases bound.symm.trans sameBound
  have within : observed.auxiliaryOccupiedBytes ≤ allowance := UInt64.le_iff_toNat_le.mpr (by omega)
  unfold preflight
  rw [sound.samePolicy, sound.sameObserved, sound.samePageSize, derive_without_pages derived, unchanged, allowanceEq,
    sound.version, bound]
  simp only [ofCapacity, bind, Except.bind, admitEnvelope, permit, orRefuse, and_self, decide_true, if_true, within,
    sound.inodes, remainingEq, neededEq, available, sound.admitFileLimit small]

/-- Under the observation it was derived from, an envelope is derived again as it is, and
its preflight succeeds unless a file of the store is already larger than its own bound. -/
theorem derived_envelope_admits_itself_iff_files_fit (policy : CapacityPolicy) (observed : CapacityObservation)
    (pageSize existingPages : UInt64) (envelope : OperatingEnvelope) (disk : Disk)
    (derived : derive policy observed pageSize existingPages = .ok envelope)
    (unchanged : observe disk = .ok observed) (occupied : observed.occupiedBytes ≤ envelope.aggregateBytes)
    (auxiliary : observed.auxiliaryOccupiedBytes.toNat ≤ fixedAllowance.toNat + policy.auxiliaryBytes.toNat) :
    derive envelope.policy envelope.observed envelope.pageSize 0 = .ok envelope ∧
    ∃ shmBytes, envelope.shmBound = .ok shmBytes ∧
      (envelope.preflight disk = .ok ⟨⟩ ↔ FilesFit envelope shmBytes disk) ∧
      (¬ FilesFit envelope shmBytes disk →
        envelope.preflight disk = .error (.capacity (.refusal "existing SQLite file exceeds envelope"))) := by
  have sound := (derive_meets policy observed pageSize existingPages).value envelope derived
  obtain ⟨shmBytes, bound, -⟩ := sound.shmBound
  have checked := preflight_eq_admitFiles derived unchanged occupied auxiliary bound
  refine ⟨?_, shmBytes, bound, ?_, ?_⟩
  · rw [sound.samePolicy, sound.sameObserved, sound.samePageSize]
    exact derive_without_pages derived
  · rw [checked, ofCapacity_eq_ok, admitFiles_eq_ok]
  · intro larger
    rw [← admitFiles_eq_ok] at larger
    rw [checked, admitFiles_refused larger]
    rfl

def weekDisk : Disk where
  main := some ⟨409600, 800, true⟩
  wal := none
  shm := none
  journal := none
  auxiliary := 0
  device := 1
  blocksAvailable := 2097152
  blocks := 4194304
  fragmentSize := 4096
  filesAvailable := 100000
  fileLimit := some 536870912

theorem weekDisk_observed : observe weekDisk = .ok roomyObservation := by
  decide +kernel

/-- The envelope of `operating_envelope_sound_week`. -/
def weekEnvelope : OperatingEnvelope where
  schemaVersion := 2
  policy := weekPolicy
  observed := roomyObservation
  aggregateBytes := 1073741824
  pageSize := 4096
  maxPages := 121879
  mainBytes := 499216384
  walBytes := 502207432

theorem weekEnvelope_derived : derive weekPolicy roomyObservation 4096 100 = .ok weekEnvelope := by
  decide +kernel

theorem derived_envelope_admits_itself_week : weekEnvelope.preflight weekDisk = .ok ⟨⟩ := by
  obtain ⟨-, shmBytes, -, admits, -⟩ := derived_envelope_admits_itself_iff_files_fit weekPolicy roomyObservation 4096
    100 weekEnvelope weekDisk weekEnvelope_derived weekDisk_observed (by decide) (by decide)
  refine admits.mpr ⟨?_, nofun, nofun, nofun⟩
  intro file present
  cases present
  decide

def outgrownDisk : Disk :=
  { weekDisk with wal := some ⟨600000000, 1171875, true⟩, fileLimit := none }

theorem outgrown_log_refused : ∃ observed envelope, observe outgrownDisk = .ok observed ∧
    derive weekPolicy observed 4096 100 = .ok envelope ∧ observed.occupiedBytes ≤ envelope.aggregateBytes ∧
    observed.auxiliaryOccupiedBytes ≤ weekPolicy.auxiliaryBytes ∧
    envelope.preflight outgrownDisk = .error (.capacity (.refusal "existing SQLite file exceeds envelope")) := by
  refine ⟨{ roomyObservation with occupiedBytes := 600409600, fileLimitBytes := none },
    { weekEnvelope with
      observed := { roomyObservation with occupiedBytes := 600409600, fileLimitBytes := none } }, ?_⟩
  decide +kernel

end OperatingEnvelope

end ConstellationNq.Store
