import ConstellationNq.Store.Capacity
import Mathlib.Tactic.Ring

/-!
# Soundness of the operating envelope

What a derived envelope promises, on the numbers that its words stand for: nothing in
its derivation wraps, so the promises hold without a modulus.
-/

set_option autoImplicit false

namespace ConstellationNq.Store

open Library.Word

/-- A refusal other than the last one, which the earlier checks make impossible. -/
def CapacityFault.Reported (fault : CapacityFault) : Prop :=
  fault ≠ .overflow ∧ fault ≠ .refusal "aggregate bound calculation failed"

/-! ## The operations -/

section Operations

variable {α : Type}

section Refusals

variable (message : String) (other : message ≠ "aggregate bound calculation failed")

include other

private theorem reported_of_ne : (CapacityFault.refusal message).Reported :=
  ⟨nofun, fun same => other (CapacityFault.refusal.inj same)⟩

theorem orRefuse_meets (computed : Option α) :
    Meets (orRefuse message computed) (fun value => computed = some value) CapacityFault.Reported := by
  cases computed with
  | none => exact ⟨nofun, fun fault raised => Except.error.inj raised ▸ reported_of_ne message other⟩
  | some value => exact .pure rfl

theorem permit_meets (holds : Bool) :
    Meets (permit holds message) (fun _ => holds = true) CapacityFault.Reported := by
  unfold permit
  cases holds with
  | false => exact ⟨nofun, fun fault raised => Except.error.inj raised ▸ reported_of_ne message other⟩
  | true => exact .pure rfl

theorem difference_meets (left right : UInt64) :
    Meets (orRefuse message (checkedSub left right)) (fun difference => difference.toNat + right.toNat = left.toNat)
      CapacityFault.Reported := by
  have checked := orRefuse_meets message other (checkedSub left right)
  exact ⟨fun difference returned => checkedSub_eq_some.mp (checked.value difference returned), checked.fault⟩

theorem product_meets (left right : UInt64) :
    Meets (orRefuse message (checkedMul left right)) (fun product => product.toNat = left.toNat * right.toNat)
      CapacityFault.Reported := by
  have checked := orRefuse_meets message other (checkedMul left right)
  exact ⟨fun product returned => checkedMul_eq_some.mp (checked.value product returned), checked.fault⟩

end Refusals

theorem add_meets (left right : UInt64) :
    Meets (add left right) (fun sum => sum.toNat = left.toNat + right.toNat) CapacityFault.Reported := by
  have checked := orRefuse_meets "byte arithmetic overflow" (by decide) (checkedAdd left right)
  exact ⟨fun sum returned => checkedAdd_eq_some.mp (checked.value sum returned), checked.fault⟩

theorem plain_meets {computed : Option α} (value : α) (fits : computed = some value) :
    Meets (plain computed) (fun result => result = value) CapacityFault.Reported := by
  rw [fits]
  exact .pure rfl

end Operations

/-! ## The parts of the derivation -/

/-- The index of a log takes eight bytes for each of its frames, rounded up to regions. -/
def shmRegions (frames : Nat) : Nat := (frames + 34 + 4095) / 4096

theorem shmAllowance_meets (frames : UInt64) :
    Meets (shmAllowance frames) (fun bytes => bytes.toNat = shmRegions frames.toNat * 32768)
      CapacityFault.Reported := by
  unfold shmAllowance
  refine (add_meets _ _).bind fun indexed indexedEq => ?_
  refine (add_meets _ _).bind fun rounded roundedEq => ?_
  have product := product_meets "SHM bound overflow" (by decide) (rounded / shmFramesPerRegion)
    shmRegionBytes
  refine ⟨fun bytes returned => ?_, product.fault⟩
  have first : (shmFramesPerRegion - shmFirstRegionFrames).toNat = 34 := rfl
  have last : (shmFramesPerRegion - 1).toNat = 4095 := rfl
  rw [first] at indexedEq
  rw [last, indexedEq] at roundedEq
  have perRegion : shmFramesPerRegion.toNat = 4096 := rfl
  have regionBytes : shmRegionBytes.toNat = 32768 := rfl
  have computed := product.value bytes returned
  rw [UInt64.toNat_div, perRegion, regionBytes, roundedEq] at computed
  unfold shmRegions
  exact computed

theorem shmRegions_le (frames : Nat) : shmRegions frames * 32768 ≤ 8 * frames + 33032 := by
  have whole : shmRegions frames * 4096 ≤ frames + 34 + 4095 := Nat.div_mul_le_self _ _
  calc shmRegions frames * 32768
      = 8 * (shmRegions frames * 4096) := by ring
    _ ≤ 8 * (frames + 34 + 4095) := Nat.mul_le_mul_left 8 whole
    _ = 8 * frames + 33032 := by ring

theorem fifth_fits (total : UInt64) :
    ∃ fifth, checkedAdd (total / 5) (if total % 5 = 0 then 0 else 1) = some fifth := by
  have bounded := total.toNat_lt
  have quotient : (total / 5).toNat ≤ total.toNat / 5 := le_of_eq (UInt64.toNat_div total 5)
  have carry : (if total % 5 = 0 then 0 else 1 : UInt64).toNat ≤ 1 := by split <;> decide
  unfold checkedAdd
  rw [if_pos (by omega)]
  exact ⟨_, rfl⟩

namespace OperatingEnvelope

variable {policy : CapacityPolicy} {observed : CapacityObservation}

theorem admitReserve_meets (policy : CapacityPolicy) (observed : CapacityObservation) :
    Meets (admitReserve policy observed) (fun _ => True) CapacityFault.Reported := by
  unfold admitReserve
  split
  · obtain ⟨fifth, fits⟩ := fifth_fits observed.totalBytes
    have resolves : Meets (resolvePolicy policy.horizonSeconds policy.byteCeiling none (some policy.auxiliaryBytes)
        observed) (fun _ => True) CapacityFault.Reported := by
      unfold resolvePolicy
      refine (permit_meets _ (by decide) _).bind fun _ _ => ?_
      refine (plain_meets fifth fits).bind fun _ _ => ?_
      exact .pure trivial
    refine resolves.bind fun resolved _ => ?_
    exact ⟨fun _ _ => trivial, (permit_meets _ (by decide) _).fault⟩
  · exact .pure trivial

theorem aggregate_meets (policy : CapacityPolicy) (observed : CapacityObservation) :
    Meets (aggregate policy observed) (fun aggregateBytes => aggregateBytes.toNat + policy.reserveBytes.toNat ≤
      observed.availableBytes.toNat + observed.occupiedBytes.toNat) CapacityFault.Reported := by
  unfold aggregate
  refine (add_meets _ _).bind fun filesystem filesystemEq => ?_
  refine (difference_meets _ (by decide) _ _).bind fun capacity capacityEq => ?_
  refine (difference_meets _ (by decide) _ _).bind fun free freeEq => ?_
  refine (add_meets _ _).bind fun automatic automaticEq => ?_
  refine (permit_meets _ (by decide) _).bind fun _ within => ?_
  have bounded := UInt64.le_iff_toNat_le.mp (of_decide_eq_true within)
  exact .pure (by omega)

theorem overhead_meets (policy : CapacityPolicy) {frames : UInt64} (few : frames.toNat ≤ 123) (bytes : UInt64) :
    Meets (overhead policy frames bytes) (fun overheadBytes => overheadBytes.toNat =
      4194304 + policy.auxiliaryBytes.toNat + (33040 + (bytes.toNat + frames.toNat * 8))) CapacityFault.Reported := by
  unfold overhead
  have slackEq : checkedMul frames 8 = some (frames * 8) := by
    unfold checkedMul
    rw [if_pos (by change frames.toNat * 8 < _; omega)]
  have slackNat : (frames * 8).toNat = frames.toNat * 8 := checkedMul_eq_some.mp slackEq
  refine (add_meets _ _).bind fun allowances allowancesEq => ?_
  refine (plain_meets _ slackEq).bind fun slack sameSlack => ?_
  subst sameSlack
  refine (add_meets _ _).bind fun padding paddingEq => ?_
  refine (plain_meets 272 (by decide)).bind fun region regionEq => ?_
  subst regionEq
  refine (plain_meets 33040 (by decide)).bind fun index indexEq => ?_
  subst indexEq
  refine (add_meets _ _).bind fun indexed indexedEq => ?_
  have total := add_meets allowances indexed
  refine ⟨fun overheadBytes returned => ?_, total.fault⟩
  rw [total.value overheadBytes returned, allowancesEq, indexedEq, paddingEq, slackNat]
  rfl

/-- The pages that fit a single file: the main file and the log stay a page, and no less
than 4096 bytes, below it. -/
structure FileFits (observed : CapacityObservation) (pageSize frameBytes paddingBytes pages : Nat) : Prop where
  main : ∀ limit ∈ observed.fileLimitBytes, pages * pageSize + max pageSize 4096 ≤ limit.toNat
  wal : ∀ limit ∈ observed.fileLimitBytes, 0 < pages →
    pages * frameBytes + (32 + paddingBytes) + max pageSize 4096 ≤ limit.toNat

theorem FileFits.mono {pageSize frameBytes paddingBytes pages fewer : Nat}
    (fits : FileFits observed pageSize frameBytes paddingBytes pages) (fewerPages : fewer ≤ pages) :
    FileFits observed pageSize frameBytes paddingBytes fewer where
  main := by
    intro limit limited
    have := fits.main limit limited
    have := Nat.mul_le_mul_right pageSize fewerPages
    omega
  wal := by
    intro limit limited positive
    have := fits.wal limit limited (by omega)
    have := Nat.mul_le_mul_right frameBytes fewerPages
    omega

/-- The padding of the log counted in frames: both files keep their margin. -/
theorem FileFits.margins {pageSize padding pages : Nat}
    (fits : FileFits observed pageSize (pageSize + 24) (padding * (pageSize + 24)) pages) (positive : 0 < pages) :
    ∀ limit ∈ observed.fileLimitBytes, pages * pageSize + max pageSize 4096 ≤ limit.toNat ∧
      32 + (pages + padding) * (pageSize + 24) + max pageSize 4096 ≤ limit.toNat := by
  intro limit limited
  have walFile := fits.wal limit limited positive
  have frameCost : (pages + padding) * (pageSize + 24) = pages * (pageSize + 24) + padding * (pageSize + 24) :=
    Nat.add_mul _ _ _
  exact ⟨fits.main limit limited, by omega⟩

/-- The index of the log is smaller than the main file. -/
theorem FileFits.index {pageSize frameBytes paddingBytes padding pages : Nat}
    (fits : FileFits observed pageSize frameBytes paddingBytes pages) (smallest : 512 ≤ pageSize)
    (positive : 256 ≤ pages) (few : padding ≤ 123) :
    ∀ limit ∈ observed.fileLimitBytes, shmRegions (pages + padding) * 32768 + pageSize ≤ limit.toNat := by
  intro limit limited
  have short : 8 * (pages + padding) + 33032 ≤ pages * 512 := by omega
  calc shmRegions (pages + padding) * 32768 + pageSize
      ≤ pages * 512 + max pageSize 4096 := Nat.add_le_add ((shmRegions_le _).trans short) (le_max_left _ _)
    _ ≤ pages * pageSize + max pageSize 4096 := Nat.add_le_add_right (Nat.mul_le_mul_left _ smallest) _
    _ ≤ limit.toNat := fits.main limit limited

theorem withinFileLimit_meets {pageSize frameBytes paddingBytes maxPages : UInt64}
    (framed : 0 < frameBytes.toNat) :
    Meets (withinFileLimit observed pageSize frameBytes paddingBytes maxPages)
      (fun fitting => fitting.toNat ≤ maxPages.toNat ∧
        FileFits observed pageSize.toNat frameBytes.toNat paddingBytes.toNat fitting.toNat)
      CapacityFault.Reported := by
  unfold withinFileLimit
  cases limited : observed.fileLimitBytes with
  | none => exact .pure ⟨le_rfl, ⟨by simp [limited], by simp [limited]⟩⟩
  | some limit =>
      refine (difference_meets _ (by decide) _ _).bind fun usableFile usableEq => ?_
      refine (add_meets _ _).bind fun header headerEq => ?_
      refine .pure ?_
      have margin : (max pageSize 4096).toNat = max pageSize.toNat 4096 := toNat_max
      rw [toNat_min, toNat_min, UInt64.toNat_div, UInt64.toNat_div, toNat_saturatingSub]
      generalize fitting : min (min maxPages.toNat (usableFile.toNat / pageSize.toNat))
        ((usableFile.toNat - header.toNat) / frameBytes.toNat) = pages
      have mainPages : pages * pageSize.toNat ≤ usableFile.toNat :=
        le_trans (Nat.mul_le_mul_right _ (by omega)) (Nat.div_mul_le_self _ pageSize.toNat)
      have walPages : pages * frameBytes.toNat ≤ usableFile.toNat - header.toNat :=
        le_trans (Nat.mul_le_mul_right _ (by omega)) (Nat.div_mul_le_self _ frameBytes.toNat)
      refine ⟨by omega, ⟨?_, ?_⟩⟩
      · intro same limitedBy
        rw [limited, Option.mem_some_iff] at limitedBy
        subst limitedBy
        omega
      · intro same limitedBy positive
        rw [limited, Option.mem_some_iff] at limitedBy
        subst limitedBy
        have := Nat.mul_pos positive framed
        have thirtyTwo : (32 : UInt64).toNat = 32 := rfl
        omega

/-! ## The derived envelope -/

/-- What an envelope promises: the ceiling covers the largest main file with the largest
log, its index and the allowances, and leaves the reserve; the page limit is one that
SQLite knows and that the store has not passed; and no file reaches the file limit. -/
structure Sound (policy : CapacityPolicy) (observed : CapacityObservation) (pageSize existingPages : UInt64)
    (envelope : OperatingEnvelope) : Prop where
  covered : ∃ frames shmBytes, frames.toNat = envelope.maxPages.toNat + (paddingFrames (pageSize + 24)).toNat ∧
    shmAllowance frames = .ok shmBytes ∧
    envelope.mainBytes.toNat + envelope.walBytes.toNat + shmBytes.toNat +
      (fixedAllowance.toNat + policy.auxiliaryBytes.toNat) ≤ envelope.aggregateBytes.toNat ∧
    ∀ limit ∈ observed.fileLimitBytes, shmBytes.toNat + pageSize.toNat ≤ limit.toNat
  reserved : envelope.aggregateBytes.toNat + policy.reserveBytes.toNat ≤
    observed.availableBytes.toNat + observed.occupiedBytes.toNat
  mainBytes : envelope.mainBytes.toNat = envelope.maxPages.toNat * pageSize.toNat
  walBytes : envelope.walBytes.toNat =
    32 + (envelope.maxPages.toNat + (paddingFrames (pageSize + 24)).toNat) * (pageSize.toNat + 24)
  pages : minPages ≤ envelope.maxPages ∧ envelope.maxPages ≤ maxSqlitePages
  existing : existingPages ≤ envelope.maxPages
  mainFile : ∀ limit ∈ observed.fileLimitBytes, envelope.mainBytes.toNat + pageSize.toNat ≤ limit.toNat
  walFile : ∀ limit ∈ observed.fileLimitBytes, envelope.walBytes.toNat + pageSize.toNat ≤ limit.toNat

structure Derived (policy : CapacityPolicy) (observed : CapacityObservation) (pageSize existingPages : UInt64)
    (envelope : OperatingEnvelope) : Prop extends Sound policy observed pageSize existingPages envelope where
  version : envelope.schemaVersion = 2
  samePolicy : envelope.policy = policy
  sameObserved : envelope.observed = observed
  samePageSize : envelope.pageSize = pageSize
  smallest : 512 ≤ pageSize.toNat
  largest : pageSize.toNat ≤ 65536
  inodes : 8 ≤ observed.availableInodes
  margin : ∀ limit ∈ observed.fileLimitBytes,
    max envelope.mainBytes.toNat envelope.walBytes.toNat + max pageSize.toNat 4096 ≤ limit.toNat

theorem paddingFrames_le {frameBytes : UInt64} (framed : 536 ≤ frameBytes.toNat) :
    (paddingFrames frameBytes).toNat ≤ 123 := by
  have sector : (maxSqliteSectorBytes - 1).toNat = 65535 := rfl
  unfold paddingFrames
  rw [toNat_divCeil (by omega), sector, Nat.div_le_iff_le_mul (by omega)]
  omega

/-- Pages that fit the usable bytes are paid for by them. -/
theorem pages_paid {pages usable perPage : UInt64} (fitting : pages.toNat ≤ (usable / perPage).toNat) :
    pages.toNat * perPage.toNat ≤ usable.toNat := by
  rw [UInt64.toNat_div] at fitting
  exact le_trans (Nat.mul_le_mul_right _ fitting) (Nat.div_mul_le_self _ _)

/-- Each page costs itself twice, the header of its log frame and its entry in the index. -/
private theorem files_covered {pages pageSize usable : Nat} (padding : Nat) (fitting : pages * (pageSize * 2 + 32) ≤ usable) :
    pages * pageSize + (32 + (pages + padding) * (pageSize + 24)) + shmRegions (pages + padding) * 32768 ≤
      usable + 32 + (33032 + (padding * (pageSize + 24) + padding * 8)) := by
  have index := shmRegions_le (pages + padding)
  have pageCost : pages * (pageSize * 2 + 32) = 2 * (pages * pageSize) + 32 * pages := by ring
  have frameCost : (pages + padding) * (pageSize + 24) =
      pages * pageSize + 24 * pages + padding * (pageSize + 24) := by ring
  omega

theorem derive_meets (policy : CapacityPolicy) (observed : CapacityObservation) (pageSize existingPages : UInt64) :
    Meets (derive policy observed pageSize existingPages) (Derived policy observed pageSize existingPages)
      CapacityFault.Reported := by
  unfold derive
  refine (permit_meets _ (by decide) _).bind fun _ sized => ?_
  simp only [Bool.and_eq_true, decide_eq_true_eq, UInt64.le_iff_toNat_le] at sized
  have smallest : 512 ≤ pageSize.toNat := sized.2.1
  have largest : pageSize.toNat ≤ 65536 := sized.2.2
  refine (admitReserve_meets policy observed).bind fun _ _ => ?_
  refine (permit_meets _ (by decide) _).bind fun _ inodes => ?_
  refine (aggregate_meets policy observed).bind fun aggregateBytes reserved => ?_
  refine (add_meets pageSize 24).bind fun frameBytes frameEq => ?_
  have sameFrame : frameBytes = pageSize + 24 := by
    rw [← UInt64.toNat_inj, frameEq, UInt64.toNat_add, Nat.mod_eq_of_lt]
    change pageSize.toNat + 24 < _
    omega
  have frameNat : frameBytes.toNat = pageSize.toNat + 24 := frameEq
  have few := @paddingFrames_le frameBytes (by omega)
  refine (product_meets _ (by decide) _ _).bind fun paddingBytes paddingEq => ?_
  refine (overhead_meets policy few paddingBytes).bind fun overheadBytes overheadEq => ?_
  refine (add_meets overheadBytes 32).bind fun fixed fixedEq => ?_
  refine (difference_meets _ (by decide) _ _).bind fun usable usableEq => ?_
  refine (product_meets _ (by decide) _ _).bind fun twoPages twoPagesEq => ?_
  refine (add_meets twoPages 32).bind fun perPage perPageEq => ?_
  refine (withinFileLimit_meets (by omega)).bind fun fitting fits => ?_
  have perPageNat : perPage.toNat = pageSize.toNat * 2 + 32 := by
    rw [perPageEq, twoPagesEq]
    rfl
  have fixedNat : fixed.toNat = overheadBytes.toNat + 32 := fixedEq
  dsimp only
  have limited : (min fitting maxSqlitePages).toNat ≤ fitting.toNat ∧ (min fitting maxSqlitePages).toNat ≤
      maxSqlitePages.toNat := by
    rw [toNat_min]
    omega
  generalize min fitting maxSqlitePages = maxPages at limited ⊢
  refine (permit_meets _ (by decide) _).bind fun _ admitted => ?_
  simp only [Bool.and_eq_true, decide_eq_true_eq] at admitted
  have positive : 256 ≤ maxPages.toNat := UInt64.le_iff_toNat_le.mp admitted.1
  have pageCost := pages_paid (limited.1.trans fits.1)
  rw [perPageNat] at pageCost
  have file := fits.2.mono limited.1
  rw [frameNat] at paddingEq file
  rw [paddingEq] at file
  refine (product_meets _ (by decide) _ _).bind fun mainBytes mainEq => ?_
  refine (add_meets maxPages (paddingFrames frameBytes)).bind fun frames framesEq => ?_
  refine (product_meets _ (by decide) _ _).bind fun frameTotal frameTotalEq => ?_
  refine (add_meets 32 frameTotal).bind fun walBytes walEq => ?_
  have indexed := shmAllowance_meets frames
  cases allowed : shmAllowance frames with
  | error fault => exact ⟨nofun, fun same raised => Except.error.inj raised ▸ indexed.fault fault allowed⟩
  | ok shmBytes =>
      have shmEq := indexed.value shmBytes allowed
      rw [framesEq] at shmEq
      have walNat : walBytes.toNat = 32 + (maxPages.toNat + (paddingFrames frameBytes).toNat) *
          (pageSize.toNat + 24) := by
        rw [walEq, frameTotalEq, framesEq, frameNat]
        rfl
      have covered := files_covered (paddingFrames frameBytes).toNat pageCost
      have allowanceNat : fixedAllowance.toNat = 4194304 := rfl
      have within : mainBytes.toNat + walBytes.toNat + shmBytes.toNat +
          (fixedAllowance.toNat + policy.auxiliaryBytes.toNat) ≤ aggregateBytes.toNat := by
        rw [mainEq, walNat, shmEq]
        omega
      change Meets (add mainBytes walBytes >>= _) _ _
      refine (add_meets _ _).bind fun files filesEq => ?_
      refine (add_meets _ _).bind fun indexedFiles indexedFilesEq => ?_
      refine (add_meets _ _).bind fun allowances allowancesEq => ?_
      refine (add_meets _ _).bind fun total totalEq => ?_
      have fitsCeiling : total ≤ aggregateBytes := UInt64.le_iff_toNat_le.mpr (by omega)
      rw [decide_eq_true fitsCeiling]
      refine .pure ?_
      have margins := file.margins (by omega)
      have index := file.index smallest positive few
      rw [sameFrame] at framesEq walNat margins
      rw [← mainEq, ← walNat] at margins
      rw [← shmEq] at index
      have sound : Sound policy observed pageSize existingPages
          ⟨2, policy, observed, aggregateBytes, pageSize, maxPages, mainBytes, walBytes⟩ := by
        constructor
        case covered => exact ⟨frames, shmBytes, framesEq, allowed, within, index⟩
        case reserved => exact reserved
        case mainBytes => exact mainEq
        case walBytes => exact walNat
        case pages => exact ⟨admitted.1, UInt64.le_iff_toNat_le.mpr limited.2⟩
        case existing => exact admitted.2
        case mainFile =>
          intro limit limitedBy
          have := margins limit limitedBy
          dsimp only
          omega
        case walFile =>
          intro limit limitedBy
          have := margins limit limitedBy
          dsimp only
          omega
      refine { toSound := sound, version := rfl, samePolicy := rfl, sameObserved := rfl, samePageSize := rfl,
               smallest := smallest, largest := largest, inodes := of_decide_eq_true inodes, margin := ?_ }
      intro limit limitedBy
      have := margins limit limitedBy
      dsimp only
      omega

/-- Every derived envelope is sound, every arithmetic overflow is reported, and the last
check never fails. -/
theorem operating_envelope_sound (policy : CapacityPolicy) (observed : CapacityObservation)
    (pageSize existingPages : UInt64) :
    (∀ envelope, derive policy observed pageSize existingPages = .ok envelope →
      Sound policy observed pageSize existingPages envelope) ∧
    derive policy observed pageSize existingPages ≠ .error .overflow ∧
    derive policy observed pageSize existingPages ≠ .error (.refusal "aggregate bound calculation failed") := by
  have meets := derive_meets policy observed pageSize existingPages
  refine ⟨?_, ?_, ?_⟩
  · intro envelope derived
    exact (meets.value envelope derived).toSound
  · intro raised
    exact (meets.fault _ raised).1 rfl
  · intro raised
    exact (meets.fault _ raised).2 rfl

def weekPolicy : CapacityPolicy where
  horizonSeconds := 604800
  byteCeiling := some 1073741824
  reserveBytes := 1073741824
  reserveIsAutomatic := false
  auxiliaryBytes := 67108864

def roomyObservation : CapacityObservation where
  device := 1
  availableBytes := 8589934592
  totalBytes := 17179869184
  availableInodes := 100000
  fileLimitBytes := some 536870912
  occupiedBytes := 409600
  auxiliaryOccupiedBytes := 0

theorem operating_envelope_sound_week : ∃ envelope, derive weekPolicy roomyObservation 4096 100 = .ok envelope ∧
    envelope.maxPages = 121879 ∧ Sound weekPolicy roomyObservation 4096 100 envelope := by
  obtain ⟨sound, -, -⟩ := operating_envelope_sound weekPolicy roomyObservation 4096 100
  have derived : (derive weekPolicy roomyObservation 4096 100).toOption.map maxPages = some 121879 := by decide +kernel
  cases result : derive weekPolicy roomyObservation 4096 100 with
  | error fault =>
      rw [result] at derived
      cases derived
  | ok envelope =>
      rw [result] at derived
      exact ⟨envelope, rfl, Option.some.inj derived, sound envelope result⟩

end OperatingEnvelope

end ConstellationNq.Store
