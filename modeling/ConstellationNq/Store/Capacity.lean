import ConstellationNq.Library.Word

/-!
# Capacity admission

The operating envelope of a store: how many pages its main file may have such that the
main file, a full write-ahead log, its index and the fixed allowances stay within a
ceiling that leaves the reserve of the filesystem free.
-/

set_option autoImplicit false

namespace ConstellationNq.Store

open Library.Word

/-- Why no envelope was derived. An operation that is not checked has no refusal of its
own: where its result would not fit, it panics or wraps. -/
inductive CapacityFault where
  | refusal (message : String)
  | overflow
deriving DecidableEq

section Checks

variable {α : Type}

def orRefuse (message : String) : Option α → Except CapacityFault α
  | none => .error (.refusal message)
  | some value => .ok value

def plain : Option α → Except CapacityFault α
  | none => .error .overflow
  | some value => .ok value

def permit (holds : Bool) (message : String) : Except CapacityFault PUnit :=
  if holds then .ok ⟨⟩ else .error (.refusal message)

end Checks

def add (left right : UInt64) : Except CapacityFault UInt64 :=
  orRefuse "byte arithmetic overflow" (checkedAdd left right)

def fixedAllowance : UInt64 := 4194304
def minPages : UInt64 := 256
def maxSqlitePages : UInt64 := 4294967294
def maxSqliteSectorBytes : UInt64 := 65536
def shmRegionBytes : UInt64 := 32768
def shmFramesPerRegion : UInt64 := 4096
def shmFirstRegionFrames : UInt64 := 4062

structure CapacityPolicy where
  horizonSeconds : UInt64
  byteCeiling : Option UInt64
  reserveBytes : UInt64
  reserveIsAutomatic : Bool
  auxiliaryBytes : UInt64
deriving DecidableEq

structure CapacityObservation where
  device : UInt64
  availableBytes : UInt64
  totalBytes : UInt64
  availableInodes : UInt64
  fileLimitBytes : Option UInt64
  occupiedBytes : UInt64
  auxiliaryOccupiedBytes : UInt64
deriving DecidableEq

structure OperatingEnvelope where
  schemaVersion : UInt32
  policy : CapacityPolicy
  observed : CapacityObservation
  aggregateBytes : UInt64
  pageSize : UInt64
  maxPages : UInt64
  mainBytes : UInt64
  walBytes : UInt64
deriving DecidableEq

def resolvePolicy (horizonSeconds : UInt64) (byteCeiling reserveBytes auxiliaryBytes : Option UInt64)
    (observed : CapacityObservation) : Except CapacityFault CapacityPolicy := do
  permit (horizonSeconds != 0) "retention horizon must be positive"
  let fifth ← plain (checkedAdd (observed.totalBytes / 5) (if observed.totalBytes % 5 = 0 then 0 else 1))
  return {
    horizonSeconds := horizonSeconds
    byteCeiling := byteCeiling
    reserveBytes := reserveBytes.getD (max 1073741824 fifth)
    reserveIsAutomatic := reserveBytes.isNone
    auxiliaryBytes := auxiliaryBytes.getD 67108864 }

def shmAllowance (maxPages : UInt64) : Except CapacityFault UInt64 := do
  let indexed ← add maxPages (shmFramesPerRegion - shmFirstRegionFrames)
  let rounded ← add indexed (shmFramesPerRegion - 1)
  orRefuse "SHM bound overflow" (checkedMul (rounded / shmFramesPerRegion) shmRegionBytes)

namespace OperatingEnvelope

def isPowerOfTwo (value : UInt64) : Bool := value != 0 && value &&& (value - 1) == 0

variable (policy : CapacityPolicy)

/-- An automatic reserve is the one that the observation gives. -/
def admitReserve (observed : CapacityObservation) : Except CapacityFault PUnit :=
  if policy.reserveIsAutomatic then do
    let resolved ← resolvePolicy policy.horizonSeconds policy.byteCeiling none (some policy.auxiliaryBytes) observed
    permit (policy.reserveBytes == resolved.reserveBytes) "automatic reserve differs from admission observation"
  else .ok ⟨⟩

def aggregate (observed : CapacityObservation) : Except CapacityFault UInt64 := do
  let filesystem ← add observed.availableBytes observed.occupiedBytes
  let capacity ← orRefuse "filesystem reserve unavailable" (checkedSub filesystem policy.reserveBytes)
  let free ← orRefuse "filesystem reserve unavailable" (checkedSub observed.availableBytes policy.reserveBytes)
  let automatic ← add observed.occupiedBytes (free / 2)
  let aggregateBytes := policy.byteCeiling.getD automatic
  permit (aggregateBytes ≤ capacity) "requested ceiling exceeds capacity minus reserve"
  return aggregateBytes

/-- What is set aside beside the pages: the allowances, the index of the log and the
frames that fill a sector. -/
def overhead (paddingFrames paddingBytes : UInt64) : Except CapacityFault UInt64 := do
  let allowances ← add fixedAllowance policy.auxiliaryBytes
  let slack ← plain (checkedMul paddingFrames 8)
  let padding ← add paddingBytes slack
  let region ← plain (checkedMul (shmFramesPerRegion - shmFirstRegionFrames) 8)
  let index ← plain (checkedAdd shmRegionBytes region)
  let indexed ← add index padding
  add allowances indexed

/-- The pages whose main file and log stay within the limit on a single file. -/
def withinFileLimit (observed : CapacityObservation) (pageSize frameBytes paddingBytes maxPages : UInt64) :
    Except CapacityFault UInt64 :=
  match observed.fileLimitBytes with
  | none => .ok maxPages
  | some limit => do
      let margin := max pageSize 4096
      let usableFile ← orRefuse "per-file limit below required margin" (checkedSub limit margin)
      let header ← add 32 paddingBytes
      return min (min maxPages (usableFile / pageSize)) (saturatingSub usableFile header / frameBytes)

/-- The log frames that a commit may repeat to fill a sector. -/
def paddingFrames (frameBytes : UInt64) : UInt64 := divCeil (maxSqliteSectorBytes - 1) frameBytes

def derive (observed : CapacityObservation) (pageSize existingPages : UInt64) :
    Except CapacityFault OperatingEnvelope := do
  permit (policy.horizonSeconds != 0 && isPowerOfTwo pageSize && (512 ≤ pageSize && pageSize ≤ 65536))
    "invalid horizon or SQLite page size"
  admitReserve policy observed
  permit (8 ≤ observed.availableInodes) "insufficient free inodes"
  let aggregateBytes ← aggregate policy observed
  let frameBytes ← add pageSize 24
  let paddingBytes ← orRefuse "sector padding overflow" (checkedMul (paddingFrames frameBytes) frameBytes)
  let overheadBytes ← overhead policy (paddingFrames frameBytes) paddingBytes
  let fixed ← add overheadBytes 32
  let usable ← orRefuse "ceiling cannot cover fixed allowance" (checkedSub aggregateBytes fixed)
  let twoPages ← orRefuse "page arithmetic overflow" (checkedMul pageSize 2)
  let perPage ← add twoPages 32
  let fitting ← withinFileLimit observed pageSize frameBytes paddingBytes (usable / perPage)
  let maxPages := min fitting maxSqlitePages
  permit (minPages ≤ maxPages && existingPages ≤ maxPages) "main-file or WAL allowance cannot fit current store"
  let mainBytes ← orRefuse "main bound overflow" (checkedMul maxPages pageSize)
  let frames ← add maxPages (paddingFrames frameBytes)
  let frameTotal ← orRefuse "WAL bound overflow" (checkedMul frames frameBytes)
  let walBytes ← add 32 frameTotal
  let shmBytes ← shmAllowance frames
  let files ← add mainBytes walBytes
  let indexedFiles ← add files shmBytes
  let allowances ← add fixedAllowance policy.auxiliaryBytes
  let total ← add indexedFiles allowances
  permit (total ≤ aggregateBytes) "aggregate bound calculation failed"
  return {
    schemaVersion := 2
    policy := policy
    observed := observed
    aggregateBytes := aggregateBytes
    pageSize := pageSize
    maxPages := maxPages
    mainBytes := mainBytes
    walBytes := walBytes }

end OperatingEnvelope

/-! ## Preflight -/

/-- Why an envelope was not admitted: a resource refusal, or an envelope or a file that
cannot be honoured at all. -/
inductive PreflightFault where
  | capacity (fault : CapacityFault)
  | envelope (message : String)
deriving DecidableEq

def ofCapacity {α : Type} : Except CapacityFault α → Except PreflightFault α
  | .ok value => .ok value
  | .error fault => .error (.capacity fault)

def admitEnvelope (holds : Bool) (message : String) : Except PreflightFault Unit :=
  if holds then .ok ⟨⟩ else .error (.envelope message)

/-- The metadata of a file: its length and its allocated blocks of 512 bytes. -/
structure StoreFile where
  length : UInt64
  blocks : UInt64
  regular : Bool
deriving DecidableEq

/-- What the filesystem says about a store: its files, where they exist, the bytes of its
known sidecars, and the numbers of `statvfs` and `getrlimit`. -/
structure Disk where
  main : Option StoreFile
  wal : Option StoreFile
  shm : Option StoreFile
  journal : Option StoreFile
  auxiliary : UInt64
  device : UInt64
  blocksAvailable : UInt64
  blocks : UInt64
  fragmentSize : UInt64
  filesAvailable : UInt64
  fileLimit : Option UInt64
deriving DecidableEq

def Disk.storeFiles (disk : Disk) : List StoreFile := [disk.main, disk.wal, disk.shm, disk.journal].filterMap id

def occupy (occupied : UInt64) (file : StoreFile) : Except PreflightFault UInt64 := do
  admitEnvelope file.regular "store member is not a regular file"
  let allocated ← ofCapacity (orRefuse "allocated byte overflow" (checkedMul file.blocks 512))
  ofCapacity (add occupied (max file.length allocated))

def observe (disk : Disk) : Except PreflightFault CapacityObservation := do
  let available ← ofCapacity (orRefuse "filesystem capacity overflow"
    (checkedMul disk.blocksAvailable disk.fragmentSize))
  let files ← disk.storeFiles.foldlM occupy 0
  let occupied ← ofCapacity (add files disk.auxiliary)
  let total ← ofCapacity (orRefuse "filesystem total overflow" (checkedMul disk.blocks disk.fragmentSize))
  return {
    device := disk.device
    availableBytes := available
    totalBytes := total
    availableInodes := disk.filesAvailable
    fileLimitBytes := disk.fileLimit
    occupiedBytes := occupied
    auxiliaryOccupiedBytes := disk.auxiliary }

namespace OperatingEnvelope

variable (envelope : OperatingEnvelope)

def walFrameCeiling : Except CapacityFault UInt64 := do
  let frames ← plain (checkedSub envelope.walBytes 32)
  let frameBytes ← add envelope.pageSize 24
  return frames / frameBytes

def shmBound : Except CapacityFault UInt64 := do
  let frames ← walFrameCeiling envelope
  shmAllowance frames

def admitFileLimit (shmBytes : UInt64) : Option UInt64 → Except CapacityFault Unit
  | none => .ok ⟨⟩
  | some limit =>
      permit (saturatingAdd (max (max envelope.mainBytes envelope.walBytes) shmBytes) (max envelope.pageSize 4096) ≤ limit)
        "current per-file limit is below persisted envelope"

def admitFile (cap : UInt64) : Option StoreFile → Except CapacityFault Unit
  | none => .ok ⟨⟩
  | some file => permit (file.length ≤ cap) "existing SQLite file exceeds envelope"

def admitFiles (shmBytes : UInt64) (disk : Disk) : Except CapacityFault Unit := do
  admitFile envelope.mainBytes disk.main
  admitFile envelope.walBytes disk.wal
  admitFile shmBytes disk.shm
  admitFile envelope.walBytes disk.journal

/-- `preflight`, with the store's files and filesystem as it finds them. -/
def preflight (disk : Disk) : Except PreflightFault Unit := do
  let expected ← ofCapacity (derive envelope.policy envelope.observed envelope.pageSize 0)
  admitEnvelope (expected = envelope) "persisted envelope fields disagree with derivation"
  let current ← observe disk
  admitEnvelope (envelope.schemaVersion = 2 ∧ current.device = envelope.observed.device)
    "unsupported envelope or changed filesystem identity"
  let allowance ← ofCapacity (add fixedAllowance envelope.policy.auxiliaryBytes)
  ofCapacity (permit (current.auxiliaryOccupiedBytes ≤ allowance) "known sidecars exceed housekeeping allowance")
  ofCapacity (permit (8 ≤ current.availableInodes) "insufficient free inodes")
  let remaining ← ofCapacity (orRefuse "existing store exceeds aggregate ceiling"
    (checkedSub envelope.aggregateBytes current.occupiedBytes))
  let needed ← ofCapacity (add envelope.policy.reserveBytes remaining)
  ofCapacity (permit (needed ≤ current.availableBytes) "filesystem cannot preserve reserve and admitted envelope")
  let shmBytes ← ofCapacity (shmBound envelope)
  ofCapacity (admitFileLimit envelope shmBytes current.fileLimitBytes)
  ofCapacity (admitFiles envelope shmBytes disk)

end OperatingEnvelope

end ConstellationNq.Store
