import ConstellationNq.Helper.MountInfoProperties
import ConstellationNq.Helper.SystemdProperties
import ConstellationNq.Library.Sorting
import ConstellationNq.Store.Encoding
import Mathlib.Data.Fin.VecNotation
import Mathlib.Data.Set.Function
import Mathlib.Data.String.Basic

/-!
# The seal of a cold archive

`verify_archive` reads a directory tree. The seal is the digest of the metadata, the metadata
hold the digest of the manifest, and the manifest holds one digest for each of the four content
files. The enumeration of the tree leaves room for nothing else, so that whoever knows the seal
knows the archive.
-/

set_option autoImplicit false

namespace ConstellationNq.App.Archive

open Helper Store Library.Loop Library.Pattern Library.Sorting Library.Text

/-! ## Directory trees -/

def slash : UInt8 := 47

structure FileName where
  bytes : List UInt8
  nonempty : bytes ≠ []
  plain : slash ∉ bytes
deriving DecidableEq

/-- What `symlink_metadata` tells apart, with what is behind it. -/
inductive Node where
  | file (content : List UInt8) (mode : Nat)
  | directory (names : List FileName) (distinct : names.Nodup) (entry : Fin names.length → Node)
  | other

namespace Node

def childNamed (name : FileName) : Node → Option Node
  | .directory names _ entry =>
      if held : name ∈ names then some (entry ⟨names.idxOf name, List.idxOf_lt_length_iff.mpr held⟩) else none
  | _ => none

def lookup : List FileName → Node → Option Node
  | [], node => some node
  | name :: path, node => (node.childNamed name).bind (lookup path)

def HoldsFile (node : Node) (path : List FileName) (content : List UInt8) : Prop :=
  ∃ mode, node.lookup path = some (.file content mode)

def contents (node : Node) : Set (List UInt8) := {content | ∃ path, node.HoldsFile path content}

end Node

def pathBytes (path : List FileName) : List UInt8 := [slash].intercalate (path.map FileName.bytes)

/-- `to_string_lossy`. -/
def pathText (path : List FileName) : String := String.ofList (fromUtf8Lossy (pathBytes path))

def components (relative : String) : List FileName :=
  ((utf8Bytes relative).splitOn slash).filterMap fun bytes =>
    if named : bytes ≠ [] ∧ slash ∉ bytes then some ⟨bytes, named.1, named.2⟩ else none

/-- `enumerate_relative`, below the names already passed. -/
def enumerateRelative (passed : List FileName) : Node → List String
  | .directory names _ entry =>
      (List.finRange names.length).flatMap fun index =>
        let path := passed ++ [names.get index]
        pathText path :: enumerateRelative path (entry index)
  | _ => []

/-! ## Files of an archive -/

def archiveFormat : String := "nq.cold_archive.v1"
def sealFile : String := "SEAL"
def archiveFile : String := "ARCHIVE.json"
def manifestFile : String := "MANIFEST.sha256"
def contentFiles : List String := ["VERIFY.md", "bin/nq", "config/nq.toml", "db/nq.db"]

structure ArchiveMetadata where
  archiveFormat : String
  toolVersion : String
  toolBinaryDigest : String
  schemaVersion : Int
  schemaArtifactDigest : String
  manifestSha256 : String
deriving DecidableEq

structure VerifyReport (History : Type) where
  archiveFormat : String
  archiveSeal : String
  databaseDigest : String
  history : History
deriving DecidableEq

/-- What the executing verifier brings along. The preserved database is opened and replayed
under the declarations of the metadata. -/
structure Verifier (History : Type) where
  sha256 : Sha256
  parseMetadata : List UInt8 → Option ArchiveMetadata
  toolVersion : String
  schemaVersion : Int
  schemaArtifactDigest : String
  executable : List UInt8
  verifyHistory : List UInt8 → List UInt8 → Except String History

section Verification

variable {History : Type} (verifier : Verifier History) (root : Node)

def sha256Bytes (bytes : List UInt8) : String := "sha256:" ++ hex (verifier.sha256 bytes).bytes

def readFile (relative failure : String) : Except String (List UInt8) :=
  match root.lookup (components relative) with
  | some (.file content _) => .ok content
  | _ => .error failure

def sha256File (relative : String) : Except String String := do
  let content ← readFile root relative ("open " ++ relative)
  return sha256Bytes verifier content

def requirePhysicalDirectory (path : List FileName) (label : String) : Except String Unit :=
  match root.lookup path with
  | none => .error ("inspect " ++ label)
  | some (.directory ..) => .ok ()
  | some _ => .error (label ++ " is not a physical directory")

def requireRegularFile (relative label : String) : Except String Nat :=
  match root.lookup (components relative) with
  | none => .error ("inspect " ++ label)
  | some (.file _ mode) => .ok mode
  | some _ => .error (label ++ " is not a regular file")

/-! ## The manifest -/

/-- `split_once` at two spaces. -/
def splitLine (line : List Char) : Option (String × String) :=
  (firstAt [' ', ' '] line).map fun place => (String.ofList (line.take place), String.ofList (line.drop (place + 2)))

/-- The loop of `check_manifest` from a line on. -/
def checkLines : Nat → List (List Char) → List String → Except String (List String)
  | _, [], covered => .ok covered
  | index, line :: lines, covered =>
      match splitLine line with
      | none => .error ("malformed manifest line: " ++ String.ofList line)
      | some (digest, relative) =>
          match contentFiles[index]? with
          | none => .error ("manifest contains unexpected content entry " ++ relative)
          | some expected =>
              if relative ≠ expected then
                .error ("manifest content entry " ++ toString index ++ " is " ++ relative ++
                  ", required exact entry is " ++ expected)
              else
                match root.lookup (components relative) with
                | none => .error ("manifest references a missing file: " ++ relative)
                | some (.file content _) =>
                    if sha256Bytes verifier content ≠ "sha256:" ++ digest then
                      .error ("content file " ++ relative ++ " does not match its manifest digest")
                    else checkLines (index + 1) lines (covered ++ [relative])
                | some _ => .error ("manifest content is not a regular file: " ++ relative)

def checkManifest : Except String (List String) := do
  let manifest ← readFile root manifestFile "read manifest"
  match textOf manifest with
  | none => .error "read manifest"
  | some text =>
      let covered ← checkLines verifier root 0 (textLines [] text.toList) []
      ensure (covered.length = contentFiles.length)
        ("manifest covers " ++ toString covered.length ++ " content files, required exact coverage is " ++
          toString contentFiles.length)
      return covered

/-! ## The archive -/

/-- The verifier must be the one that the metadata name. -/
def checkIdentity (metadata : ArchiveMetadata) : Except String Unit := do
  ensure (metadata.toolVersion = verifier.toolVersion)
    ("archive tool version " ++ metadata.toolVersion ++ " does not match this verifier version " ++
      verifier.toolVersion ++ "; use the archive's own bin/nq")
  ensure (metadata.schemaVersion = verifier.schemaVersion)
    ("archive schema version " ++ toString metadata.schemaVersion ++ " is not supported by this verifier (expected " ++
      toString verifier.schemaVersion ++ "; use the archive's own bin/nq)")
  ensure (metadata.schemaArtifactDigest = verifier.schemaArtifactDigest)
    "archive schema artifact digest is not supported by this verifier; use the archive's own bin/nq"

def checkBinary (metadata : ArchiveMetadata) : Except String Unit := do
  let archived ← sha256File verifier root "bin/nq"
  ensure (archived = metadata.toolBinaryDigest) "archived bin/nq does not match the sealed tool binary digest"
  ensure (archived = sha256Bytes verifier verifier.executable)
    "archived bin/nq does not match the executing verifier binary; use the archive's own bin/nq"
  let mode ← requireRegularFile root "bin/nq" "bin/nq"
  ensure (mode &&& 0o100 ≠ 0) "archived bin/nq is not owner-executable"
  ensure (mode &&& 0o022 = 0) "archived bin/nq is group- or world-writable"

def expectedEntries : List String :=
  contentFiles ++ [sealFile, archiveFile, manifestFile] ++ ["db", "bin", "config"]

/-- Both lists are sorted, so the first difference is reported. -/
def checkEntries : Except String Unit :=
  let present := sortBy id (enumerateRelative [] root)
  let expected := sortBy id expectedEntries
  match expected.find? fun entry => !present.contains entry with
  | some missing => .error ("archive is missing required entry: " ++ missing)
  | none =>
      match present.find? fun entry => !expected.contains entry with
      | some extra => .error ("archive contains an unmanifested entry: " ++ extra)
      | none => .ok ()

def verifyArchive : Except String (VerifyReport History) := do
  requirePhysicalDirectory root [] "archive root"
  [archiveFile, sealFile, manifestFile].forM fun control => discard (requireRegularFile root control control)
  ["db", "bin", "config"].forM fun directory => requirePhysicalDirectory root (components directory) directory
  let metadataBytes ← readFile root archiveFile "read archive metadata"
  match verifier.parseMetadata metadataBytes with
  | none => .error "parse archive metadata"
  | some metadata =>
      ensure (metadata.archiveFormat = archiveFormat)
        ("unsupported archive format " ++ debugText metadata.archiveFormat ++ "; this verifier understands only " ++ archiveFormat)
      let sealBytes ← readFile root sealFile "read seal"
      ensure (sealBytes = utf8Bytes (sha256Bytes verifier metadataBytes)) "archive seal does not match ARCHIVE.json"
      checkIdentity verifier metadata
      let manifestDigest ← sha256File verifier root manifestFile
      ensure (metadata.manifestSha256 = manifestDigest) "MANIFEST.sha256 does not match the sealed manifest digest"
      let covered ← checkManifest verifier root
      ensure (covered = contentFiles) "manifest does not provide exact required content coverage"
      checkBinary verifier root metadata
      checkEntries root
      let database ← readFile root "db/nq.db" "open db/nq.db"
      let history ← verifier.verifyHistory metadataBytes database
      match textOf sealBytes with
      | none => .error "archive seal is not UTF-8"
      | some archiveSeal =>
          return { archiveFormat := metadata.archiveFormat, archiveSeal, databaseDigest := sha256Bytes verifier database,
                   history }

end Verification

/-! ## Paths and entries -/

variable {path : List FileName}

theorem pathBytes_injective {other : List FileName} (named : path ≠ []) (otherNamed : other ≠ [])
    (same : pathBytes path = pathBytes other) : path = other := by
  have split (path : List FileName) (named : path ≠ []) :
      (pathBytes path).splitOn slash = path.map FileName.bytes := by
    refine List.splitOn_intercalate slash ?_ (by simpa using named)
    intro bytes member
    obtain ⟨name, _, rfl⟩ := List.mem_map.mp member
    exact name.plain
  have bytes : path.map FileName.bytes = other.map FileName.bytes := by
    rw [← split path named, ← split other otherNamed, same]
  refine List.map_injective_iff.mpr ?_ bytes
  rintro ⟨left, _, _⟩ ⟨right, _, _⟩ rfl
  rfl

theorem pathBytes_components :
    ∀ relative ∈ expectedEntries, components relative ≠ [] ∧ pathBytes (components relative) = utf8Bytes relative := by
  decide +kernel

variable {relative : String}

/-- An expected text is the text of its own path only: no other name reads like it. -/
theorem path_eq_components (named : path ≠ []) (expected : relative ∈ expectedEntries)
    (read : pathText path = relative) : path = components relative := by
  have plain : ∀ relative ∈ expectedEntries, Char.ofNat 0xFFFD ∉ relative.toList := by decide +kernel
  obtain ⟨some_name, bytes⟩ := pathBytes_components relative expected
  apply pathBytes_injective named some_name
  have text : fromUtf8Lossy (pathBytes path) = relative.toList := by
    rw [← read, pathText, String.toList_ofList]
  have faithful := encodeText_fromUtf8Lossy (pathBytes path) (by rw [text]; exact plain relative expected)
  rw [bytes, ← faithful, text]
  rfl

theorem Node.childNamed_eq_some {name : FileName} {node child : Node} (found : node.childNamed name = some child) :
    ∃ names distinct entry, node = .directory names distinct entry ∧
      ∃ index : Fin names.length, names.get index = name ∧ entry index = child := by
  match node with
  | .directory names distinct entry =>
      rw [childNamed] at found
      split at found
      case isTrue held =>
        exact ⟨names, distinct, entry, rfl, _, List.getElem_idxOf (List.idxOf_lt_length_iff.mpr held),
          Option.some.inj found⟩
      case isFalse => cases found

theorem mem_enumerateRelative {node child : Node} (passed : List FileName) (named : path ≠ [])
    (found : node.lookup path = some child) : pathText (passed ++ path) ∈ enumerateRelative passed node := by
  induction path generalizing node passed with
  | nil => exact absurd rfl named
  | cons name path ih =>
      obtain ⟨middle, entered, found⟩ := Option.bind_eq_some_iff.mp found
      obtain ⟨names, distinct, entry, rfl, index, rfl, rfl⟩ := Node.childNamed_eq_some entered
      rw [enumerateRelative]
      refine List.mem_flatMap.mpr ⟨index, List.mem_finRange index, ?_⟩
      by_cases last : path = []
      · rw [last]
        exact List.mem_cons_self
      · have below := ih (passed ++ [names.get index]) last found
        rw [List.append_assoc, List.singleton_append] at below
        exact List.mem_cons_of_mem _ below

variable {root : Node}

theorem checkEntries_eq_ok : checkEntries root = .ok () ↔
    (∀ entry ∈ expectedEntries, entry ∈ enumerateRelative [] root) ∧
      ∀ entry ∈ enumerateRelative [] root, entry ∈ expectedEntries := by
  simp only [checkEntries]
  split
  case h_1 missing found =>
    have absent := List.find?_some found
    have expected := List.mem_of_find?_eq_some found
    simp only [Bool.not_eq_true', List.contains_eq_mem, mem_sortBy, decide_eq_false_iff_not] at absent expected
    exact iff_of_false (by simp) fun whole => absent (whole.1 missing expected)
  case h_2 complete =>
    have complete := List.find?_eq_none.mp complete
    simp only [mem_sortBy, List.contains_eq_mem, Bool.not_eq_true', decide_eq_false_iff_not, not_not] at complete
    split
    case h_1 extra found =>
      have unexpected := List.find?_some found
      have present := List.mem_of_find?_eq_some found
      simp only [Bool.not_eq_true', List.contains_eq_mem, mem_sortBy, decide_eq_false_iff_not] at unexpected present
      exact iff_of_false (by simp) fun whole => unexpected (whole.2 extra present)
    case h_2 exact_ =>
      have exact_ := List.find?_eq_none.mp exact_
      simp only [mem_sortBy, List.contains_eq_mem, Bool.not_eq_true', decide_eq_false_iff_not, not_not] at exact_
      exact iff_of_true rfl ⟨complete, exact_⟩

/-! ## What an accepted archive holds -/

section Accepted

variable {History : Type} {verifier : Verifier History} {root : Node}

def Node.IsDirectory : Node → Prop
  | .directory .. => True
  | _ => False

variable {content : List UInt8}

theorem Node.HoldsFile.unique {other : List UInt8} (held : root.HoldsFile path content)
    (otherHeld : root.HoldsFile path other) : content = other := by
  obtain ⟨mode, found⟩ := held
  obtain ⟨otherMode, otherFound⟩ := otherHeld
  rw [found] at otherFound
  cases otherFound
  rfl

theorem readFile_eq_ok {failure : String} :
    readFile root relative failure = .ok content ↔ root.HoldsFile (components relative) content := by
  unfold readFile Node.HoldsFile
  split
  case h_1 held mode found => simp [found]
  case h_2 otherwise =>
    refine iff_of_false (by simp) ?_
    rintro ⟨mode, found⟩
    exact otherwise content mode found

theorem sha256File_eq_ok {digest : String} :
    sha256File verifier root relative = .ok digest ↔
      ∃ content, root.HoldsFile (components relative) content ∧ sha256Bytes verifier content = digest := by
  unfold sha256File
  rw [bind_eq_ok]
  simp only [readFile_eq_ok, pure, Except.pure, Except.ok.injEq]

theorem requirePhysicalDirectory_eq_ok {label : String} :
    requirePhysicalDirectory root path label = .ok () ↔ ∃ node, root.lookup path = some node ∧ node.IsDirectory := by
  unfold requirePhysicalDirectory
  split
  case h_1 absent => simp [absent]
  case h_2 found => simp [found, Node.IsDirectory]
  case h_3 node other found =>
    cases node with
    | directory names distinct entry => exact absurd rfl (other names distinct entry)
    | file => simp [found, Node.IsDirectory]
    | other => simp [found, Node.IsDirectory]

theorem sha256Bytes_eq {other : List UInt8} (same : sha256Bytes verifier content = sha256Bytes verifier other) :
    verifier.sha256 content = verifier.sha256 other := by
  apply hex_injective
  have characters := congrArg String.toList same
  simp only [sha256Bytes, String.toList_append, List.append_cancel_left_eq] at characters
  exact String.toList_inj.mp characters

/-- A line of the manifest that names a content file holds its digest. -/
def Bound (verifier : Verifier History) (root : Node) (line : List Char) (relative : String) : Prop :=
  ∃ digest content, splitLine line = some (digest, relative) ∧ root.HoldsFile (components relative) content ∧
    sha256Bytes verifier content = "sha256:" ++ digest

theorem checkLines_eq_ok {index : Nat} {lines : List (List Char)} {covered done : List String}
    (checked : checkLines verifier root index lines covered = .ok done) :
    ∃ taken, done = covered ++ taken ∧ taken <+: contentFiles.drop index ∧
      List.Forall₂ (Bound verifier root) lines taken := by
  induction lines generalizing index covered with
  | nil =>
      obtain rfl := Except.ok.inj checked
      exact ⟨[], (List.append_nil _).symm, List.nil_prefix, .nil⟩
  | cons line lines ih =>
      rw [checkLines] at checked
      split at checked
      case h_1 => cases checked
      case h_2 digest relative split_ =>
        split at checked
        case h_1 => cases checked
        case h_2 expected listed =>
          split at checked
          case isTrue => cases checked
          case isFalse named =>
            obtain rfl := not_not.mp named
            split at checked
            case h_1 => cases checked
            case h_3 => cases checked
            case h_2 content mode found =>
              split at checked
              case isTrue => cases checked
              case isFalse digests =>
                obtain ⟨taken, rfl, within, bound⟩ := ih checked
                obtain ⟨inside, listed⟩ := List.getElem?_eq_some_iff.mp listed
                have next : contentFiles.drop index = relative :: contentFiles.drop (index + 1) := by
                  rw [List.drop_eq_getElem_cons inside, listed]
                refine ⟨relative :: taken, by simp, ?_, .cons ?_ bound⟩
                · rw [next]
                  exact (List.prefix_cons_inj relative).mpr within
                · exact ⟨digest, content, split_, ⟨mode, found⟩, not_not.mp digests⟩

theorem checkManifest_eq_ok {covered : List String} (checked : checkManifest verifier root = .ok covered) :
    ∃ manifest text, root.HoldsFile (components manifestFile) manifest ∧ textOf manifest = some text ∧
      List.Forall₂ (Bound verifier root) (textLines [] text.toList) contentFiles := by
  unfold checkManifest at checked
  obtain ⟨manifest, read, checked⟩ := bind_eq_ok.mp checked
  split at checked
  case h_1 => cases checked
  case h_2 text decoded =>
    obtain ⟨covered, lines, checked⟩ := bind_eq_ok.mp checked
    obtain ⟨count, _⟩ := check_bind_eq_ok.mp checked
    have count := ensure_eq_ok.mp count
    obtain ⟨taken, covered_eq, within, bound⟩ := checkLines_eq_ok lines
    rw [List.nil_append] at covered_eq
    have whole : taken = contentFiles := within.eq_of_length (covered_eq ▸ count)
    exact ⟨manifest, text, readFile_eq_ok.mp read, decoded, whole ▸ bound⟩

/-- The files that the seal binds, one through the other. -/
structure SealChain (verifier : Verifier History) (root : Node) where
  sealBytes : List UInt8
  metadataBytes : List UInt8
  metadata : ArchiveMetadata
  manifest : List UInt8
  text : String
  sealHeld : root.HoldsFile (components sealFile) sealBytes
  metadataHeld : root.HoldsFile (components archiveFile) metadataBytes
  manifestHeld : root.HoldsFile (components manifestFile) manifest
  sealed : sealBytes = utf8Bytes (sha256Bytes verifier metadataBytes)
  parsed : verifier.parseMetadata metadataBytes = some metadata
  manifestSealed : metadata.manifestSha256 = sha256Bytes verifier manifest
  decoded : textOf manifest = some text
  bound : List.Forall₂ (Bound verifier root) (textLines [] text.toList) contentFiles

structure Accepted (verifier : Verifier History) (root : Node) : Prop where
  physical : root.IsDirectory
  directories : ∀ directory ∈ ["db", "bin", "config"], ∃ node, root.lookup (components directory) = some node ∧
    node.IsDirectory
  entries : ∀ entry ∈ enumerateRelative [] root, entry ∈ expectedEntries
  chain : Nonempty (SealChain verifier root)

theorem verifyArchive_eq_ok {report : VerifyReport History} (verified : verifyArchive verifier root = .ok report) :
    Accepted verifier root := by
  unfold verifyArchive at verified
  obtain ⟨physical, verified⟩ := check_bind_eq_ok.mp verified
  obtain ⟨_, verified⟩ := check_bind_eq_ok.mp verified
  obtain ⟨directories, verified⟩ := check_bind_eq_ok.mp verified
  obtain ⟨metadataBytes, metadataRead, verified⟩ := bind_eq_ok.mp verified
  split at verified
  case h_1 => cases verified
  case h_2 metadata parsed =>
    obtain ⟨_, verified⟩ := check_bind_eq_ok.mp verified
    obtain ⟨sealBytes, sealRead, verified⟩ := bind_eq_ok.mp verified
    obtain ⟨sealed, verified⟩ := check_bind_eq_ok.mp verified
    obtain ⟨_, verified⟩ := check_bind_eq_ok.mp verified
    obtain ⟨digest, hashed, verified⟩ := bind_eq_ok.mp verified
    obtain ⟨manifestSealed, verified⟩ := check_bind_eq_ok.mp verified
    obtain ⟨covered, checked, verified⟩ := bind_eq_ok.mp verified
    obtain ⟨_, verified⟩ := check_bind_eq_ok.mp verified
    obtain ⟨_, verified⟩ := check_bind_eq_ok.mp verified
    obtain ⟨entries, _⟩ := check_bind_eq_ok.mp verified
    obtain ⟨node, found, isDirectory⟩ := requirePhysicalDirectory_eq_ok.mp physical
    obtain ⟨manifest, manifestHeld, rfl⟩ := sha256File_eq_ok.mp hashed
    obtain ⟨read, text, readHeld, decoded, bound⟩ := checkManifest_eq_ok checked
    obtain rfl := manifestHeld.unique readHeld
    cases found
    exact {
      physical := isDirectory
      directories := fun directory member =>
        requirePhysicalDirectory_eq_ok.mp (forM_eq_ok_iff.mp directories directory member)
      entries := (checkEntries_eq_ok.mp entries).2
      chain := ⟨{
        sealBytes, metadataBytes, metadata, manifest, text, parsed, decoded, bound, manifestHeld
        sealHeld := readFile_eq_ok.mp sealRead
        metadataHeld := readFile_eq_ok.mp metadataRead
        sealed := ensure_eq_ok.mp sealed
        manifestSealed := ensure_eq_ok.mp manifestSealed }⟩ }

def fileEntries : List String := contentFiles ++ [sealFile, archiveFile, manifestFile]

theorem mem_expectedEntries :
    relative ∈ expectedEntries ↔ relative ∈ fileEntries ∨ relative ∈ ["db", "bin", "config"] := by
  rw [expectedEntries, fileEntries, List.mem_append]

theorem forall₂_shared {lines : List (List Char)} {files : List String} {related other : List Char → String → Prop}
    (left : List.Forall₂ related lines files) (right : List.Forall₂ other lines files) :
    ∀ file ∈ files, ∃ line, related line file ∧ other line file := by
  induction left with
  | nil =>
      intro file member
      cases member
  | cons head tail ih =>
      cases right with
      | cons otherHead otherTail =>
          intro file member
          rcases List.mem_cons.mp member with rfl | member
          · exact ⟨_, head, otherHead⟩
          · exact ih otherTail file member

section Pair

variable {left right : Node}

def SharesFiles (left right : Node) : Prop :=
  ∀ relative ∈ fileEntries, ∃ content,
    left.HoldsFile (components relative) content ∧ right.HoldsFile (components relative) content

theorem SharesFiles.symm (files : SharesFiles left right) : SharesFiles right left := by
  intro relative member
  obtain ⟨content, leftHeld, rightHeld⟩ := files relative member
  exact ⟨content, rightHeld, leftHeld⟩

theorem Bound.shared {line : List Char} (first : Bound verifier left line relative)
    (second : Bound verifier right line relative)
    (injective : Set.InjOn verifier.sha256 (left.contents ∪ right.contents)) :
    ∃ content, left.HoldsFile (components relative) content ∧ right.HoldsFile (components relative) content := by
  obtain ⟨digest, content, split_, held, hashed⟩ := first
  obtain ⟨otherDigest, other, otherSplit, otherHeld, otherHashed⟩ := second
  rw [split_] at otherSplit
  obtain ⟨rfl, -⟩ := Prod.mk.inj (Option.some.inj otherSplit)
  have same : content = other := injective (.inl ⟨_, held⟩) (.inr ⟨_, otherHeld⟩)
    (sha256Bytes_eq (hashed.trans otherHashed.symm))
  exact ⟨content, held, same ▸ otherHeld⟩

/-- Seal, metadata, manifest, content: each level is that of the other archive. -/
theorem SealChain.pins (first : SealChain verifier left) (second : SealChain verifier right)
    (seals : first.sealBytes = second.sealBytes)
    (injective : Set.InjOn verifier.sha256 (left.contents ∪ right.contents)) : SharesFiles left right := by
  have metadataDigests : sha256Bytes verifier first.metadataBytes = sha256Bytes verifier second.metadataBytes := by
    apply utf8Bytes_injective
    rw [← first.sealed, ← second.sealed, seals]
  have metadataBytes : first.metadataBytes = second.metadataBytes :=
    injective (.inl ⟨_, first.metadataHeld⟩) (.inr ⟨_, second.metadataHeld⟩) (sha256Bytes_eq metadataDigests)
  have metadata : first.metadata = second.metadata := by
    have parsed := first.parsed
    rw [metadataBytes, second.parsed] at parsed
    exact (Option.some.inj parsed).symm
  have manifest : first.manifest = second.manifest := by
    refine injective (.inl ⟨_, first.manifestHeld⟩) (.inr ⟨_, second.manifestHeld⟩) (sha256Bytes_eq ?_)
    rw [← first.manifestSealed, ← second.manifestSealed, metadata]
  have text : first.text = second.text := by
    have decoded := first.decoded
    rw [manifest, second.decoded] at decoded
    exact (Option.some.inj decoded).symm
  intro relative member
  rcases List.mem_append.mp member with content | control
  · obtain ⟨line, bound, otherBound⟩ := forall₂_shared first.bound (text ▸ second.bound) relative content
    exact bound.shared otherBound injective
  · simp only [List.mem_cons, List.not_mem_nil, or_false] at control
    rcases control with rfl | rfl | rfl
    · exact ⟨_, first.sealHeld, seals ▸ second.sealHeld⟩
    · exact ⟨_, first.metadataHeld, metadataBytes ▸ second.metadataHeld⟩
    · exact ⟨_, first.manifestHeld, manifest ▸ second.manifestHeld⟩

theorem Accepted.expected (accepted : Accepted verifier root) {node : Node} (found : root.lookup path = some node) :
    path = [] ∨ ∃ relative ∈ expectedEntries, path = components relative := by
  by_cases named : path = []
  · exact .inl named
  · have expected := accepted.entries _ (mem_enumerateRelative [] named found)
    exact .inr ⟨_, expected, path_eq_components named expected rfl⟩

theorem Accepted.shared_entry (first : Accepted verifier left) (second : Accepted verifier right)
    (files : SharesFiles left right) (present : (left.lookup path).isSome) :
    (right.lookup path).isSome := by
  obtain ⟨node, found⟩ := Option.isSome_iff_exists.mp present
  rcases first.expected found with rfl | ⟨relative, expected, rfl⟩
  · rfl
  · rcases mem_expectedEntries.mp expected with file | directory
    · obtain ⟨content, _, mode, rightFound⟩ := files relative file
      rw [rightFound]
      rfl
    · obtain ⟨entry, rightFound, _⟩ := second.directories relative directory
      rw [rightFound]
      rfl

theorem Accepted.shared_file (first : Accepted verifier left) (files : SharesFiles left right)
    (held : left.HoldsFile path content) :
    right.HoldsFile path content := by
  obtain ⟨mode, found⟩ := held
  rcases first.expected found with rfl | ⟨relative, expected, rfl⟩
  · obtain rfl := Option.some.inj found
    exact first.physical.elim
  · rcases mem_expectedEntries.mp expected with file | directory
    · obtain ⟨shared, leftHeld, rightHeld⟩ := files relative file
      rw [Node.HoldsFile.unique ⟨mode, found⟩ leftHeld]
      exact rightHeld
    · obtain ⟨entry, entered, isDirectory⟩ := first.directories relative directory
      rw [found] at entered
      obtain rfl := Option.some.inj entered
      exact isDirectory.elim

/-- Two archives that one verifier accepts and that carry the same seal have the same entries
and the same files, unless two of their files collide under the hash function. -/
theorem seal_pins_archive {leftReport rightReport : VerifyReport History} {sealBytes : List UInt8}
    (leftVerified : verifyArchive verifier left = .ok leftReport)
    (rightVerified : verifyArchive verifier right = .ok rightReport)
    (leftSeal : left.HoldsFile (components sealFile) sealBytes)
    (rightSeal : right.HoldsFile (components sealFile) sealBytes)
    (injective : Set.InjOn verifier.sha256 (left.contents ∪ right.contents)) :
    (∀ path, (left.lookup path).isSome ↔ (right.lookup path).isSome) ∧
      ∀ path content, left.HoldsFile path content ↔ right.HoldsFile path content := by
  have first := verifyArchive_eq_ok leftVerified
  have second := verifyArchive_eq_ok rightVerified
  obtain ⟨leftChain⟩ := first.chain
  obtain ⟨rightChain⟩ := second.chain
  have seals : leftChain.sealBytes = rightChain.sealBytes :=
    (leftChain.sealHeld.unique leftSeal).trans (rightChain.sealHeld.unique rightSeal).symm
  have files := leftChain.pins rightChain seals injective
  exact ⟨fun path => ⟨first.shared_entry second files, second.shared_entry first files.symm⟩,
    fun path content => ⟨first.shared_file files, second.shared_file files.symm⟩⟩

end Pair

end Accepted

/-! ### An archive whose directories are listed in another order -/

/-- Hashes to the length; the files below differ in it. -/
def sampleSha256 : Sha256 := fun bytes => ⟨UInt8.ofNat bytes.length :: List.replicate 31 0, rfl⟩

def sampleText (content : List UInt8) : String := "sha256:" ++ hex (sampleSha256 content).bytes

def sampleContents : List (List UInt8) := [[1], [1, 2], [1, 2, 3], [1, 2, 3, 4]]

def sampleCharacters : List Char :=
  (contentFiles.zip sampleContents).flatMap fun (relative, content) =>
    (sampleSha256 content).bytes.flatMap (fun byte => [hexDigit (byte.toNat / 16), hexDigit (byte.toNat % 16)]) ++
      [' ', ' '] ++ relative.toList ++ ['\n']

def sampleManifest : List UInt8 := encodeText sampleCharacters

def sampleMetadata : List UInt8 := [123, 34, 34, 32, 125]

def sampleSeal : List UInt8 := utf8Bytes (sampleText sampleMetadata)

def sampleVerifier : Verifier Unit where
  sha256 := sampleSha256
  parseMetadata _ := some {
    archiveFormat, toolVersion := "0.1.0", toolBinaryDigest := sampleText [1, 2], schemaVersion := 1
    schemaArtifactDigest := "sha256:00", manifestSha256 := sampleText sampleManifest }
  toolVersion := "0.1.0"
  schemaVersion := 1
  schemaArtifactDigest := "sha256:00"
  executable := [1, 2]
  verifyHistory _ _ := .ok ()

def Node.ofEntries (entries : List (FileName × Node)) (distinct : (entries.map Prod.fst).Nodup) : Node :=
  .directory (entries.map Prod.fst) distinct fun index => (entries.get (index.cast (List.length_map _))).2

def sampleName (text : String) : FileName := (components text).headD ⟨[95], by decide, by decide⟩

def sampleFolder (name : String) (content : List UInt8) : Node :=
  .ofEntries [(sampleName name, .file content 0o755)] (List.nodup_singleton _)

def sampleEntries : List (FileName × Node) :=
  [(sampleName "SEAL", .file sampleSeal 0o644), (sampleName "ARCHIVE.json", .file sampleMetadata 0o644),
    (sampleName "MANIFEST.sha256", .file sampleManifest 0o644), (sampleName "VERIFY.md", .file [1] 0o644),
    (sampleName "bin", sampleFolder "nq" [1, 2]), (sampleName "config", sampleFolder "nq.toml" [1, 2, 3]),
    (sampleName "db", sampleFolder "nq.db" [1, 2, 3, 4])]

def sampleArchive : Node := .ofEntries sampleEntries (by decide +kernel)

def reorderedArchive : Node := .ofEntries sampleEntries.reverse (by decide +kernel)

def sampleReport : VerifyReport Unit :=
  { archiveFormat, archiveSeal := sampleText sampleMetadata, databaseDigest := sampleText [1, 2, 3, 4], history := () }

theorem checkManifest_of_characters {History : Type} {verifier : Verifier History} (characters : List Char)
    (read : readFile root manifestFile "read manifest" = .ok (encodeText characters))
    (lines : checkLines verifier root 0 (textLines [] characters) [] = .ok contentFiles) :
    checkManifest verifier root = .ok contentFiles := by
  have decoded : textOf (encodeText characters) = some (String.ofList characters) := by
    rw [textOf_eq_some, utf8Bytes, String.toList_ofList]
  rw [checkManifest, read]
  simp only [bind, Except.bind, decoded, String.toList_ofList, lines, ensure, if_true]
  rfl

theorem sampleArchive_verified : verifyArchive sampleVerifier sampleArchive = .ok sampleReport := by
  have checked : checkManifest sampleVerifier sampleArchive = .ok contentFiles :=
    checkManifest_of_characters sampleCharacters (by decide +kernel) (by decide +kernel)
  rw [verifyArchive, checked]
  decide +kernel

theorem reorderedArchive_verified : verifyArchive sampleVerifier reorderedArchive = .ok sampleReport := by
  have checked : checkManifest sampleVerifier reorderedArchive = .ok contentFiles :=
    checkManifest_of_characters sampleCharacters (by decide +kernel) (by decide +kernel)
  rw [verifyArchive, checked]
  decide +kernel

def sampleFiles : List (List UInt8) := sampleContents ++ [sampleSeal, sampleMetadata, sampleManifest]

theorem contents_subset (accepted : Accepted sampleVerifier root)
    (files : expectedEntries.all fun relative => (readFile root relative "").toOption.all (· ∈ sampleFiles)) :
    ∀ content ∈ root.contents, content ∈ sampleFiles := by
  rintro content ⟨path, mode, found⟩
  rcases accepted.expected found with rfl | ⟨relative, expected, rfl⟩
  · obtain rfl := Option.some.inj found
    exact accepted.physical.elim
  · have listed := List.all_eq_true.mp files relative expected
    have read : readFile root relative "" = .ok content := readFile_eq_ok.mpr ⟨mode, found⟩
    simpa [read, Except.toOption] using listed

theorem sampleSha256_injOn :
    Set.InjOn sampleVerifier.sha256 (sampleArchive.contents ∪ reorderedArchive.contents) := by
  have distinct : ∀ content ∈ sampleFiles, ∀ other ∈ sampleFiles,
      sampleSha256 content = sampleSha256 other → content = other := by
    decide +kernel
  have listed : ∀ content ∈ sampleArchive.contents ∪ reorderedArchive.contents, content ∈ sampleFiles := by
    rintro content (held | held)
    · exact contents_subset (verifyArchive_eq_ok sampleArchive_verified) (by decide +kernel) content held
    · exact contents_subset (verifyArchive_eq_ok reorderedArchive_verified) (by decide +kernel) content held
  exact fun content held other otherHeld => distinct content (listed content held) other (listed other otherHeld)

theorem seal_pins_archive_reordered :
    (∀ path, (sampleArchive.lookup path).isSome ↔ (reorderedArchive.lookup path).isSome) ∧
      ∀ path content, sampleArchive.HoldsFile path content ↔ reorderedArchive.HoldsFile path content :=
  have sealHeld (root : Node) (read : readFile root sealFile "" = .ok sampleSeal) :
      root.HoldsFile (components sealFile) sampleSeal := readFile_eq_ok.mp read
  seal_pins_archive sampleArchive_verified reorderedArchive_verified (sealHeld _ (by decide +kernel))
    (sealHeld _ (by decide +kernel)) sampleSha256_injOn

end ConstellationNq.App.Archive
