import ConstellationNq.Store.Encoding

/-!
# Digests and signature transcripts of operational records

`monitor_digest` hashes a fixed line, then its domain and every part, each behind its length
in eight bytes. What a producer signs is the domain of the signature behind its length and the
record's body behind its own. Neither the number of parts nor the end of a part is lost.
-/

set_option autoImplicit false

namespace ConstellationNq.Core

open Library.Text Library.Delimiting Store

/-- A byte slice. No allocation is larger than `isize::MAX`. -/
@[ext] structure ByteSlice where
  bytes : List UInt8
  fits : bytes.length < 2 ^ 63
deriving DecidableEq

/-- A string slice. -/
@[ext] structure TextSlice where
  text : String
  fits : (utf8Bytes text).length < 2 ^ 63
deriving DecidableEq

/-- A part behind its length. -/
def ByteSlice.framed (part : ByteSlice) : List UInt8 := bigEndian64 part.bytes.length ++ part.bytes

def TextSlice.framed (domain : TextSlice) : List UInt8 :=
  bigEndian64 (utf8Bytes domain.text).length ++ utf8Bytes domain.text

/-- The bytes that `monitor_digest` gives to the hash function, one update after the other. -/
def monitorPreimage (domain : TextSlice) (parts : List ByteSlice) : List UInt8 :=
  utf8Bytes "monitor-skunkworks.digest.v1" ++ 0 :: (domain.framed ++ parts.flatMap ByteSlice.framed)

def monitorDigest (sha256 : Sha256) (domain : TextSlice) (parts : List ByteSlice) : String :=
  "sha256:" ++ hex (sha256 (monitorPreimage domain parts)).bytes

def monitorSignatureDomainV1 : String := "monitor.operational-observation.v1"

/-- The length of the domain is written in two bytes, which it fits. -/
def signatureTranscript (body : ByteSlice) : List UInt8 :=
  let domain := utf8Bytes monitorSignatureDomainV1
  UInt8.ofNat (domain.length / 256) :: UInt8.ofNat (domain.length % 256) :: (domain ++ body.framed)

theorem ByteSlice.delimited : Delimited ByteSlice.framed fun _ => True :=
  delimited_of_prefixed delimited_size (fun part _ => part.fits) fun _ _ _ _ same => ByteSlice.ext same

theorem TextSlice.delimited : Delimited TextSlice.framed fun _ => True :=
  delimited_of_prefixed delimited_size (fun domain _ => domain.fits)
    fun _ _ _ _ same => TextSlice.ext (utf8Bytes_injective same)

theorem ByteSlice.framed_ne_nil (part : ByteSlice) : part.framed ≠ [] := by
  have length := length_bigEndian64 part.bytes.length
  intro empty
  rw [(List.append_eq_nil_iff.mp empty).1] at length
  cases length

theorem signatureTranscript_injective : Function.Injective signatureTranscript := by
  intro body other same
  unfold signatureTranscript at same
  simp only [List.cons.injEq, true_and, List.append_cancel_left_eq] at same
  have whole : body.framed ++ [] = other.framed ++ [] := by rw [same]
  exact (ByteSlice.delimited trivial trivial whole).1

/-- Equal preimages have equal domains and equal parts, and equal transcripts equal bodies. -/
theorem monitorPreimage_injective :
    Function.Injective2 monitorPreimage ∧ Function.Injective signatureTranscript := by
  refine ⟨fun domain other parts others same => ?_, signatureTranscript_injective⟩
  unfold monitorPreimage at same
  simp only [List.append_cancel_left_eq, List.cons.injEq, true_and] at same
  obtain ⟨domains, rest⟩ := TextSlice.delimited trivial trivial same
  exact ⟨domains, ByteSlice.delimited.flatMap_injective (fun part _ => part.framed_ne_nil)
    (fun _ _ => trivial) (fun _ _ => trivial) rest⟩

end ConstellationNq.Core
