import ClassHarvest.Digest.Sha256
import ClassHarvest.Proofs.Text.Hexadecimal

/-!
# The form of digests
-/

namespace ClassHarvest.Sha256

theorem length_hexDigest (message : List UInt8) : (hexDigest message).length = 64 := by
  unfold hexDigest State.words
  simp [Text.length_hex]

theorem isHighSurrogate_hexDigit {d : Nat} (small : d < 16) :
    (CodePoint.hexDigit d).isHighSurrogate = false := by
  have all : ∀ d < 16, (CodePoint.hexDigit d).isHighSurrogate = false := by decide
  exact all d small

theorem isHighSurrogate_of_mem_hexDigest {message : List UInt8} {c : CodePoint}
    (mem : c ∈ hexDigest message) : c.isHighSurrogate = false := by
  unfold hexDigest at mem
  obtain ⟨word, _, inWord⟩ := List.mem_flatMap.mp mem
  obtain ⟨d, small, rfl⟩ := Text.exists_hexDigit_of_mem_hex inWord
  exact isHighSurrogate_hexDigit small

end ClassHarvest.Sha256
