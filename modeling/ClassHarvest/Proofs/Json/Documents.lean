import ClassHarvest.Proofs.Files.Names
import ClassHarvest.Proofs.Json.RoundTrip
import ClassHarvest.Proofs.Text.Utf8

/-!
# Documents in files

A document that is written to a file is read from it character by character.
-/

namespace ClassHarvest.Json

variable {value : Value}

theorem encode_write (plain : value.FloatFree) :
    Utf8.encode (write value) = .ok ((write value).flatMap Utf8.bytes) := by
  apply Utf8.encode_eq_ok
  intro c mem
  have isPlain := isPlain_of_mem_render plain 0 c mem
  simp only [IsPlain] at isPlain
  simp only [CodePoint.isSurrogate, Bool.and_eq_false_iff, decide_eq_false_iff_not]
  omega

theorem decode_document (plain : value.FloatFree) {bytes : List UInt8}
    (encoded : Utf8.encode (write value) = .ok bytes) :
    ∃ text, Utf8.decode bytes = .ok text ∧ text.universalNewlines = write value := by
  refine ⟨write value, Utf8.decode_of_encode encoded, ?_⟩
  apply Text.universalNewlines_eq_self
  intro c mem
  have isPlain := isPlain_of_mem_render plain 0 c mem
  simp only [IsPlain] at isPlain
  omega

/-- The text of a file with a document is the document. -/
theorem readText_document (plain : value.FloatFree) {disk : Disk} {path : Path}
    {content : FileContent} (seen : disk.look path = .ok (.file content))
    (encoded : Utf8.encode (write value) = .ok content.bytes) :
    disk.readText path = .ok (write value) := by
  obtain ⟨text, decoded, same⟩ := decode_document plain encoded
  rw [Disk.readText_of_file seen, decoded]
  exact congrArg Except.ok same

end ClassHarvest.Json
