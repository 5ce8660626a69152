import ShareLinks.Proofs.Persistence
import ShareLinks.Proofs.Text.Utf8

/-!
# The forms in which a part of a record is stored

The settings and the stream of a record may be stored as text, as the bytes of text, or decoded.
An object is read the same from all of them, in whatever layout it was written; and text is read
the same from its bytes, whether there is a document in it or not.
-/

namespace ShareLinks

namespace Blob

theorem decode_of_write {fields : Fields} {style : Json.Style} {text : String}
    (distinct : (Json.object fields).hasDistinctNames = true)
    (written : (Json.object fields).write style = .ok text) (field : String) :
    (Blob.value (.string text)).decode field = (Blob.value (.object fields)).decode field := by
  obtain ⟨writable, rfl⟩ := (Json.write_eq_ok_iff style _ text).mp written
  rw [decode, decode, Json.render, String.toList_ofList,
    decodeText_text field style distinct writable]

/-- The bytes of a text are decoded as the text is, and refused as it is. -/
theorem decode_bytes_encode (text field : String) :
    (Blob.bytes (Text.Utf8.encode text.toList)).decode field =
      (Blob.value (.string text)).decode field := by
  show decodeText field (Text.Utf8.decodeLossy (Text.Utf8.encode text.toList)) =
    decodeText field text.toList
  rw [Text.Utf8.decodeLossy_encode]

end Blob

namespace Record

/-- The parts of a record that are decoded once more. -/
inductive Part where
  | settings
  | stream

/-- The name of the field that holds a part. -/
def Part.fieldName : Part → String
  | settings => "settings"
  | stream => "streamSettings"

/-- The record with a part stored in another form. -/
def store (r : Record) : Part → Blob → Record
  | .settings, blob => { r with settings := blob }
  | .stream, blob => { r with stream := blob }

end Record

namespace Inbound

theorem ofRecord_store_congr {part : Record.Part} {blob other : Blob}
    (same : blob.decode part.fieldName = other.decode part.fieldName) (r : Record) :
    ofRecord (r.store part blob) = ofRecord (r.store part other) := by
  cases part with
  | settings =>
    have settings : blob.decode "settings" = other.decode "settings" := same
    simp only [ofRecord, readFront, Record.store, settings]
  | stream =>
    have stream : blob.decode "streamSettings" = other.decode "streamSettings" := same
    simp only [ofRecord, readFront, Record.store, stream]

/-- A record is read the same, or refused in the same way, whether a part of it is stored as an
object or as the text of this object; and whether it is stored as any text or as the bytes of this
text. -/
theorem ofRecord_stored_forms (r : Record) (part : Record.Part) :
    (∀ fields style text, (Json.object fields).hasDistinctNames = true →
      (Json.object fields).write style = .ok text →
        ofRecord (r.store part (.value (.string text))) =
          ofRecord (r.store part (.value (.object fields)))) ∧
    (∀ text : String, ofRecord (r.store part (.bytes (Text.Utf8.encode text.toList))) =
      ofRecord (r.store part (.value (.string text)))) := by
  constructor
  · intro fields style text distinct written
    exact ofRecord_store_congr (Blob.decode_of_write distinct written _) r
  · intro text
    exact ofRecord_store_congr (Blob.decode_bytes_encode text _) r

/-- The fields of a stream with a name beyond ASCII and numbers of both kinds. -/
def sampleStreamFields : Fields :=
  [("network", .string "ws"), ("wsSettings", .object [("path", .string "/é📊")]),
    ("externalProxy", .array [.object [("dest", .string "cdn.example"),
      ("port", .float (Binary64.ofRatio false 8443 1))], .int (-1)])]

/-- The stream is read from its text as it is from the object. -/
theorem sample_stream_reads_from_text :
    (Json.object sampleStreamFields).hasDistinctNames = true ∧
      ∃ text i, (Json.object sampleStreamFields).write Json.pretty = .ok text ∧
        ofRecord ((Record.ofJson .null).store .stream (.value (.object sampleStreamFields))) =
          .ok i ∧
        ofRecord ((Record.ofJson .null).store .stream (.value (.string text))) = .ok i ∧
        ofRecord ((Record.ofJson .null).store .stream
          (.bytes (Text.Utf8.encode text.toList))) = .ok i := by
  have distinct : (Json.object sampleStreamFields).hasDistinctNames = true := by decide +kernel
  have written : (Json.object sampleStreamFields).write Json.pretty =
      .ok ((Json.object sampleStreamFields).render Json.pretty) := by
    rw [Json.write_eq_ok_iff]
    exact ⟨by decide +kernel, rfl⟩
  have read : ∃ i, ofRecord ((Record.ofJson .null).store .stream
      (.value (.object sampleStreamFields))) = .ok i := ⟨_, rfl⟩
  obtain ⟨i, read⟩ := read
  obtain ⟨text, bytes⟩ := ofRecord_stored_forms (Record.ofJson .null) .stream
  have same := text _ _ _ distinct written
  exact ⟨distinct, _, i, written, read, same.trans read, (bytes _).trans (same.trans read)⟩

end Inbound
end ShareLinks
