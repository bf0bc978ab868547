/-
Versions of a document, and their JSON form.
-/
import IamConvergence.Record.Shape

namespace IamConvergence

/-- One retained version of a document. Listings leave out the content. -/
structure DocumentVersion where
  id : String
  content : Option String
  isDefault : Bool
  createdAt : Instant
  deriving DecidableEq

namespace DocumentVersion

/-- The fields of a version. -/
def shape : Shape DocumentVersion :=
  Shape.of DocumentVersion.mk
    |>.field ⟨"versionId", Decode.text, none⟩
    |>.field ⟨"content", Decode.optionalText, some none⟩
    |>.field ⟨"isDefault", Decode.bool, none⟩
    |>.field ⟨"createdAt", Decode.instant, none⟩

/-- The version that a value describes. -/
def ofValue : Value → Except Mismatch DocumentVersion := shape.decode "VersionedDocument"

/-- The value that describes a version. -/
def toValue (v : DocumentVersion) : Value :=
  .ofPresent [
    ("versionId", some (.text v.id)),
    ("content", v.content.map .text),
    ("isDefault", some (.bool v.isDefault)),
    ("createdAt", some (.text (Rfc3339.render v.createdAt)))]

/-- Whether a version comes before another in age: by creation time, then by id. -/
def older (a b : DocumentVersion) : Bool :=
  a.createdAt.before b.createdAt || (a.createdAt == b.createdAt && a.id < b.id)

end DocumentVersion

end IamConvergence
