import LanguageBridge.Editor.Range
import LanguageBridge.Severity

/-! Markers that the editor shows for diagnostics. -/
namespace LanguageBridge.Editor

structure RelatedInformation where
  resource : String
  message : String
  range : Range
  deriving DecidableEq, Repr

structure Marker where
  severity : Severity
  message : String
  source : Option String
  code : Option String
  range : Range
  tags : List DiagnosticTag
  related : List RelatedInformation
  deriving DecidableEq, Repr

namespace RelatedInformation

def fields : Fields RelatedInformation :=
  mk <$> .required "resource" .string <*> .required "message" .string <*>
    .required "range" Range.read

def read : Reads RelatedInformation := .record "RelatedInformation" fields

def toJson (i : RelatedInformation) : Json :=
  .record [.always "resource" (.str i.resource), .always "message" (.str i.message),
    .always "range" i.range.toJson]

end RelatedInformation

namespace Marker

/-- Everything but the range. -/
def ownFields : Fields (Range → Marker) :=
  (fun severity message source code tags related range =>
    ⟨severity, message, source, code, range, tags, related⟩) <$>
    .required "severity" Severity.readEditor <*> .required "message" .string <*>
    .omittable "source" .string <*> .omittable "code" .string <*>
    .defaulted "tags" (.list DiagnosticTag.read) [] <*>
    .defaulted "relatedInformation" (.list RelatedInformation.read) []

/-- The members of the range stand among the others and are looked at last. -/
def read : Reads Marker
  | .obj members => do
    let marker ← ownFields.readMembers members
    let range ← Range.fields.readMembers members
    return marker range
  | other => .error (.wrongType other.found "struct Marker")

def toJson (m : Marker) : Json :=
  .record ([.always "severity" m.severity.toEditor, .always "message" (.str m.message),
    .whenSome "source" .str m.source, .whenSome "code" .str m.code] ++ m.range.parts ++
    [.whenAny "tags" DiagnosticTag.toJson m.tags,
      .whenAny "relatedInformation" RelatedInformation.toJson m.related])

end Marker

end LanguageBridge.Editor
