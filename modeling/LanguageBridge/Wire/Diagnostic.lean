import LanguageBridge.Severity
import LanguageBridge.Wire.Position

/-! Diagnostics that a server publishes for a document. -/
namespace LanguageBridge.Wire

structure RelatedInformation where
  location : Location
  message : String
  deriving DecidableEq, Repr

structure Diagnostic where
  range : Range
  severity : Option Severity
  code : Option Json
  source : Option String
  message : String
  tags : List DiagnosticTag
  related : List RelatedInformation
  deriving DecidableEq

/-- The whole list of diagnostics of one document. -/
structure Publication where
  uri : String
  version : Option Int32
  diagnostics : List Diagnostic
  deriving DecidableEq

namespace RelatedInformation

def fields : Fields RelatedInformation :=
  mk <$> .required "location" Location.read <*> .required "message" .string

def read : Reads RelatedInformation := .record "LspDiagnosticRelatedInformation" fields

def toJson (i : RelatedInformation) : Json :=
  .record [.always "location" i.location.toJson, .always "message" (.str i.message)]

end RelatedInformation

namespace Diagnostic

def fields : Fields Diagnostic :=
  mk <$> .required "range" Range.read <*> .optional "severity" Severity.readWire <*>
    .optional "code" .any <*> .optional "source" .string <*> .required "message" .string <*>
    .defaulted "tags" (.list DiagnosticTag.read) [] <*>
    .defaulted "relatedInformation" (.list RelatedInformation.read) []

def read : Reads Diagnostic := .record "LspDiagnostic" fields

def toJson (d : Diagnostic) : Json :=
  .record [.always "range" d.range.toJson, .whenSome "severity" Severity.toWire d.severity,
    .verbatim "code" d.code, .whenSome "source" .str d.source, .always "message" (.str d.message),
    .whenAny "tags" DiagnosticTag.toJson d.tags,
    .whenAny "relatedInformation" RelatedInformation.toJson d.related]

end Diagnostic

namespace Publication

def fields : Fields Publication :=
  mk <$> .required "uri" .string <*> .omittable "version" .int32 <*>
    .required "diagnostics" (.list Diagnostic.read)

def read : Reads Publication := .record "PublishDiagnosticsParams" fields

def toJson (p : Publication) : Json :=
  .record [.always "uri" (.str p.uri), .whenSome "version" .ofInt32 p.version,
    .always "diagnostics" (.list Diagnostic.toJson p.diagnostics)]

end Publication

end LanguageBridge.Wire
