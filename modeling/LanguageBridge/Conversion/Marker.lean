import LanguageBridge.Conversion.Range
import LanguageBridge.Editor.Marker
import LanguageBridge.Json.Printer
import LanguageBridge.Wire.Diagnostic

/-! Diagnostics of the server as markers of the editor. -/
namespace LanguageBridge.Wire

def RelatedInformation.toEditor (i : RelatedInformation) : Editor.RelatedInformation :=
  ⟨i.location.uri, i.message, i.location.range.toEditor⟩

/-- A code that is a text is shown as it is, any other as JSON. -/
def codeText : Json → String
  | .str s => s
  | other => other.compact

/-- A diagnostic without severity is an error. -/
def Diagnostic.toEditor (d : Diagnostic) : Editor.Marker where
  severity := d.severity.getD .error
  message := d.message
  source := d.source
  code := d.code.map codeText
  range := d.range.toEditor
  tags := d.tags
  related := d.related.map RelatedInformation.toEditor

def Publication.markers (p : Publication) : List Editor.Marker :=
  p.diagnostics.map Diagnostic.toEditor

end LanguageBridge.Wire
