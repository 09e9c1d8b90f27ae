import LanguageBridge.Conversion.Range
import LanguageBridge.Editor.Symbol
import LanguageBridge.Wire.Symbol

/-! Symbols of the server as symbols of the editor. -/
namespace LanguageBridge.Wire

namespace DocumentSymbol

mutual

/-- A child names its parent as container. -/
def toEditor (container : Option String) : DocumentSymbol → Editor.DocumentSymbol
  | ⟨name, detail, kind, tags, range, selection, children⟩ =>
    { name := name
      detail := detail.getD ""
      kind := kind
      tags := tags
      container := container
      range := range.toEditor
      selection := selection.toEditor
      children :=
        match children with
        | some symbols => forestToEditor (some name) symbols
        | none => [] }

def forestToEditor (container : Option String) : List DocumentSymbol → List Editor.DocumentSymbol
  | [] => []
  | symbol :: rest => symbol.toEditor container :: forestToEditor container rest

end

end DocumentSymbol

def SymbolInformation.toEditor (s : SymbolInformation) : Editor.DocumentSymbol where
  name := s.name
  detail := ""
  kind := s.kind
  tags := s.tags
  container := s.container
  range := s.location.range.toEditor
  selection := s.location.range.toEditor
  children := []

def DocumentSymbols.toEditor : DocumentSymbols → List Editor.DocumentSymbol
  | .nested symbols => DocumentSymbol.forestToEditor none symbols
  | .flat symbols => symbols.map SymbolInformation.toEditor

end LanguageBridge.Wire
