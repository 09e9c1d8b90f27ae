import LanguageBridge.Conversion.Range
import LanguageBridge.Editor.Hover
import LanguageBridge.Wire.Hover

/-! Hover texts of the server as markdown of the editor. -/
namespace LanguageBridge.Wire

/-- Code stands in a fenced block. -/
def MarkedString.markdown : MarkedString → String
  | .text s => s
  | .code language value => "```" ++ language ++ "\n" ++ value ++ "\n```"

def HoverContents.markdown : HoverContents → List String
  | .markup m => [m.value]
  | .single item => [item.markdown]
  | .list items => items.map MarkedString.markdown

/-- Empty texts are left out. -/
def Hover.toEditor (h : Hover) : Editor.Hover where
  contents := (h.contents.markdown.filter fun s => !s.isEmpty).map Editor.Markdown.mk
  range := h.range.map Range.toEditor

end LanguageBridge.Wire
