import LanguageBridge.Editor.Range
import LanguageBridge.Wire.Position

/-! Ranges of the server as ranges of the editor. -/
namespace LanguageBridge.Wire

/-- Counting from 1 instead of 0; the greatest number stays. -/
def toEditorNumber (n : UInt32) : UInt32 := if n = 0xFFFFFFFF then n else n + 1

def Range.toEditor (r : Range) : Editor.Range where
  startLine := toEditorNumber r.start.line
  startColumn := toEditorNumber r.start.character
  endLine := toEditorNumber r.finish.line
  endColumn := toEditorNumber r.finish.character

end LanguageBridge.Wire
