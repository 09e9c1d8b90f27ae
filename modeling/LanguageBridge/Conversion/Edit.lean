import LanguageBridge.Conversion.Range
import LanguageBridge.Editor.Edit
import LanguageBridge.Wire.Edit

/-! Edits of the server as edits of the editor. -/
namespace LanguageBridge.Wire

def TextEdit.toEditor (e : TextEdit) : Editor.TextEdit := ⟨e.range.toEditor, e.newText⟩

/-- Edits of one document, one by one. -/
def resourceEdits (uri : String) (version : Option Int32) (edits : List TextEdit) :
    List Editor.ResourceEdit :=
  edits.map fun e => ⟨uri, e.toEditor, version⟩

namespace WorkspaceEdit

/-- The edits by document, documents in order of their names. -/
def changeEdits (e : WorkspaceEdit) : List Editor.ResourceEdit :=
  ((e.changes.getD []).mergeSort fun a b => decide (a.1 ≤ b.1)).flatMap fun (uri, edits) =>
    resourceEdits uri none edits

/-- The edits of the listed changes in order; operations on files are left out. -/
def documentChangeEdits (e : WorkspaceEdit) : List Editor.ResourceEdit :=
  (e.documentChanges.getD []).flatMap fun
    | .edit d => resourceEdits d.document.uri d.document.version d.edits
    | .operation _ => []

def toEditor (e : WorkspaceEdit) : Editor.WorkspaceEdit := ⟨e.changeEdits ++ e.documentChangeEdits⟩

end WorkspaceEdit

def RenamePreparation.toEditor : RenamePreparation → Editor.RenameLocation
  | .placeholder range text => .accepted text range.toEditor
  | .bare range => .accepted "" range.toEditor
  | .standard _ => .rejected

end LanguageBridge.Wire
