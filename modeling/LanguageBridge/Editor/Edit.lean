import LanguageBridge.Editor.Range

/-! Edits and rename locations as the editor applies them. -/
namespace LanguageBridge.Editor

structure TextEdit where
  range : Range
  text : String
  deriving DecidableEq, Repr

/-- An edit of one document, perhaps of one version of it. -/
structure ResourceEdit where
  resource : String
  edit : TextEdit
  version : Option Int32
  deriving DecidableEq, Repr

structure WorkspaceEdit where
  edits : List ResourceEdit
  deriving DecidableEq, Repr

/-- What would be renamed, or why nothing can be. -/
structure RenameLocation where
  text : String
  range : Range
  rejectReason : Option String
  deriving DecidableEq, Repr

namespace TextEdit

def fields : Fields TextEdit := mk <$> .required "range" Range.read <*> .required "text" .string

def read : Reads TextEdit := .record "EditorTextEdit" fields

def toJson (e : TextEdit) : Json :=
  .record [.always "range" e.range.toJson, .always "text" (.str e.text)]

end TextEdit

namespace ResourceEdit

def fields : Fields ResourceEdit :=
  mk <$> .required "resource" .string <*> .required "textEdit" TextEdit.read <*>
    .omittable "versionId" .int32

def read : Reads ResourceEdit := .record "ResourceTextEdit" fields

def toJson (e : ResourceEdit) : Json :=
  .record [.always "resource" (.str e.resource), .always "textEdit" e.edit.toJson,
    .whenSome "versionId" .ofInt32 e.version]

end ResourceEdit

namespace WorkspaceEdit

def fields : Fields WorkspaceEdit := mk <$> .required "edits" (.list ResourceEdit.read)

def read : Reads WorkspaceEdit := .record "EditorWorkspaceEdit" fields

def toJson (e : WorkspaceEdit) : Json :=
  .record [.always "edits" (.list ResourceEdit.toJson e.edits)]

end WorkspaceEdit

namespace RenameLocation

def accepted (text : String) (range : Range) : RenameLocation := ⟨text, range, none⟩

def rejected : RenameLocation := ⟨"", .zero, some "No valid token to rename"⟩

def isRejected (l : RenameLocation) : Bool := l.rejectReason.isSome

def fields : Fields RenameLocation :=
  mk <$> .required "text" .string <*> .required "range" Range.read <*>
    .omittable "rejectReason" .string

def read : Reads RenameLocation := .record "RenameLocation" fields

def toJson (l : RenameLocation) : Json :=
  .record [.always "text" (.str l.text), .always "range" l.range.toJson,
    .whenSome "rejectReason" .str l.rejectReason]

end RenameLocation

end LanguageBridge.Editor
