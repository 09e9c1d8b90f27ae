import LanguageBridge.Wire.Position

/-! Edits that a server asks for, and what formatting and renaming send to get them. -/
namespace LanguageBridge.Wire

structure TextEdit where
  range : Range
  newText : String
  deriving DecidableEq, Repr

structure VersionedDocument where
  uri : String
  version : Option Int32
  deriving DecidableEq, Repr

/-- Edits of one document. -/
structure DocumentEdit where
  document : VersionedDocument
  edits : List TextEdit
  deriving DecidableEq, Repr

/-- Edits of a document, or an operation on files that is kept as it came. -/
inductive DocumentChange where
  | edit (e : DocumentEdit)
  | operation (j : Json)
  deriving DecidableEq

structure WorkspaceEdit where
  changes : Option (List (String × List TextEdit))
  documentChanges : Option (List DocumentChange)
  deriving DecidableEq

structure FormattingOptions where
  tabSize : UInt32
  insertSpaces : Bool
  deriving DecidableEq, Repr

structure FormattingParams where
  document : DocumentId
  options : FormattingOptions
  deriving DecidableEq, Repr

structure RenameParams where
  document : DocumentId
  position : Position
  newName : String
  deriving DecidableEq, Repr

/-- What a server says about renaming at a position. -/
inductive RenamePreparation where
  | placeholder (range : Range) (text : String)
  | standard (allowed : Bool)
  | bare (range : Range)
  deriving DecidableEq, Repr

namespace TextEdit

def fields : Fields TextEdit :=
  mk <$> .required "range" Range.read <*> .required "newText" .string

def read : Reads TextEdit := .record "TextEdit" fields

def toJson (e : TextEdit) : Json :=
  .record [.always "range" e.range.toJson, .always "newText" (.str e.newText)]

end TextEdit

namespace VersionedDocument

def fields : Fields VersionedDocument :=
  mk <$> .required "uri" .string <*> .omittable "version" .int32

def read : Reads VersionedDocument := .record "VersionedTextDocumentIdentifier" fields

def toJson (d : VersionedDocument) : Json :=
  .record [.always "uri" (.str d.uri), .always "version" (.nullable .ofInt32 d.version)]

end VersionedDocument

namespace DocumentEdit

def fields : Fields DocumentEdit :=
  mk <$> .required "textDocument" VersionedDocument.read <*>
    .required "edits" (.list TextEdit.read)

def read : Reads DocumentEdit := .record "TextDocumentEdit" fields

def toJson (e : DocumentEdit) : Json :=
  .record [.always "textDocument" e.document.toJson,
    .always "edits" (.list TextEdit.toJson e.edits)]

end DocumentEdit

namespace DocumentChange

def read : Reads DocumentChange :=
  .choice "DocumentChange" [.mapTo .edit DocumentEdit.read, .mapTo .operation .any]

def toJson : DocumentChange → Json
  | .edit e => e.toJson
  | .operation j => j

end DocumentChange

namespace WorkspaceEdit

def fields : Fields WorkspaceEdit :=
  mk <$> .optional "changes" (.dictionary (.list TextEdit.read)) <*>
    .optional "documentChanges" (.list DocumentChange.read)

def read : Reads WorkspaceEdit := .record "WorkspaceEdit" fields

def toJson (e : WorkspaceEdit) : Json :=
  .record [
    .whenSome "changes"
      (fun changes => .obj (changes.map fun (uri, edits) => (uri, .list TextEdit.toJson edits)))
      e.changes,
    .whenSome "documentChanges" (.list DocumentChange.toJson) e.documentChanges]

end WorkspaceEdit

namespace FormattingOptions

def fields : Fields FormattingOptions :=
  mk <$> .required "tabSize" .word32 <*> .required "insertSpaces" .bool

def read : Reads FormattingOptions := .record "FormattingOptions" fields

def toJson (o : FormattingOptions) : Json :=
  .record [.always "tabSize" (.ofWord32 o.tabSize), .always "insertSpaces" (.bool o.insertSpaces)]

end FormattingOptions

namespace FormattingParams

def fields : Fields FormattingParams :=
  mk <$> .required "textDocument" DocumentId.read <*> .required "options" FormattingOptions.read

def read : Reads FormattingParams := .record "DocumentFormattingParams" fields

def toJson (p : FormattingParams) : Json :=
  .record [.always "textDocument" p.document.toJson, .always "options" p.options.toJson]

end FormattingParams

namespace RenameParams

def fields : Fields RenameParams :=
  mk <$> .required "textDocument" DocumentId.read <*> .required "position" Position.read <*>
    .required "newName" .string

def read : Reads RenameParams := .record "RenameParams" fields

def toJson (p : RenameParams) : Json :=
  .record [.always "textDocument" p.document.toJson, .always "position" p.position.toJson,
    .always "newName" (.str p.newName)]

end RenameParams

namespace RenamePreparation

def placeholderFields : Fields RenamePreparation :=
  placeholder <$> .required "range" Range.read <*> .required "placeholder" .string

def standardFields : Fields RenamePreparation := standard <$> .required "defaultBehavior" .bool

def read : Reads RenamePreparation :=
  .choice "PrepareRenameResponse" [.named "PrepareRenameResponse" placeholderFields,
    .named "PrepareRenameResponse" standardFields, .mapTo .bare Range.read]

def toJson : RenamePreparation → Json
  | .placeholder range text =>
    .record [.always "range" range.toJson, .always "placeholder" (.str text)]
  | .standard allowed => .record [.always "defaultBehavior" (.bool allowed)]
  | .bare range => range.toJson

end RenamePreparation

end LanguageBridge.Wire
