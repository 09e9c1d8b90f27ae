import LanguageBridge.Json.Reading

/-! Places in documents as the server counts them: lines and characters from 0. -/
namespace LanguageBridge.Wire

structure Position where
  line : UInt32
  character : UInt32
  deriving DecidableEq, Repr

structure Range where
  start : Position
  finish : Position
  deriving DecidableEq, Repr

/-- A range in a named document. -/
structure Location where
  uri : String
  range : Range
  deriving DecidableEq, Repr

structure DocumentId where
  uri : String
  deriving DecidableEq, Repr

structure DocumentPosition where
  document : DocumentId
  position : Position
  deriving DecidableEq, Repr

/-- A document with its text, as it is sent when it is opened. -/
structure DocumentItem where
  uri : String
  language : String
  version : Int32
  text : String
  deriving DecidableEq, Repr

namespace Position

/-- The place that an editor numbers from 1; number 0 counts as 1. -/
def ofEditor (line column : UInt32) : Position :=
  ⟨if line = 0 then 0 else line - 1, if column = 0 then 0 else column - 1⟩

def fields : Fields Position :=
  mk <$> .required "line" .word32 <*> .required "character" .word32

def read : Reads Position := .record "Position" fields

def toJson (p : Position) : Json :=
  .record [.always "line" (.ofWord32 p.line), .always "character" (.ofWord32 p.character)]

end Position

namespace Range

def zero : Range := ⟨⟨0, 0⟩, ⟨0, 0⟩⟩

def fields : Fields Range :=
  mk <$> .required "start" Position.read <*> .required "end" Position.read

def read : Reads Range := .record "Range" fields

def toJson (r : Range) : Json :=
  .record [.always "start" r.start.toJson, .always "end" r.finish.toJson]

end Range

namespace Location

/-- A server may leave the range out. -/
def fields : Fields Location :=
  mk <$> .required "uri" .string <*> .defaulted "range" Range.read .zero

def read : Reads Location := .record "Location" fields

def toJson (l : Location) : Json :=
  .record [.always "uri" (.str l.uri), .always "range" l.range.toJson]

end Location

namespace DocumentId

def fields : Fields DocumentId := mk <$> .required "uri" .string

def read : Reads DocumentId := .record "TextDocumentIdentifier" fields

def toJson (d : DocumentId) : Json := .record [.always "uri" (.str d.uri)]

end DocumentId

namespace DocumentPosition

def fields : Fields DocumentPosition :=
  mk <$> .required "textDocument" DocumentId.read <*> .required "position" Position.read

def read : Reads DocumentPosition := .record "TextDocumentPositionParams" fields

def toJson (p : DocumentPosition) : Json :=
  .record [.always "textDocument" p.document.toJson, .always "position" p.position.toJson]

end DocumentPosition

namespace DocumentItem

def fields : Fields DocumentItem :=
  mk <$> .required "uri" .string <*> .required "languageId" .string <*>
    .required "version" .int32 <*> .required "text" .string

def read : Reads DocumentItem := .record "TextDocumentItem" fields

def toJson (d : DocumentItem) : Json :=
  .record [.always "uri" (.str d.uri), .always "languageId" (.str d.language),
    .always "version" (.ofInt32 d.version), .always "text" (.str d.text)]

end DocumentItem

end LanguageBridge.Wire
