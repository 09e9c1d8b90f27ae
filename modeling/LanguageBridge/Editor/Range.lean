import LanguageBridge.Json.Reading

/-! Places in documents as the editor counts them, from 1, and what the editor opens. -/
namespace LanguageBridge.Editor

structure Position where
  lineNumber : UInt32
  column : UInt32
  deriving DecidableEq, Repr

structure Range where
  startLine : UInt32
  startColumn : UInt32
  endLine : UInt32
  endColumn : UInt32
  deriving DecidableEq, Repr

/-- A document that the editor holds open. -/
structure Document where
  id : UInt64
  uri : String
  deriving DecidableEq, Repr

/-- A language that is contributed to the editor. -/
structure Language where
  id : String
  extensions : List String
  aliases : List String
  mimetypes : List String
  deriving DecidableEq, Repr

namespace Position

def fields : Fields Position :=
  mk <$> .required "lineNumber" .word32 <*> .required "column" .word32

def read : Reads Position := .record "EditorPosition" fields

def toJson (p : Position) : Json :=
  .record [.always "lineNumber" (.ofWord32 p.lineNumber), .always "column" (.ofWord32 p.column)]

end Position

namespace Range

/-- No place at all: lines and columns start at 1. -/
def zero : Range := ⟨0, 0, 0, 0⟩

def fields : Fields Range :=
  mk <$> .required "startLineNumber" .word32 <*> .required "startColumn" .word32 <*>
    .required "endLineNumber" .word32 <*> .required "endColumn" .word32

def read : Reads Range := .record "EditorRange" fields

def parts (r : Range) : List Part :=
  [.always "startLineNumber" (.ofWord32 r.startLine), .always "startColumn" (.ofWord32 r.startColumn),
    .always "endLineNumber" (.ofWord32 r.endLine), .always "endColumn" (.ofWord32 r.endColumn)]

def toJson (r : Range) : Json := .record r.parts

end Range

namespace Document

def fields : Fields Document := mk <$> .required "id" .word64 <*> .required "uri" .string

def read : Reads Document := .record "ModelHandle" fields

def toJson (d : Document) : Json :=
  .record [.always "id" (.ofWord64 d.id), .always "uri" (.str d.uri)]

end Document

namespace Language

/-- A language with an id and nothing else. -/
def named (id : String) : Language := ⟨id, [], [], []⟩

def fields : Fields Language :=
  mk <$> .required "id" .string <*> .defaulted "extensions" (.list .string) [] <*>
    .defaulted "aliases" (.list .string) [] <*> .defaulted "mimetypes" (.list .string) []

def read : Reads Language := .record "LanguageExtensionPoint" fields

def toJson (l : Language) : Json :=
  .record [.always "id" (.str l.id), .whenAny "extensions" .str l.extensions,
    .whenAny "aliases" .str l.aliases, .whenAny "mimetypes" .str l.mimetypes]

end Language

end LanguageBridge.Editor
