import LanguageBridge.Json.Reading

/-! Kinds of symbols. The server numbers them from 1, the editor from 0, in one order. -/
namespace LanguageBridge

inductive SymbolKind where
  | file
  | moduleKind
  | namespaceKind
  | package
  | classKind
  | method
  | property
  | field
  | constructor
  | enum
  | interface
  | function
  | variableKind
  | constant
  | string
  | number
  | boolean
  | array
  | object
  | key
  | null
  | enumMember
  | struct
  | event
  | operator
  | typeParameter
  deriving DecidableEq, Repr

namespace SymbolKind

def all : List SymbolKind :=
  [.file, .moduleKind, .namespaceKind, .package, .classKind, .method, .property, .field,
    .constructor, .enum, .interface, .function, .variableKind, .constant, .string, .number,
    .boolean, .array, .object, .key, .null, .enumMember, .struct, .event, .operator,
    .typeParameter]

/-- Place in the common order, from 0. -/
def ordinal (k : SymbolKind) : Nat := all.idxOf k

def readWire : Reads SymbolKind := .coded (all.map fun k => (k.ordinal + 1, k))

def readEditor : Reads SymbolKind := .coded (all.map fun k => (k.ordinal, k))

def toWire (k : SymbolKind) : Json := .ofNat (k.ordinal + 1)

def toEditor (k : SymbolKind) : Json := .ofNat k.ordinal

end SymbolKind

end LanguageBridge
