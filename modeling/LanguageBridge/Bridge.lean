import LanguageBridge.Capability
import LanguageBridge.Conversion.Marker
import LanguageBridge.Surface
import LanguageBridge.Wire.Token

/-! What the bridge knows: registered languages, open documents and the token legend. -/
namespace LanguageBridge

structure Bridge where
  owner : String
  languages : List String
  documents : List (String × Editor.Document)
  legend : Option Wire.TokenLegend
  deriving DecidableEq

namespace Bridge

def new (owner : String) : Bridge := ⟨owner, [], [], none⟩

def isRegistered (b : Bridge) (language : String) : Bool := b.languages.contains language

/-- A language counts once; says whether it is new. -/
def addLanguage (b : Bridge) (language : String) : Bool × Bridge :=
  if b.isRegistered language then (false, b)
  else (true, { b with languages := b.languages ++ [language] })

def document? (b : Bridge) (uri : String) : Option Editor.Document := b.documents.lookup uri

/-- Opens a document, instead of one of the same name that is open. -/
def openDocument (b : Bridge) (d : Editor.Document) : Bridge :=
  { b with documents := (d.uri, d) :: b.documents.filter (·.1 ≠ d.uri) }

def closeDocument (b : Bridge) (uri : String) : Bridge :=
  { b with documents := b.documents.filter (·.1 ≠ uri) }

/-- The first legend stays. -/
def setLegend (b : Bridge) (legend : Wire.TokenLegend) : Bridge :=
  { b with legend := b.legend.or (some legend) }

/-- What a publication does to the surface: nothing unless its document is open. -/
def diagnose (b : Bridge) (p : Wire.Publication) : Option MarkerUpdate :=
  (b.document? p.uri).map fun d => ⟨d, b.owner, p.markers⟩

end Bridge

end LanguageBridge
