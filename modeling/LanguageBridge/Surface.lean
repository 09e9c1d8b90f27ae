import LanguageBridge.Editor.Marker

/-! An editor surface that keeps the latest markers of each document. -/
namespace LanguageBridge

/-- A replacement of all markers of a document under an owner. -/
structure MarkerUpdate where
  document : Editor.Document
  owner : String
  markers : List Editor.Marker
  deriving DecidableEq, Repr

structure Surface where
  languages : List String
  shown : List (String × List Editor.Marker)
  deriving DecidableEq, Repr

namespace Surface

def empty : Surface := ⟨[], []⟩

def register (s : Surface) (language : String) : Surface :=
  { s with languages := s.languages ++ [language] }

/-- Whoever the owner is, a document has one set of markers. -/
def apply (s : Surface) (u : MarkerUpdate) : Surface :=
  { s with shown := (u.document.uri, u.markers) :: s.shown.filter (·.1 ≠ u.document.uri) }

/-- None until something was published for the document. -/
def markers? (s : Surface) (uri : String) : Option (List Editor.Marker) := s.shown.lookup uri

end Surface

end LanguageBridge
