import LanguageBridge.CommandLine.Output

/-! How a run of the program ends. -/
namespace LanguageBridge

/-- The exit status and all that was printed. -/
structure Ending where
  status : UInt8
  output : String
  deriving DecidableEq, Repr

namespace Ending

/-- The members of a document, with success. -/
def printed (document : Json) : Ending := ⟨0, Output.text (Output.success document)⟩

/-- A failure that the action tells about. -/
def reported (message : String) : Ending := ⟨0, Output.text (Output.failure message)⟩

/-- A failure that stops the program. -/
def raised (message : String) : Ending := ⟨2, Output.text (Output.failure message)⟩

end Ending

end LanguageBridge
