import LanguageBridge.Json.Reading

/-! How grave a diagnostic is and what it is tagged with, in the numbers of the server and of the
editor. -/
namespace LanguageBridge

inductive Severity where
  | error
  | warning
  | info
  | hint
  deriving DecidableEq, Repr

/-- Both sides use the same numbers for tags. -/
inductive DiagnosticTag where
  | unnecessary
  | deprecated
  deriving DecidableEq, Repr

namespace Severity

def readWire : Reads Severity := .coded [(1, error), (2, warning), (3, info), (4, hint)]

def toWire : Severity → Json
  | error => .ofNat 1
  | warning => .ofNat 2
  | info => .ofNat 3
  | hint => .ofNat 4

/-- The editor gives each severity a bit of its own. -/
def readEditor : Reads Severity := .coded [(1, hint), (2, info), (4, warning), (8, error)]

def toEditor : Severity → Json
  | error => .ofNat 8
  | warning => .ofNat 4
  | info => .ofNat 2
  | hint => .ofNat 1

end Severity

namespace DiagnosticTag

def read : Reads DiagnosticTag := .coded [(1, unnecessary), (2, deprecated)]

def toJson : DiagnosticTag → Json
  | unnecessary => .ofNat 1
  | deprecated => .ofNat 2

end DiagnosticTag

end LanguageBridge
