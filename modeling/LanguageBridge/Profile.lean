import LanguageBridge.Duration
import LanguageBridge.Method
import LanguageBridge.Settings.Basic

/-! How a session presents itself and how long it waits for each method. -/
namespace LanguageBridge

/-- Methods of one kind share a multiple of the base deadline. -/
inductive Operation where
  | request
  | rename
  | handshake
  deriving DecidableEq, Repr

namespace Operation

def ofMethod (method : String) : Operation :=
  if method = Method.rename ∨ method = Method.prepareRename then .rename
  else if method = Method.handshake then .handshake
  else .request

def multiplier : Operation → UInt32
  | request => 1
  | rename => 10
  | handshake => 2

def name : Operation → String
  | request => "Request"
  | rename => "Rename"
  | handshake => "Initialization"

end Operation

structure Profile where
  base : Duration
  clientName : String
  clientVersion : Option String
  owner : String
  deriving DecidableEq

namespace Profile

def ofSettings (s : Settings) : Profile where
  base := .ofSeconds s.deadline.seconds
  clientName := s.client.name
  clientVersion := s.client.version
  owner := s.diagnostics.owner

/-- How long a request with this method may take. -/
def deadline (p : Profile) (method : String) : Duration :=
  p.base.scale (Operation.ofMethod method).multiplier

end Profile

end LanguageBridge
