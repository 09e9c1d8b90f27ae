import LanguageBridge.Json.Parser
import LanguageBridge.Json.Printer
import LanguageBridge.Message.Basic

/-! Messages as JSON text. -/
namespace LanguageBridge

/-- Why a text is no message: it is no JSON, or its value has the wrong shape. -/
inductive DecodeError where
  | text (e : Json.ParseError)
  | data (e : ReadError)
  deriving DecidableEq, Repr

namespace Message

def encode (m : Message) : String := m.toJson.compact

/-- An id and a method make a request, an id alone a response, a method alone a notification. -/
def ofJson (j : Json) : Except ReadError Message :=
  match j.get? "id", j.get? "method" with
  | some _, some _ => (Request.read j).map .request
  | some _, none => (Response.read j).map .response
  | none, some _ => (Notification.read j).map .notification
  | none, none => .error .shapeless

def decode (text : String) : Except DecodeError Message :=
  match Json.parse text with
  | .error e => .error (.text e)
  | .ok j =>
    match ofJson j with
    | .ok m => .ok m
    | .error e => .error (.data e)

end Message

end LanguageBridge
