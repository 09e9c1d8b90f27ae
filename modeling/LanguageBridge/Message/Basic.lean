import LanguageBridge.Json.Reading

/-! The three kinds of message that travel over a channel. -/
namespace LanguageBridge

inductive RequestId where
  | number (n : UInt64)
  | text (s : String)
  deriving DecidableEq, Repr

structure ResponseError where
  code : Int32
  message : String
  data : Option Json
  deriving DecidableEq

structure Request where
  version : String
  id : RequestId
  method : String
  params : Option Json
  deriving DecidableEq

structure Response where
  version : String
  id : Option RequestId
  result : Option Json
  error : Option ResponseError
  deriving DecidableEq

structure Notification where
  version : String
  method : String
  params : Option Json
  deriving DecidableEq

inductive Message where
  | request (r : Request)
  | response (r : Response)
  | notification (n : Notification)
  deriving DecidableEq

namespace RequestId

def toString : RequestId → String
  | .number n => n.toNat.repr
  | .text s => "\"" ++ s ++ "\""

def toJson : RequestId → Json
  | .number n => .ofWord64 n
  | .text s => .str s

def read : Reads RequestId :=
  .choice "RequestId" [.mapTo .number .word64, .mapTo .text .string]

end RequestId

namespace ResponseError

def fields : Fields ResponseError :=
  mk <$> .required "code" .int32 <*> .required "message" .string <*> .optional "data" .any

def read : Reads ResponseError := .record "ResponseError" fields

def toJson (e : ResponseError) : Json :=
  .record [.always "code" (.ofInt32 e.code), .always "message" (.str e.message),
    .verbatim "data" e.data]

def toString (e : ResponseError) : String :=
  "[" ++ Text.showInt e.code.toInt ++ "] " ++ e.message

def methodNotFound (method : String) : ResponseError :=
  ⟨-32601, "Method not found: " ++ method, none⟩

def internal (message : String) : ResponseError := ⟨-32603, message, none⟩

end ResponseError

/-- The version every message of this side carries. -/
def protocolVersion : String := "2.0"

namespace Request

def new (id : RequestId) (method : String) (params : Option Json) : Request :=
  ⟨protocolVersion, id, method, params⟩

def fields : Fields Request :=
  mk <$> .required "jsonrpc" .string <*> .required "id" RequestId.read <*>
    .required "method" .string <*> .optional "params" .any

def read : Reads Request := .record "Request" fields

def toJson (r : Request) : Json :=
  .record [.always "jsonrpc" (.str r.version), .always "id" r.id.toJson,
    .always "method" (.str r.method), .verbatim "params" r.params]

end Request

namespace Response

def success (id : RequestId) (result : Json) : Response :=
  ⟨protocolVersion, some id, some result, none⟩

def failure (id : RequestId) (error : ResponseError) : Response :=
  ⟨protocolVersion, some id, none, some error⟩

/-- An error counts before a result, and no result is null. -/
def outcome (r : Response) : Except ResponseError Json :=
  match r.error with
  | some e => .error e
  | none => .ok (r.result.getD .null)

def fields : Fields Response :=
  mk <$> .required "jsonrpc" .string <*> .optional "id" RequestId.read <*>
    .optional "result" .any <*> .optional "error" ResponseError.read

def read : Reads Response := .record "Response" fields

def toJson (r : Response) : Json :=
  .record [.always "jsonrpc" (.str r.version), .always "id" (.nullable RequestId.toJson r.id),
    .verbatim "result" r.result, .whenSome "error" ResponseError.toJson r.error]

end Response

namespace Notification

def new (method : String) (params : Option Json) : Notification :=
  ⟨protocolVersion, method, params⟩

def fields : Fields Notification :=
  mk <$> .required "jsonrpc" .string <*> .required "method" .string <*> .optional "params" .any

def read : Reads Notification := .record "Notification" fields

def toJson (n : Notification) : Json :=
  .record [.always "jsonrpc" (.str n.version), .always "method" (.str n.method),
    .verbatim "params" n.params]

end Notification

namespace Message

def id? : Message → Option RequestId
  | .request r => some r.id
  | .response r => r.id
  | .notification _ => none

def method? : Message → Option String
  | .request r => some r.method
  | .response _ => none
  | .notification n => some n.method

def kind : Message → String
  | .request _ => "request"
  | .response _ => "response"
  | .notification _ => "notification"

def toJson : Message → Json
  | .request r => r.toJson
  | .response r => r.toJson
  | .notification n => n.toJson

end Message

end LanguageBridge
