import LanguageBridge.Duration
import LanguageBridge.Message.Codec

/-! What can go wrong with a call, and with a capability asked through the bridge. -/
namespace LanguageBridge

inductive CallError where
  | channelClosed
  | writerClosed
  | duplicateId (id : RequestId)
  | timeout (method : String) (after : Duration)
  | cancelled
  | server (code : Int32) (message : String)
  | protocol (reason : String)
  | decode (e : DecodeError)
  deriving DecidableEq

namespace CallError

def kind : CallError → String
  | channelClosed => "ChannelClosed"
  | writerClosed => "WriterClosed"
  | duplicateId _ => "DuplicateRequestId"
  | timeout _ _ => "Timeout"
  | cancelled => "Cancelled"
  | server _ _ => "ServerError"
  | protocol _ => "Protocol"
  | decode _ => "Json"

def ofResponse (e : ResponseError) : CallError := .server e.code e.message

/-- Texts that are no JSON have no message of their own. -/
def message : CallError → String
  | .channelClosed => "Channel closed"
  | .writerClosed => "Writer already ended"
  | .duplicateId id => "Request id " ++ id.toString ++ " is already outstanding"
  | .timeout method after =>
    "'" ++ method ++ "' timed out after " ++ toString after.milliseconds ++ "ms"
  | .cancelled => "Request cancelled"
  | .server code text => "Server error [" ++ Text.showInt code.toInt ++ "]: " ++ text
  | .protocol reason => "Protocol error: " ++ reason
  | .decode (.data e) => e.message
  | .decode (.text _) => ""

def cancelledCode : Int32 := -32800

def modifiedCode : Int32 := -32801

/-- The error code of the failure; a server's own code is kept. -/
def code : CallError → Int32
  | .server code _ => code
  | .timeout _ _ => -32001
  | .channelClosed | .writerClosed => -32003
  | .cancelled => cancelledCode
  | .protocol _ | .decode _ => -32700
  | .duplicateId _ => -32000

def isCancelled : CallError → Bool
  | .cancelled => true
  | .server code _ => code = cancelledCode
  | _ => false

/-- Whether the same call on the same channel may succeed later. -/
def isRecoverable : CallError → Bool
  | .timeout _ _ | .cancelled => true
  | .server code _ => code = cancelledCode || code = modifiedCode
  | _ => false

end CallError

inductive BridgeError where
  | call (e : CallError)
  | handshake (reason : String)
  | conversion (capability : String) (reason : String)
  | unknownLanguage (id : String)
  deriving DecidableEq

def BridgeError.message : BridgeError → String
  | .call e => e.message
  | .handshake reason => "Handshake failed: " ++ reason
  | .conversion capability reason =>
    "Failed to translate " ++ capability ++ " response: " ++ reason
  | .unknownLanguage id => "Language not registered: " ++ id

end LanguageBridge
