import LanguageBridge.CommandLine.Visit

/-! Runs of the program without a network, against a server that follows a script. -/
namespace LanguageBridge

inductive ScriptedReply where
  | result (value : Json)
  | failure (error : Json)
  | hangUp

/-- What a server says by method: messages it sends when it hears the method, and its reply. -/
structure Script where
  pushes : List (String × List Json)
  replies : List (String × ScriptedReply)

/-- A server under way, with the messages it has heard. -/
structure Actor where
  script : Script
  unread : List UInt8
  heard : List Json
  present : Bool

namespace Script

/-- The handshake of a server with two kinds of tokens. -/
def plainHandshake : Json :=
  let legend : Wire.TokenLegend := ⟨["keyword", "variable"], ["readonly"]⟩
  .obj [("capabilities", .obj [("semanticTokensProvider", .obj [("legend", legend.toJson)])])]

/-- A method without a line in the script has an empty result. -/
def replyTo (s : Script) (method : String) : ScriptedReply :=
  match s.replies.lookup method with
  | some reply => reply
  | none => .result (if method = Method.handshake then plainHandshake else .null)

end Script

namespace Actor

def say (message : Json) : List UInt8 := Frame.writeBytes message.compact

/-- A response with a result or an error. -/
def response (id : Json) (name : String) (value : Json) : Json :=
  .obj [("jsonrpc", .str "2.0"), ("id", id), (name, value)]

/-- Hears one message and answers it; after hanging up nothing is heard. -/
def hearMessage (a : Actor) (message : Json) : Actor × List UInt8 :=
  if !a.present then (a, [])
  else
    let a := { a with heard := a.heard ++ [message] }
    match message.get? "method" with
    | some (.str method) =>
      let pushed := ((a.script.pushes.lookup method).getD []).flatMap say
      match message.get? "id" with
      | none => (a, pushed)
      | some id =>
        match a.script.replyTo method with
        | .result value => (a, pushed ++ say (response id "result" value))
        | .failure error => (a, pushed ++ say (response id "error" error))
        | .hangUp => ({ a with present := false }, pushed)
    | _ => (a, [])

def hearMessages (a : Actor) : List Json → Actor × List UInt8
  | [] => (a, [])
  | message :: rest =>
    let (a, said) := a.hearMessage message
    let (a, more) := a.hearMessages rest
    (a, said ++ more)

/-- Hears bytes, and says bytes. -/
def hear (a : Actor) (bytes : List UInt8) : Actor × List UInt8 :=
  let (bodies, halt) := Frame.readAll false (a.unread ++ bytes)
  let unread := match halt with
    | .starved rest => rest
    | .failed _ => []
  { a with unread := unread }.hearMessages (bodies.filterMap fun b => (Json.parse b).toOption)

end Actor

namespace Visit

/-- Goes back and forth between a visit and a server until the visit is over. When neither has
anything to say, time passes. -/
def rehearse : (fuel : Nat) → VisitStep → Actor → Ending × Actor
  | 0, _, actor => (.raised "the rehearsal is too long", actor)
  | fuel + 1, step, actor =>
    let (next, said) := actor.hear step.sent
    match step.ending with
    | some ending => (ending, next)
    | none =>
      let leaves := actor.present && !next.present
      let event : VisitEvent :=
        if !said.isEmpty then .bytes said
        else if leaves then .disconnected
        else .elapsed step.visit.patience
      let after := step.visit.handle event
      rehearse fuel (if leaves then after.andThen .disconnected else after) next

end Visit

/-- How a run ended, what the server heard, and the files after it. -/
structure Performance where
  ending : Ending
  heard : List Json
  files : Storage

/-- Runs the program on words. A server at an address may be there; every other address refuses. -/
def Surroundings.rehearse (s : Surroundings) (server : Option (String × Script))
    (words : List String) : Performance :=
  match Invocation.parse words with
  | .error stop => ⟨⟨stop.status, stop.output⟩, [], s.files⟩
  | .ok invocation =>
    match s.plan invocation with
    | .finished ending files => ⟨ending, [], files⟩
    | .visit errand =>
      let refused := errand.unreachable "Connection refused (os error 111)"
      match server with
      | none => ⟨refused, [], s.files⟩
      | some (address, script) =>
        if errand.address = address then
          let (ending, actor) := Visit.rehearse 100 (Visit.start errand) ⟨script, [], [], true⟩
          ⟨ending, actor.heard, s.files⟩
        else ⟨refused, [], s.files⟩

end LanguageBridge
