import LanguageBridge.Channel.Basic
import LanguageBridge.Frame

/-! A channel over a byte stream: frames that come in are delivered, messages that go out are
framed. -/
namespace LanguageBridge

/-- `unread` are bytes that do not make a whole frame yet. -/
structure Link where
  unread : List UInt8
  reading : Bool
  writing : Bool
  peerWrites : Bool
  peerReads : Bool
  deriving DecidableEq, Repr

namespace Link

def fresh : Link := ⟨[], true, true, true, true⟩

/-- Bodies that are no messages are left out. -/
def deliverBody (i : Inbound) (body : String) : Inbound :=
  match Message.decode body with
  | .ok m => i.deliver m
  | .error _ => i

/-- Delivers every whole frame. At the end of the stream, or where it goes wrong, the inbound side
is closed; only where a body is too long to be held, reading just stops and nobody is told. -/
def pumpIn (l : Link) (i : Inbound) : Link × Inbound :=
  if l.reading then
    let (bodies, halt) := Frame.readAll (!l.peerWrites) l.unread
    let delivered := bodies.foldl deliverBody i
    match halt with
    | .starved bytes => ({ l with unread := bytes }, delivered)
    | .failed .tooLong => ({ l with unread := [], reading := false }, delivered)
    | .failed _ => ({ l with unread := [], reading := false }, delivered.close)
  else (l, i)

/-- Writes all messages of the outbox. Writing to a peer that is gone fails, and after that nobody
takes messages any more. -/
def pumpOut (l : Link) (o : Outbox) : Link × Outbox × List UInt8 :=
  if l.writing && !o.queue.isEmpty then
    if l.peerReads then (l, { o with queue := [] }, o.queue.flatMap Frame.writeBytes)
    else ({ l with writing := false }, o.abandon, [])
  else (l, o, [])

/-- Bytes from the peer; says whether they could be sent. -/
def receive (l : Link) (bytes : List UInt8) : Bool × Link :=
  if l.peerWrites && (l.reading || l.writing) then
    (true, { l with unread := if l.reading then l.unread ++ bytes else [] })
  else (false, l)

/-- The peer sends no more. -/
def receiveEnd (l : Link) : Link := { l with peerWrites := false }

/-- The peer is gone. -/
def losePeer (l : Link) : Link := { l with peerWrites := false, peerReads := false }

/-- Nothing is read or written any more. -/
def shutdown (l : Link) : Link := { l with unread := [], reading := false, writing := false }

end Link

end LanguageBridge
