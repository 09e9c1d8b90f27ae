import LanguageBridge.Link
import LanguageBridge.Proofs.Framing
import LanguageBridge.Proofs.Inbound
import LanguageBridge.Proofs.Resolution

/-! Messages over a byte stream that may break off anywhere. What was written whole is delivered, in
order and whatever pieces it arrives in; of the rest nothing is, and the inbound side is closed. -/
namespace LanguageBridge

namespace Frame

section ReadAll

variable {ended : Bool} {bytes rest : List UInt8}

theorem readAll_body {text : String} (step : read ended bytes = .body text rest) :
    readAll ended bytes = (text :: (readAll ended rest).1,(readAll ended rest).2) := by
  rw [readAll]
  split <;> simp_all

theorem readAll_failed {e : Error} (step : read ended bytes = .failed e rest) :
    readAll ended bytes = ([],.failed e) := by
  rw [readAll]
  split <;> simp_all

theorem readAll_starved (step : read ended bytes = .starved) :
    readAll ended bytes = ([],.starved bytes) := by
  rw [readAll]
  split <;> simp_all

end ReadAll

/-- What has been read need not be read again when more bytes come: reading goes on where it was
starved, and where it failed it stays failed. -/
theorem readAll_append (ended : Bool) (bytes more : List UInt8) :
    (∃ rest, (readAll false bytes).2 = .starved rest ∧ readAll ended (bytes ++ more) =
      ((readAll false bytes).1 ++ (readAll ended (rest ++ more)).1,
        (readAll ended (rest ++ more)).2)) ∨
    ∃ e, (readAll false bytes).2 = .failed e ∧
      readAll ended (bytes ++ more) = ((readAll false bytes).1,.failed e) := by
  have onward := readFrom_append ended none bytes more
  cases step : read false bytes with
  | starved =>
    refine .inl ⟨bytes,?_⟩
    simp [readAll_starved step]
  | failed e rest =>
    have now : readFrom false none bytes = .failed e rest := step
    have same : read ended (bytes ++ more) = .failed e (rest ++ more) := by
      simpa [read,now,Step.extend] using onward
    refine .inr ⟨e,?_⟩
    simp [readAll_failed step,readAll_failed same]
  | body text rest =>
    have now : readFrom false none bytes = .body text rest := step
    have same : read ended (bytes ++ more) = .body text (rest ++ more) := by
      simpa [read,now,Step.extend] using onward
    have shorter : rest.length < bytes.length := readFrom_body_lt now
    rw [readAll_body step,readAll_body same]
    rcases readAll_append ended rest more with ⟨left,starved,whole⟩ | ⟨e,failed,whole⟩
    · exact .inl ⟨left,starved,by rw [whole]; rfl⟩
    · exact .inr ⟨e,failed,by rw [whole]⟩
termination_by bytes.length

/-- A stream that has ended is read to a failure. -/
theorem readAll_ended (bytes : List UInt8) : ∃ e, (readAll true bytes).2 = .failed e := by
  cases step : read true bytes with
  | starved => exact absurd step (readFrom_ended_ne_starved none bytes)
  | failed e rest => exact ⟨e,by rw [readAll_failed step]⟩
  | body text rest =>
    have shorter : rest.length < bytes.length := readFrom_body_lt step
    rw [readAll_body step]
    exact readAll_ended rest
termination_by bytes.length

/-- A last step that brings nothing, but perhaps an empty body at the very end. -/
def Step.Spent : Step → Prop
  | .body text rest => text = "" ∧ rest = []
  | .failed e _ => e ≠ .tooLong
  | .starved => False

theorem splitLine_feedless {bytes : List UInt8} (feedless : (10 : UInt8) ∉ bytes) :
    splitLine bytes = (bytes,[]) := by
  induction bytes with
  | nil => rfl
  | cons b rest ih =>
    have other : b ≠ 10 := fun same => feedless (by simp [same])
    rw [splitLine,if_neg other,ih fun member => feedless (by simp [member])]

theorem header_ne_tooLong (line : List UInt8) : header line ≠ .error .tooLong := by
  unfold header
  split
  · simp
  · dsimp only
    split
    · simp
    · split
      · split <;> simp
      · simp

theorem readFrom_nil (length : Option Nat) : readFrom true length [] = .failed .closed [] := by
  rw [readFrom]
  rfl

/-- A header line that breaks off is not believed, whatever it says. -/
theorem readFrom_feedless {bytes : List UInt8} (feedless : (10 : UInt8) ∉ bytes) :
    (readFrom true none bytes).Spent := by
  cases bytes with
  | nil => simp [readFrom_nil,Step.Spent]
  | cons b rest =>
    have bounded := header_ne_tooLong (b :: rest)
    rw [readFrom]
    simp only [splitLine_feedless feedless,not_true_eq_false,and_false,if_false]
    split
    next e failed => exact fun long => bounded (long ▸ failed)
    next => simp [Step.Spent]
    next => simp [readFrom_nil,Step.Spent]
    next => simp [readFrom_nil,Step.Spent]

/-- A body that breaks off is not delivered, and neither is one whose empty line does, unless there
is nothing to deliver. -/
theorem readFrom_cut {body : List UInt8} (held : body.length < bodyLimit) {kept : Nat}
    (cut : kept < (lineEnd ++ body).length) :
    (readFrom true (some body.length) ((lineEnd ++ body).take kept)).Spent := by
  have fits : ¬bodyLimit ≤ body.length := Nat.not_le.mpr held
  match kept with
  | 0 => simp [readFrom_nil,Step.Spent]
  | 1 =>
    have finish : header [13] = .ok .finish := by rfl
    have single : splitLine [13] = ([13],[]) := by decide
    have step : readFrom true (some body.length) [13] = takeBody true body.length [] := by
      rw [readFrom]
      simp [single,finish]
    change (readFrom true (some body.length) [13]).Spent
    rw [step,takeBody,if_neg fits]
    split
    next none =>
      obtain rfl : body = [] := by simpa using none
      exact ⟨rfl,rfl⟩
    next => simp [Step.Spent]
  | kept + 2 =>
    have short : ¬body.length ≤ (body.take kept).length := by
      simp [lineEnd] at cut ⊢
      omega
    change (readFrom true (some body.length) (lineEnd ++ body.take kept)).Spent
    rw [readFrom_lineEnd,takeBody,if_neg fits,if_neg short]
    simp [Step.Spent]

/-- A frame that breaks off brings nothing. -/
theorem read_cut {text : String} (held : text.utf8ByteSize < bodyLimit) {kept : Nat}
    (cut : kept < (writeBytes text).length) : (read true ((writeBytes text).take kept)).Spent := by
  have body : (Text.encodeUtf8 text).length = text.utf8ByteSize := Text.length_encodeUtf8 text
  let line := lengthLine text.utf8ByteSize (Nat.lt_trans held (by decide))
  have frame : writeBytes text = line.bytes ++ (lineEnd ++ Text.encodeUtf8 text) := by
    rw [writeBytes_eq,HeaderLine.bytes,List.append_assoc]
    rfl
  rw [frame] at cut ⊢
  by_cases inside : kept < line.bytes.length
  · have feedless : (10 : UInt8) ∉ Text.encodeUtf8 line.text ++ [13] := by
      intro member
      rcases List.mem_append.mp member with feed | feed
      · exact line.oneLine (Text.feed_mem_encodeUtf8 feed)
      · simp at feed
    have ends : line.bytes = (Text.encodeUtf8 line.text ++ [13]) ++ [10] := by
      simp [HeaderLine.bytes,lineEnd]
    rw [ends,List.length_append,List.length_singleton] at inside
    rw [List.take_append_of_le_length (by rw [ends,List.length_append]; omega),ends,
      List.take_append_of_le_length (by omega)]
    exact readFrom_feedless fun member => feedless (List.mem_of_mem_take member)
  · have whole : line.bytes.length ≤ kept := Nat.not_lt.mp inside
    rw [List.take_append,List.take_of_length_le whole,read,readFrom_headerLine]
    change (readFrom true (some text.utf8ByteSize) _).Spent
    rw [← body]
    apply readFrom_cut
    · rw [body]
      exact held
    · rw [List.length_append] at cut
      omega

/-- A written frame is read back whatever follows it. -/
theorem read_writeBytes {text : String} (held : text.utf8ByteSize < bodyLimit) (rest : List UInt8) :
    read true (writeBytes text ++ rest) = .body text rest := by
  obtain ⟨answer,delivers,step⟩ := (Envelope.ofText text held).read_bytes rest
  rw [Envelope.bytes_ofText] at step
  rw [step,delivers.1 text rfl]
  rfl

/-- After a spent step there is nothing to read, unless it is an empty body. -/
theorem readAll_spent {bytes : List UInt8} (spent : (read true bytes).Spent) :
    ∃ e, e ≠ .tooLong ∧
      (readAll true bytes = ([],.failed e) ∨ readAll true bytes = ([""],.failed e)) := by
  cases step : read true bytes with
  | starved => simp [step,Step.Spent] at spent
  | failed e rest =>
    rw [step] at spent
    exact ⟨e,spent,.inl (readAll_failed step)⟩
  | body text rest =>
    rw [step] at spent
    obtain ⟨rfl,rfl⟩ := spent
    have ended : readAll true [] = ([],.failed .closed) := readAll_failed (readFrom_nil none)
    exact ⟨.closed,by simp,.inr (by rw [readAll_body step,ended])⟩

end Frame

namespace Link

def feed (state : Link × Inbound) (piece : List UInt8) : Link × Inbound :=
  (state.1.receive piece).2.pumpIn state.2

def finish (state : Link × Inbound) : Link × Inbound := state.1.receiveEnd.pumpIn state.2

def readPieces (i : Inbound) (pieces : List (List UInt8)) : Link × Inbound :=
  finish (pieces.foldl feed (fresh,i))

def conclude (i : Inbound) : Frame.Halt → Inbound
  | .failed .tooLong => i
  | _ => i.close

theorem conclude_failed {e : Frame.Error} (bounded : e ≠ .tooLong) (i : Inbound) :
    conclude i (.failed e) = i.close := by
  unfold conclude
  split
  next same => exact absurd (Frame.Halt.failed.inj same) bounded
  next => rfl

/-- Once reading has stopped nothing comes in any more. -/
theorem feed_stopped {state : Link × Inbound} (stopped : state.1.reading = false)
    (pieces : List (List UInt8)) :
    (pieces.foldl feed state).1.reading = false ∧ (pieces.foldl feed state).2 = state.2 := by
  induction pieces generalizing state with
  | nil => exact ⟨stopped,rfl⟩
  | cons piece pieces ih =>
    have still : (state.1.receive piece).2.reading = false := by
      unfold receive
      split <;> exact stopped
    have unmoved : feed state piece = ((state.1.receive piece).2,state.2) := by
      simp [feed,pumpIn,still]
    rw [List.foldl_cons,unmoved]
    exact ih still

/-- Where the pieces are cut makes no difference to what is delivered. -/
theorem finish_feed {l : Link} (reading : l.reading = true) (connected : l.peerWrites = true)
    (i : Inbound) (pieces : List (List UInt8)) {bodies : List String} {halt : Frame.Halt}
    (whole : Frame.readAll true (l.unread ++ pieces.flatten) = (bodies,halt)) :
    (finish (pieces.foldl feed (l,i))).1.reading = false ∧
      (finish (pieces.foldl feed (l,i))).2 = conclude (bodies.foldl deliverBody i) halt := by
  induction pieces generalizing l i bodies with
  | nil =>
    obtain ⟨e,failed⟩ := Frame.readAll_ended l.unread
    rw [List.flatten_nil,List.append_nil] at whole
    obtain rfl : halt = .failed e := by simpa [whole] using failed
    simp only [List.foldl_nil,finish,pumpIn,receiveEnd,reading,if_true,Bool.not_false,whole]
    cases e <;> exact ⟨rfl,rfl⟩
  | cons piece pieces ih =>
    have taken : (l.receive piece).2 = { l with unread := l.unread ++ piece } := by
      simp [receive,connected,reading]
    rw [List.flatten_cons,← List.append_assoc] at whole
    rw [List.foldl_cons]
    rcases Frame.readAll_append true (l.unread ++ piece) pieces.flatten with
      ⟨rest,starved,onward⟩ | ⟨e,failed,onward⟩
    · have fed : feed (l,i) piece = ({ l with unread := rest },
          (Frame.readAll false (l.unread ++ piece)).1.foldl deliverBody i) := by
        simp [feed,taken,pumpIn,reading,connected,starved]
      obtain ⟨rfl,rfl⟩ := Prod.mk.inj (whole.symm.trans onward)
      rw [fed,List.foldl_append]
      exact ih (l := { l with unread := rest }) reading connected _ rfl
    · have fed : (feed (l,i) piece).1.reading = false ∧ (feed (l,i) piece).2 =
          conclude ((Frame.readAll false (l.unread ++ piece)).1.foldl deliverBody i) (.failed e) := by
        simp only [feed,taken,pumpIn,reading,connected,if_true,Bool.not_true,failed]
        cases e <;> exact ⟨rfl,rfl⟩
      obtain ⟨rfl,rfl⟩ := Prod.mk.inj (whole.symm.trans onward)
      obtain ⟨stopped,unmoved⟩ := feed_stopped fed.1 pieces
      rw [← fed.2,← unmoved]
      simp [finish,pumpIn,receiveEnd,stopped]

theorem deliverBody_empty (i : Inbound) : deliverBody i "" = i := by
  have none : Message.decode "" = .error (.text .endOfInput) := by rfl
  simp [deliverBody,none]

end Link

/-- What can be put on a stream: a message that reads back as itself, or a text that is no message,
either short enough to be held. -/
inductive Parcel where
  | message (m : Message) (faithful : Message.decode m.encode = .ok m)
      (held : m.encode.utf8ByteSize < Frame.bodyLimit)
  | noise (text : String) (rejected : ∀ m, Message.decode text ≠ .ok m)
      (held : text.utf8ByteSize < Frame.bodyLimit)

namespace Parcel

def text : Parcel → String
  | message m _ _ => m.encode
  | noise text _ _ => text

def message? : Parcel → Option Message
  | message m _ _ => some m
  | noise _ _ _ => none

def frame (p : Parcel) : List UInt8 := Frame.writeBytes p.text

theorem held (p : Parcel) : p.text.utf8ByteSize < Frame.bodyLimit := by
  cases p <;> assumption

def post (o : Outbox) : Parcel → Except CallError Outbox
  | message m _ _ => o.send m
  | noise text _ _ => o.enqueue text

/-- The parcels whose frames lie wholly within so many bytes of a stream. -/
def arrived : Nat → List Parcel → List Parcel
  | _, [] => []
  | kept, p :: ps =>
    if p.frame.length ≤ kept then p :: arrived (kept - p.frame.length) ps else []

def messages (ps : List Parcel) : List Message := ps.filterMap message?

theorem deliverBody_text (i : Inbound) (p : Parcel) :
    Link.deliverBody i p.text = p.message?.elim i i.deliver := by
  cases p with
  | message m faithful _ => simp [Link.deliverBody,text,message?,faithful]
  | noise text rejected _ =>
    simp only [Link.deliverBody,Parcel.text,message?,Option.elim]
    split
    next m decoded => exact absurd decoded (rejected m)
    next => rfl

theorem deliverBodies (i : Inbound) (ps : List Parcel) :
    (ps.map text).foldl Link.deliverBody i = (messages ps).foldl Inbound.deliver i := by
  induction ps generalizing i with
  | nil => rfl
  | cons p ps ih =>
    rw [List.map_cons,List.foldl_cons,deliverBody_text,ih]
    cases kind : p.message? <;> simp [messages,kind]

/-- A stream that breaks off holds the frames that arrived and nothing else that could be delivered. -/
theorem readAll_take (ps : List Parcel) (kept : Nat) :
    ∃ e tail, e ≠ .tooLong ∧ (tail = [] ∨ tail = [""]) ∧
      Frame.readAll true ((ps.flatMap frame).take kept) =
        ((arrived kept ps).map text ++ tail,.failed e) := by
  induction ps generalizing kept with
  | nil =>
    refine ⟨.closed,[],by simp,.inl rfl,?_⟩
    rw [List.flatMap_nil,List.take_nil]
    exact Frame.readAll_failed (Frame.readFrom_nil none)
  | cons p ps ih =>
    rw [List.flatMap_cons]
    by_cases whole : p.frame.length ≤ kept
    · obtain ⟨e,tail,bounded,empty,rest⟩ := ih (kept - p.frame.length)
      have step : Frame.read true (p.frame ++ (ps.flatMap frame).take (kept - p.frame.length)) =
          .body p.text ((ps.flatMap frame).take (kept - p.frame.length)) :=
        Frame.read_writeBytes p.held _
      refine ⟨e,tail,bounded,empty,?_⟩
      rw [List.take_append,List.take_of_length_le whole,arrived,if_pos whole,
        Frame.readAll_body step,rest]
      rfl
    · have cut : kept < p.frame.length := Nat.not_le.mp whole
      obtain ⟨e,bounded,spent⟩ := Frame.readAll_spent (Frame.read_cut p.held cut)
      rw [List.take_append_of_le_length (Nat.le_of_lt cut),arrived,if_neg whole]
      rcases spent with read | read
      · exact ⟨e,[],bounded,.inl rfl,read⟩
      · exact ⟨e,[""],bounded,.inr rfl,read⟩

theorem post_all {o : Outbox} (taking : o.abandoned = false) (ps : List Parcel) :
    ps.foldlM post o = .ok { o with queue := o.queue ++ ps.map text } := by
  induction ps generalizing o with
  | nil => simp [pure,Except.pure]
  | cons p ps ih =>
    have posted : post o p = .ok { o with queue := o.queue ++ [p.text] } := by
      cases p <;> simp [post,Outbox.send,Outbox.enqueue,taking,text]
    have onward := ih (o := { o with queue := o.queue ++ [p.text] }) taking
    rw [List.append_assoc] at onward
    rw [List.foldlM_cons,posted]
    exact onward

end Parcel

namespace Link

def writeBatches (l : Link) (o : Outbox) : List (List Parcel) → Except CallError (List UInt8)
  | [] => .ok []
  | batch :: rest =>
    match batch.foldlM Parcel.post o with
    | .error e => .error e
    | .ok o => (writeBatches (l.pumpOut o).1 (l.pumpOut o).2.1 rest).map ((l.pumpOut o).2.2 ++ ·)

theorem pumpOut_eq {l : Link} (writing : l.writing = true) (connected : l.peerReads = true)
    (texts : List String) :
    l.pumpOut ⟨texts,false⟩ = (l,.empty,texts.flatMap Frame.writeBytes) := by
  cases texts with
  | nil => simp [pumpOut,Outbox.empty]
  | cons text texts => simp [pumpOut,Outbox.empty,writing,connected]

/-- The stream is the frames of all parcels, however they were batched. -/
theorem writeBatches_eq {l : Link} (writing : l.writing = true) (connected : l.peerReads = true)
    (batches : List (List Parcel)) :
    l.writeBatches .empty batches = .ok (batches.flatten.flatMap Parcel.frame) := by
  induction batches with
  | nil => rfl
  | cons batch rest ih =>
    have posted : batch.foldlM Parcel.post .empty = .ok ⟨batch.map Parcel.text,false⟩ :=
      Parcel.post_all rfl batch
    have frames : (batch.map Parcel.text).flatMap Frame.writeBytes = batch.flatMap Parcel.frame :=
      List.flatMap_map ..
    simp only [writeBatches,posted,pumpOut_eq writing connected,ih,frames,List.flatten_cons,
      List.flatMap_append]
    rfl

end Link

/-- What a broken stream leaves behind at an inbound side `i` that took in the messages `ms`: reading is
over, every subscriber gets what it had not received and then its share of `ms`, every response went to
the table and from there to the handle that waited for it, and all three parts are closed. -/
structure Conveyed (i : Inbound) (ms : List Message) (final : Link × Inbound) : Prop where
  ended : final.1.reading = false
  requests : ∀ key, (i.requests.queue? key).isSome → ∃ rest, final.2.requests.drain key =
    (i.requests.buffered key ++ ms.filterMap Message.request?,true,rest)
  notifications : ∀ key, (i.notifications.queue? key).isSome → ∃ rest,
    final.2.notifications.drain key =
      (i.notifications.buffered key ++ ms.filterMap Message.notification?,true,rest)
  table : final.2.pending = (i.pending.resolveAll (ms.filterMap Message.response?)).close
  waiters : ∀ h, final.2.pending.poll h =
    if (i.pending.resolveAll (ms.filterMap Message.response?)).poll h = .waiting then .closed
    else (i.pending.resolveAll (ms.filterMap Message.response?)).poll h
  answered : ∀ live, i.pending.Sound live → ∀ h ∈ live, i.pending.poll h = .waiting →
    ∀ before r after, ms.filterMap Message.response? = before ++ r :: after →
      (∀ s ∈ before, s.Apart r) → i.pending.Designates r.id (some h.id) →
      final.2.pending.poll h = .ready r
  unanswered : ∀ live, i.pending.Sound live → ∀ h ∈ live, i.pending.poll h = .waiting →
    (∀ r ∈ ms.filterMap Message.response?, ∀ id ∈ r.id, ¬ id.Equivalent h.id) →
    final.2.pending.poll h = .closed
  refused : ∀ id, final.2.pending.register id = .error .channelClosed

/-- A subscriber to a sequence that was published to and then closed. -/
theorem Fanout.drain_closed {α : Type} {f : Fanout α} (unshut : f.closed = false) (items : List α)
    {key : Nat} (subscribed : (f.queue? key).isSome) :
    ∃ rest, (items.foldl publish f).close.drain key = (f.buffered key ++ items,true,rest) := by
  obtain ⟨old,found⟩ := Option.isSome_iff_exists.mp subscribed
  refine ⟨_,Prod.ext ?_ (Prod.ext ?_ rfl)⟩
  · change (items.foldl publish f).close.buffered key = _
    rw [buffered_eq,queue?_close,queue?_publishAll,buffered_eq,found,unshut]
    simp
  · rfl

theorem Conveyed.of_delivered {i : Inbound} (requests : i.requests.closed = false)
    (notifications : i.notifications.closed = false) {ms : List Message} {final : Link × Inbound}
    (ended : final.1.reading = false) (inbound : final.2 = (ms.foldl Inbound.deliver i).close) :
    Conveyed i ms final := by
  have table : final.2.pending =
      (i.pending.resolveAll (ms.filterMap Message.response?)).close := by
    rw [inbound,← Inbound.pending_deliverAll]
    rfl
  have waiters : ∀ h, final.2.pending.poll h =
      if (i.pending.resolveAll (ms.filterMap Message.response?)).poll h = .waiting then .closed
      else (i.pending.resolveAll (ms.filterMap Message.response?)).poll h := by
    intro h
    rw [table]
    exact Pending.poll_close _ h
  refine ⟨ended,fun key subscribed => ?_,fun key subscribed => ?_,table,waiters,?_,?_,fun id => ?_⟩
  · rw [inbound,Inbound.close,Inbound.requests_deliverAll]
    exact Fanout.drain_closed requests _ subscribed
  · rw [inbound,Inbound.close,Inbound.notifications_deliverAll]
    exact Fanout.drain_closed notifications _ subscribed
  · intro live sound h held waiting before r after split apart designates
    have own : i.pending.taker? r = some h.id := (Pending.designates_iff.mp designates).symm
    rw [waiters,split,sound.poll_first held waiting apart own]
    rfl
  · intro live sound h held waiting other
    rw [waiters,sound.poll_unmeant held other,waiting]
    rfl
  · rw [table]
    rfl

/-- Parcels are written in any batches, the stream is cut anywhere and arrives in any pieces: the
messages whose frames arrived whole are delivered in order, and then the inbound side is closed. -/
theorem stream_conveyed (batches : List (List Parcel)) (i : Inbound)
    (requests : i.requests.closed = false) (notifications : i.notifications.closed = false) :
    ∃ bytes, Link.fresh.writeBatches .empty batches = .ok bytes ∧
      ∀ (kept : Nat) (pieces : List (List UInt8)), pieces.flatten = bytes.take kept →
        Conveyed i (Parcel.messages (Parcel.arrived kept batches.flatten))
          (Link.readPieces i pieces) := by
  refine ⟨_,Link.writeBatches_eq rfl rfl batches,fun kept pieces cut => ?_⟩
  obtain ⟨e,tail,bounded,empty,read⟩ := Parcel.readAll_take batches.flatten kept
  rw [← cut] at read
  obtain ⟨ended,inbound⟩ := Link.finish_feed (l := .fresh) rfl rfl i pieces read
  have spent : ∀ j, tail.foldl Link.deliverBody j = j := by
    intro j
    rcases empty with rfl | rfl
    · rfl
    · exact Link.deliverBody_empty j
  rw [List.foldl_append,spent,Parcel.deliverBodies,Link.conclude_failed bounded] at inbound
  exact .of_delivered requests notifications ended inbound

namespace Parcel

def attended : Inbound :=
  ⟨Fanout.empty.subscribe.2,Fanout.empty.subscribe.2,
    ⟨false,2,[(.number 2,1),(.number 1,0)],[]⟩⟩

def question : Message := .request (.new (.text "é") "ask" none)

def reply : Message := .response (.success (.number 1) (.str "Content-Length: 9"))

/-- A request and a broken text, then a response and a notification. -/
def mail : List (List Parcel) :=
  [[.message question (by decide +kernel) (by decide +kernel),
      .noise "\x7b" (fun m decoded => by
        rw [show Message.decode "\x7b" = .error (.text .endOfInput) by decide +kernel] at decoded
        cases decoded) (by decide +kernel)],
    [.message reply (by decide +kernel) (by decide +kernel),
      .message (.notification (.new "late" none)) (by decide +kernel) (by decide +kernel)]]

theorem attended_sound : attended.pending.Sound {⟨0,.number 1⟩,⟨1,.number 2⟩} := by
  constructor <;> simp [attended]

/-- The stream breaks off in the length of the last frame; the response before it has reached its
handle. -/
theorem mail_conveyed :
    (attended.requests.closed = false ∧ attended.notifications.closed = false) ∧
    ∃ bytes, Link.fresh.writeBatches .empty mail = .ok bytes ∧ bytes.length = 216 ∧
      Conveyed attended [question,reply]
        (Link.readPieces attended [bytes.take 40,(bytes.take 178).drop 40]) ∧
      (Link.readPieces attended [bytes.take 40,(bytes.take 178).drop 40]).2.pending.poll
        ⟨0,.number 1⟩ = .ready (.success (.number 1) (.str "Content-Length: 9")) ∧
      (Link.readPieces attended [bytes.take 40,(bytes.take 178).drop 40]).2.pending.poll
        ⟨1,.number 2⟩ = .closed := by
  obtain ⟨bytes,written,all⟩ := stream_conveyed mail attended rfl rfl
  have whole : messages (arrived 178 mail.flatten) = [question,reply] := by decide +kernel
  have size : bytes.length = 216 := by
    have frames : (mail.flatten.flatMap frame).length = 216 := by decide +kernel
    rw [Link.writeBatches_eq rfl rfl] at written
    rw [← Except.ok.inj written,frames]
  have joined : [bytes.take 40,(bytes.take 178).drop 40].flatten = bytes.take 178 := by
    have first : bytes.take 40 = (bytes.take 178).take 40 := by simp [List.take_take]
    rw [first,List.flatten_cons,List.flatten_singleton,List.take_append_drop]
  have conveyed := all 178 _ joined
  rw [whole] at conveyed
  refine ⟨⟨rfl,rfl⟩,bytes,written,size,conveyed,?_,?_⟩
  · exact conveyed.answered _ attended_sound ⟨0,.number 1⟩ (by simp) (by decide) [] _ [] rfl (by simp)
      (.own (by decide))
  · exact conveyed.unanswered _ attended_sound ⟨1,.number 2⟩ (by simp) (by decide) (by decide)

end Parcel

end LanguageBridge
