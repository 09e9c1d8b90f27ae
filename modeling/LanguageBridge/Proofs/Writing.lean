import LanguageBridge.Proofs.Exchange
import LanguageBridge.Writer

/-! Writing to a channel. A message that is refused leaves the channel as it was, and a request whose
time is up takes its own entry with it and no other. -/
namespace LanguageBridge

namespace Pending

variable {p q : Pending} {id : RequestId} {h : Handle}

theorem register_error_iff {e : CallError} :
    p.register id = .error e ↔
      p.closed = true ∧ e = .channelClosed ∨
      p.closed = false ∧ p.isPending id = true ∧ e = .duplicateId id := by
  rw [register,eq_comm (a := e),eq_comm (a := e)]
  cases closed : p.closed with
  | true => simp
  | false => cases waited : p.isPending id <;> simp

/-- To register an id and to drop the handle again uses up a ticket and does nothing else. -/
theorem drop_register (issued : ∀ m ∈ p.mail, m.1 < p.next) (ok : p.register id = .ok (h,q)) :
    q.drop h = { p with next := p.next + 1 } := by
  obtain ⟨_,free,rfl,rfl⟩ := register_cases ok
  -- to drop is to forget the id whoever waits for it, but the registration showed that nobody did
  have absent : p.waiters.lookup id = none := by simpa [isPending] using free
  have waiters : ((id,p.next) :: p.waiters).filter (·.1 ≠ id) = p.waiters := by
    rw [List.filter_cons_of_neg (by simp),Lookup.filter_ne_of_lookup absent]
  -- and no mail can be addressed to a ticket that is only now issued
  have mail : p.mail.filter (·.1 ≠ p.next) = p.mail := by
    rw [List.filter_eq_self]
    exact fun m letter => decide_eq_true (issued m letter).ne
  simp only [drop,forget,collect,waiters,mail]

def Vacated (p : Pending) (h : Handle) (q : Pending) : Prop :=
  ∃ before after, p.waiters = before ++ (h.id,h.ticket) :: after ∧
    (∀ w ∈ before ++ after, w.1 ≠ h.id) ∧ q = { p with waiters := before ++ after }

namespace Sound

variable {live : Set Handle}

theorem mail_issued (sound : p.Sound live) : ∀ m ∈ p.mail, m.1 < p.next := by
  intro m letter
  obtain ⟨g,held,ticket⟩ := sound.addressed m letter
  exact ticket ▸ sound.issued g held

theorem renumber (sound : p.Sound live) {next : Nat} (later : p.next ≤ next) :
    ({ p with next := next } : Pending).Sound live :=
  ⟨sound.distinct,fun g held => (sound.issued g held).trans_le later,sound.keys,sound.owned,
    sound.addressed,sound.apart,sound.shut⟩

/-- A handle that waits is dropped with its own entry. -/
theorem vacated_drop (sound : p.Sound live) (held : h ∈ live) (waiting : p.poll h = .waiting) :
    p.Vacated h (p.drop h) := by
  have member := (sound.poll_waiting_iff held).mp waiting
  obtain ⟨before,after,entry,sole,rest⟩ := Lookup.filter_ne_of_mem sound.keys member
  have unread : p.mail.lookup h.ticket = none := by
    cases mail : p.mail.lookup h.ticket with
    | none => rfl
    | some r => simp [poll,mail] at waiting
  refine ⟨before,after,entry,sole,?_⟩
  simp only [Pending.drop,Pending.forget,Pending.collect,rest,Lookup.filter_ne_of_lookup unread]

/-- As long as a handle waits, nobody else waits for its id, so that nobody else is dropped with it. -/
theorem poll_drop_waiting (sound : p.Sound live) {g : Handle} (gHeld : g ∈ live) (hHeld : h ∈ live)
    (waiting : p.poll h = .waiting) (other : g ≠ h) : (p.drop h).poll g = p.poll g := by
  rw [sound.poll_drop gHeld hHeld other,if_neg]
  rintro ⟨gWaits,same⟩
  exact other (sound.waiting_unique gHeld hHeld gWaits waiting same)

end Sound

theorem Vacated.isPending (vacated : p.Vacated h q) : q.isPending h.id = false := by
  obtain ⟨before,after,_,sole,rfl⟩ := vacated
  rw [← Bool.not_eq_true,isPending_iff]
  rintro ⟨ticket,member⟩
  exact sole _ member rfl

end Pending

namespace Channel

/-- A channel is as it was; at most a ticket was issued in vain. -/
def Restored (c d : Channel) : Prop :=
  ∃ next ≥ c.pending.next, d = c.setPending { c.pending with next := next }

theorem Restored.refl (c : Channel) : c.Restored c := ⟨c.pending.next,le_rfl,rfl⟩

def Admits (c : Channel) (m : Message) : Prop :=
  ∀ q, m = .request q → c.pending.closed = false ∧ c.pending.isPending q.id = false

end Channel

namespace Writer

/-- Why a message is refused. The table is asked first, then the writer, then the outbox. -/
inductive Refuses (w : Writer) (c : Channel) : Message → CallError → Prop where
  | shut {q : Request} (closed : c.pending.closed = true) : Refuses w c (.request q) .channelClosed
  | taken {q : Request} (isOpen : c.pending.closed = false)
      (waited : c.pending.isPending q.id = true) : Refuses w c (.request q) (.duplicateId q.id)
  | ended {m : Message} (admitted : c.Admits m) (done : w.ended = true) : Refuses w c m .writerClosed
  | gone {m : Message} (admitted : c.Admits m) (going : w.ended = false)
      (abandoned : c.outbox.abandoned = true) : Refuses w c m .channelClosed

variable {w : Writer} {c d : Channel} {m : Message}

theorem send_error (admitted : c.Admits m) {p : Pending} {e : CallError}
    (failed : w.send (c.setPending p) m = .error e) : w.Refuses c m e := by
  unfold send at failed
  split at failed
  next done =>
    obtain rfl : CallError.writerClosed = e := by simpa using failed
    exact .ended admitted done
  next going =>
    obtain ⟨abandoned,closed⟩ | ⟨_,_,_,sent⟩ := (c.setPending p).send_cases m
    · obtain rfl : CallError.channelClosed = e := by simpa [closed] using failed
      exact .gone admitted (by simpa using going) abandoned
    · simp [sent] at failed

theorem pending_of_send (sent : w.send c m = .ok d) : d.pending = c.pending := by
  unfold send at sent
  split at sent
  · cases sent
  · obtain ⟨_,failed⟩ | ⟨o,_,_,ok⟩ := c.send_cases m
    · simp [failed] at sent
    · rw [ok] at sent
      cases sent
      rfl

theorem write_plain {now : Nat} (other : ∀ q, m ≠ .request q) :
    (∀ e, w.send c m = .error e → w.write c now m = (c,.error e)) ∧
    ∀ d, w.send c m = .ok d → w.write c now m = (d,.ok none) := by
  cases m with
  | request q => exact absurd rfl (other q)
  | response r => exact ⟨fun e failed => by simp [write,failed],fun d sent => by simp [write,sent]⟩
  | notification n => exact ⟨fun e failed => by simp [write,failed],fun d sent => by simp [write,sent]⟩

/-- Everything that writing a message can do. -/
theorem write_cases (w : Writer) (c : Channel) (now : Nat) (m : Message) :
    (∃ e, w.Refuses c m e ∧ w.write c now m = (c,.error e)) ∨
    (∃ q h p e, m = .request q ∧ c.pending.register q.id = .ok (h,p) ∧ w.Refuses c m e ∧
      w.write c now m = (c.setPending (p.drop h),.error e)) ∨
    (∃ d, (∀ q, m ≠ .request q) ∧ w.send c m = .ok d ∧ w.write c now m = (d,.ok none)) ∨
    ∃ q h p d, m = .request q ∧ c.pending.register q.id = .ok (h,p) ∧
      w.send (c.setPending p) m = .ok d ∧ w.write c now m =
        (d,.ok (some ⟨h,q.method,w.patience,now + w.patience.nanoseconds⟩)) := by
  by_cases asks : ∃ q, m = .request q
  · obtain ⟨q,rfl⟩ := asks
    cases registered : c.pending.register q.id with
    | error e =>
      refine .inl ⟨e,?_,by simp [write,registered]⟩
      obtain ⟨closed,rfl⟩ | ⟨isOpen,waited,rfl⟩ := Pending.register_error_iff.mp registered
      · exact .shut closed
      · exact .taken isOpen waited
    | ok result =>
      obtain ⟨h,p⟩ := result
      have admitted : c.Admits (.request q) := by
        rintro r same
        cases same
        obtain ⟨isOpen,free,_⟩ := Pending.register_cases registered
        exact ⟨isOpen,free⟩
      cases sent : w.send (c.setPending p) (.request q) with
      | error e =>
        exact .inr (.inl ⟨q,h,p,e,rfl,registered,send_error admitted sent,by simp [write,registered,sent]⟩)
      | ok d =>
        exact .inr (.inr (.inr ⟨q,h,p,d,rfl,registered,sent,by simp [write,registered,sent]⟩))
  · have other : ∀ q, m ≠ .request q := fun q same => asks ⟨q,same⟩
    have admitted : c.Admits m := fun q same => absurd same (other q)
    cases sent : w.send c m with
    | error e => exact .inl ⟨e,send_error (p := c.pending) admitted sent,(write_plain other).1 e sent⟩
    | ok d => exact .inr (.inr (.inl ⟨d,other,rfl,(write_plain other).2 d sent⟩))

/-- Where a message cannot be sent, whatever is registered, it is not written. -/
theorem write_unsent {now : Nat} {e : CallError} (admitted : c.Admits m)
    (failed : ∀ p, w.send (c.setPending p) m = .error e) : (w.write c now m).2 = .error e := by
  by_cases asks : ∃ q, m = .request q
  · obtain ⟨q,rfl⟩ := asks
    obtain ⟨isOpen,free⟩ := admitted q rfl
    simp [write,Pending.register,isOpen,free,failed]
  · have other : ∀ q, m ≠ .request q := fun q same => asks ⟨q,same⟩
    exact congrArg Prod.snd ((write_plain other).1 e (failed c.pending))

theorem write_of_refuses {now : Nat} {e : CallError} (refuses : w.Refuses c m e) :
    (w.write c now m).2 = .error e := by
  cases refuses with
  | shut closed => simp [write,Pending.register_error_iff.mpr (.inl ⟨closed,rfl⟩)]
  | taken isOpen waited => simp [write,Pending.register_error_iff.mpr (.inr ⟨isOpen,waited,rfl⟩)]
  | ended admitted done => exact write_unsent admitted fun p => by simp [send,done]
  | gone admitted going abandoned =>
    refine write_unsent admitted fun p => ?_
    obtain ⟨_,closed⟩ | ⟨_,taking,_⟩ := (c.setPending p).send_cases m
    · simp [send,going,closed]
    · cases abandoned.symm.trans taking

/-- A write fails at once exactly when it is refused. -/
theorem write_error_iff {now : Nat} {e : CallError} :
    (w.write c now m).2 = .error e ↔ w.Refuses c m e := by
  refine ⟨fun failed => ?_,write_of_refuses⟩
  obtain ⟨_,refuses,written⟩ | ⟨_,_,_,_,_,_,refuses,written⟩ | ⟨_,_,_,written⟩ |
    ⟨_,_,_,_,_,_,_,written⟩ := w.write_cases c now m
  all_goals
    rw [written] at failed
    cases failed
  · exact refuses
  · exact refuses

theorem restored_write {now : Nat} {e : CallError} (issued : ∀ m ∈ c.pending.mail, m.1 < c.pending.next)
    (failed : (w.write c now m).2 = .error e) : c.Restored (w.write c now m).1 := by
  obtain ⟨_,_,written⟩ | ⟨_,_,_,_,_,registered,_,written⟩ | ⟨_,_,_,written⟩ |
    ⟨_,_,_,_,_,_,_,written⟩ := w.write_cases c now m
  · rw [written]
    exact .refl c
  · rw [written,Pending.drop_register issued registered]
    exact ⟨_,Nat.le_succ _,rfl⟩
  · simp [written] at failed
  · simp [written] at failed

/-- A receipt names the request that was written. -/
theorem receipt_of_write {now : Nat} {q : Request} {r : Receipt}
    (written : w.write c now (.request q) = (d,.ok (some r))) :
    r.handle.id = q.id ∧ r.method = q.method ∧ r.allowed = w.patience := by
  obtain ⟨_,_,same⟩ | ⟨_,_,_,_,_,_,_,same⟩ | ⟨_,other,_,_⟩ | ⟨_,_,_,_,asked,registered,_,same⟩ :=
    w.write_cases c now (.request q)
  · simp [same] at written
  · simp [same] at written
  · exact absurd rfl (other q)
  · cases asked
    rw [same] at written
    obtain ⟨_,_,rfl,_⟩ := Pending.register_cases registered
    cases written
    exact ⟨rfl,rfl,rfl⟩

end Writer

/-- An engine sends its requests by a writer of its own, which nobody ends. -/
def Engine.writer (e : Engine) : Writer := ⟨e.profile.base,false⟩

/-- Up to where it waits, a call is a write of its request. -/
theorem Engine.call_write (e : Engine) (c : Channel) (now : Nat) (method : String)
    (params : Option Json) (token : Option String) :
    (e.call c now method params token).1 = { e with nextId := e.nextId + 1 } ∧
    (e.call c now method params token).2.1 =
      (e.writer.write c now (.request (.new (.number e.nextId) method params))).1 ∧
    ∀ error, (e.call c now method params token).2.2 = .error error ↔
      (e.writer.write c now (.request (.new (.number e.nextId) method params))).2 = .error error := by
  have id : (Request.new (.number e.nextId) method params).id = .number e.nextId := rfl
  cases registered : c.pending.register (.number e.nextId) with
  | error error => simp [call,Writer.write,id,registered]
  | ok result =>
    obtain ⟨h,p⟩ := result
    cases sent : (c.setPending p).send (.request (.new (.number e.nextId) method params)) with
    | error error => simp [call,Writer.write,Writer.send,writer,id,registered,sent]
    | ok d => simp [call,Writer.write,Writer.send,writer,id,registered,sent]

/-- Everything that a look at a written request can find. -/
theorem Receipt.poll_cases (r : Receipt) (c : Channel) (now : Nat) :
    (c.pending.poll r.handle = .waiting ∧ r.poll c now = (c,none)) ∨
    (c.pending.poll r.handle ≠ .waiting ∧ ∃ result, (∀ method after, result ≠ .error (.timeout method after)) ∧
      r.poll c now = (c.setPending (c.pending.collect r.handle),some result)) ∨
    (c.pending.poll r.handle = .waiting ∧ r.deadline ≤ now ∧ r.poll c now =
      (c.setPending (c.pending.drop r.handle),some (.error (.timeout r.method r.allowed)))) := by
  cases found : c.pending.poll r.handle with
  | ready response => exact .inr (.inl ⟨by simp,.ok (),by simp,by simp [poll,found]⟩)
  | closed => exact .inr (.inl ⟨by simp,.error .channelClosed,by simp,by simp [poll,found]⟩)
  | waiting =>
    by_cases late : r.deadline ≤ now
    · exact .inr (.inr ⟨rfl,late,by simp [poll,found,late]⟩)
    · exact .inl ⟨rfl,by simp [poll,found,late]⟩

end LanguageBridge
