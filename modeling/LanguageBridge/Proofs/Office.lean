import LanguageBridge.Proofs.Writing
import Mathlib.Data.List.Induction

/-! A channel that many work with: a writer, an engine and the holders of bare handles. They write, call,
register, look and give up in any order, while messages come in and go out, time passes, tokens fire and
either side goes away. Whatever they have done, a send that fails is taken back as if it had not been
tried, and a write that runs out of time gives up its own entry only. -/
namespace LanguageBridge

inductive Wait where
  | written (r : Receipt)
  | called (call : Call)
  | held (h : Handle)
  deriving DecidableEq

namespace Wait

def handle : Wait → Handle
  | written r => r.handle
  | called call => call.handle
  | held h => h

def look (w : Wait) (c : Channel) (now : Nat) (fired : List String) (tokenFirst : Bool) :
    Channel × Bool :=
  match w with
  | written r => ((r.poll c now).1,(r.poll c now).2.isSome)
  | called call =>
    ((call.look c now fired tokenFirst).1,(call.look c now fired tokenFirst).2.isSome)
  | held h =>
    if c.pending.poll h = .waiting then (c,false) else (c.setPending (c.pending.collect h),true)

/-- A look changes nothing, or it ends the wait and the handle goes. -/
theorem look_cases (w : Wait) (c : Channel) (now : Nat) (fired : List String) (tokenFirst : Bool) :
    w.look c now fired tokenFirst = (c,false) ∨
    (w.look c now fired tokenFirst).2 = true ∧
      ((c.pending.poll w.handle ≠ .waiting ∧
        (w.look c now fired tokenFirst).1.pending = c.pending.collect w.handle) ∨
      (w.look c now fired tokenFirst).1.pending = c.pending.drop w.handle) := by
  cases w with
  | written r =>
    obtain ⟨_,found⟩ | ⟨settled,_,_,found⟩ | ⟨_,_,found⟩ := r.poll_cases c now
    · exact .inl (by simp [look,found])
    · exact .inr ⟨by simp [look,found],.inl ⟨settled,by rw [look,found]; rfl⟩⟩
    · exact .inr ⟨by simp [look,found],.inr (by rw [look,found]; rfl)⟩
  | called call =>
    obtain ⟨_,found⟩ | ⟨_,ready,found⟩ | ⟨closed,found⟩ | ⟨_,_,found⟩ | ⟨_,found⟩ :=
      call.look_cases c now fired tokenFirst
    · exact .inl (by simp [look,found])
    · exact .inr ⟨by simp [look,found],.inl ⟨by simp [handle,ready],by rw [look,found]; rfl⟩⟩
    · exact .inr ⟨by simp [look,found],.inl ⟨by simp [handle,closed],by rw [look,found]; rfl⟩⟩
    · exact .inr ⟨by simp [look,found],.inr (by simp [look,found,handle])⟩
    · exact .inr ⟨by simp [look,found],.inr (by simp [look,found,handle])⟩
  | held h =>
    by_cases waiting : c.pending.poll h = .waiting
    · exact .inl (by simp [look,waiting])
    · exact .inr ⟨by simp [look,waiting],.inl ⟨waiting,by rw [look,if_neg waiting]; rfl⟩⟩

end Wait

structure Office where
  channel : Channel
  writer : Writer
  engine : Engine
  clock : Nat
  fired : List String
  waits : List Wait

namespace Office

inductive Event where
  | write (m : Message)
  | send (m : Message)
  | endWriter
  | call (method : String) (params : Option Json) (token : Option String)
  | post (m : Message)
  | register (id : RequestId)
  | look (w : Wait) (tokenFirst : Bool)
  | drop (w : Wait)
  | deliver (m : Message)
  | close
  | closePending
  | take
  | hangUp
  | elapse (nanoseconds : Nat)
  | fire (token : String)

def opening (profile : Profile) (patience : Duration) : Office :=
  { channel := .empty
    writer := ⟨patience,false⟩
    engine := .new profile
    clock := 0
    fired := []
    waits := [] }

def write (s : Office) (m : Message) : Channel × Except CallError (Option Receipt) :=
  s.writer.write s.channel s.clock m

def call (s : Office) (method : String) (params : Option Json) (token : Option String) :
    Engine × Channel × Except CallError Call :=
  s.engine.call s.channel s.clock method params token

def release (s : Office) (channel : Channel) (h : Handle) : Office :=
  { s with channel := channel, waits := s.waits.filter (·.handle ≠ h) }

def await (s : Office) (channel : Channel) (w : Wait) : Office :=
  { s with channel := channel, waits := w :: s.waits }

def setChannel (s : Office) (channel : Channel) : Office := { s with channel := channel }

def step (s : Office) : Event → Office
  | .write m =>
    match s.write m with
    | (channel,.ok (some r)) => s.await channel (.written r)
    | (channel,.ok none) => s.setChannel channel
    | (channel,.error _) => s.setChannel channel
  | .send m =>
    match s.writer.send s.channel m with
    | .ok channel => s.setChannel channel
    | .error _ => s
  | .endWriter => { s with writer := s.writer.finish }
  | .call method params token =>
    match s.call method params token with
    | (engine,channel,.ok call) => { s with engine := engine }.await channel (.called call)
    | (engine,channel,.error _) => { s with engine := engine }.setChannel channel
  | .post m => s.setChannel (s.channel.trySend m)
  | .register id =>
    match s.channel.pending.register id with
    | .ok (h,p) => s.await (s.channel.setPending p) (.held h)
    | .error _ => s
  | .look w tokenFirst =>
    if w ∈ s.waits then
      match w.look s.channel s.clock s.fired tokenFirst with
      | (channel,true) => s.release channel w.handle
      | (channel,false) => s.setChannel channel
    else s
  | .drop w =>
    if w ∈ s.waits then
      s.release (s.channel.setPending (s.channel.pending.drop w.handle)) w.handle
    else s
  | .deliver m => s.setChannel (s.channel.deliver m)
  | .close => s.setChannel s.channel.close
  | .closePending => s.setChannel (s.channel.setPending s.channel.pending.close)
  | .take =>
    match s.channel.outbox.take with
    | none => s
    | some (_,outbox) => s.setChannel { s.channel with outbox := outbox }
  | .hangUp => s.setChannel { s.channel with outbox := s.channel.outbox.abandon }
  | .elapse nanoseconds => { s with clock := s.clock + nanoseconds }
  | .fire token => { s with fired := token :: s.fired }

def run (profile : Profile) (patience : Duration) (events : List Event) : Office :=
  events.foldl step (opening profile patience)

@[simp] theorem run_snoc (profile : Profile) (patience : Duration) (events : List Event)
    (event : Event) : run profile patience (events ++ [event]) = (run profile patience events).step event := by
  simp [run]

def live (s : Office) : Set Handle := { h | ∃ w ∈ s.waits, w.handle = h }

def Sound (s : Office) : Prop := s.channel.pending.Sound s.live

variable {s : Office}

theorem live_release (s : Office) (channel : Channel) (h : Handle) :
    (s.release channel h).live = s.live \ {h} := by
  ext g
  simp only [live,release,List.mem_filter,Set.mem_ofPred_eq,Set.mem_sdiff,Set.mem_singleton_iff,
    decide_eq_true_eq]
  constructor
  · rintro ⟨w,⟨member,other⟩,rfl⟩
    exact ⟨⟨w,member,rfl⟩,other⟩
  · rintro ⟨⟨w,member,rfl⟩,other⟩
    exact ⟨w,⟨member,other⟩,rfl⟩

theorem live_await (s : Office) (channel : Channel) (w : Wait) :
    (s.await channel w).live = insert w.handle s.live := by
  ext g
  simp [live,await,eq_comm]

theorem Sound.setChannel (sound : s.Sound) {channel : Channel}
    (same : channel.pending = s.channel.pending) : (s.setChannel channel).Sound := by
  change channel.pending.Sound s.live
  rw [same]
  exact sound

theorem Sound.restored (sound : s.Sound) {channel : Channel} (restored : s.channel.Restored channel) :
    (s.setChannel channel).Sound := by
  obtain ⟨next,later,rfl⟩ := restored
  exact sound.renumber later

theorem Sound.await (sound : s.Sound) {id : RequestId} {p : Pending} {channel : Channel} {w : Wait}
    (registered : s.channel.pending.register id = .ok (w.handle,p)) (same : channel.pending = p) :
    (s.await channel w).Sound := by
  rw [Sound,live_await]
  change channel.pending.Sound _
  rw [same]
  exact sound.register registered

/-- A write adds to those who wait, or it leaves the channel as it was. -/
theorem Sound.write (sound : s.Sound) (m : Message) : (s.step (.write m)).Sound := by
  obtain ⟨_,_,written⟩ | ⟨_,_,_,_,_,registered,_,written⟩ | ⟨_,_,sent,written⟩ |
    ⟨_,_,_,_,_,registered,sent,written⟩ := s.writer.write_cases s.channel s.clock m
  · simp only [step,Office.write,written]
    exact sound.setChannel rfl
  · simp only [step,Office.write,written,Pending.drop_register sound.mail_issued registered]
    exact sound.restored ⟨_,Nat.le_succ _,rfl⟩
  · simp only [step,Office.write,written]
    exact sound.setChannel (Writer.pending_of_send sent)
  · simp only [step,Office.write,written]
    exact sound.await registered (Writer.pending_of_send sent)

theorem Sound.call (sound : s.Sound) (method : String) (params : Option Json) (token : Option String) :
    (s.step (.call method params token)).Sound := by
  obtain ⟨_,_,called⟩ | ⟨_,_,registered,⟨_,called⟩ | ⟨_,_,called⟩⟩ :=
    s.engine.call_cases s.channel s.clock method params token
  · simp only [step,Office.call,called]
    exact sound.setChannel rfl
  · simp only [step,Office.call,called,Pending.drop_register sound.mail_issued registered]
    exact sound.restored ⟨_,Nat.le_succ _,rfl⟩
  · simp only [step,Office.call,called]
    exact sound.await (w := .called _) registered rfl

theorem Sound.release (sound : s.Sound) {w : Wait} (waits : w ∈ s.waits) {channel : Channel}
    (gone : (s.channel.pending.poll w.handle ≠ .waiting ∧
        channel.pending = s.channel.pending.collect w.handle) ∨
      channel.pending = s.channel.pending.drop w.handle) : (s.release channel w.handle).Sound := by
  have held : w.handle ∈ s.live := ⟨w,waits,rfl⟩
  rw [Sound,live_release]
  change channel.pending.Sound _
  obtain ⟨settled,collected⟩ | dropped := gone
  · rw [collected]
    exact Pending.Sound.collect sound held settled
  · rw [dropped]
    exact Pending.Sound.drop sound held

theorem Sound.look (sound : s.Sound) (w : Wait) (tokenFirst : Bool) :
    (s.step (.look w tokenFirst)).Sound := by
  by_cases waits : w ∈ s.waits
  · simp only [step,waits,if_true]
    obtain still | ⟨done,gone⟩ := w.look_cases s.channel s.clock s.fired tokenFirst
    · rw [still]
      exact sound.setChannel rfl
    · generalize w.look s.channel s.clock s.fired tokenFirst = looked at done gone ⊢
      obtain ⟨channel,ended⟩ := looked
      cases done
      exact sound.release waits gone
  · simpa only [step,waits,if_false] using sound

/-- Every event keeps the table for those who wait. -/
theorem step_sound (sound : s.Sound) (event : Event) : (s.step event).Sound := by
  cases event with
  | write m => exact sound.write m
  | send m =>
    simp only [step]
    split
    next sent => exact sound.setChannel (Writer.pending_of_send sent)
    next => exact sound
  | call method params token => exact sound.call method params token
  | post m => exact sound.setChannel (s.channel.pending_trySend m)
  | register id =>
    simp only [step]
    split
    next registered => exact sound.await (w := .held _) registered rfl
    next => exact sound
  | look w tokenFirst => exact sound.look w tokenFirst
  | drop w =>
    simp only [step]
    split
    next waits => exact sound.release waits (.inr rfl)
    next => exact sound
  | deliver m =>
    cases m with
    | response r => exact Pending.Sound.resolve sound r
    | request r => exact sound.setChannel rfl
    | notification n => exact sound.setChannel rfl
  | close => exact Pending.Sound.close sound
  | closePending => exact Pending.Sound.close sound
  | take =>
    simp only [step]
    split
    next => exact sound
    next => exact sound.setChannel rfl
  | endWriter => exact sound
  | hangUp => exact sound.setChannel rfl
  | elapse nanoseconds => exact sound
  | fire token => exact sound

theorem opening_sound (profile : Profile) (patience : Duration) : (opening profile patience).Sound := by
  have nobody : (opening profile patience).live = ∅ := by
    ext h
    simp [live,opening]
  rw [Sound,nobody]
  exact Pending.sound_empty

/-- Every run keeps the table for those who wait. -/
theorem run_sound (profile : Profile) (patience : Duration) (events : List Event) :
    (run profile patience events).Sound := by
  induction events using List.reverseRecOn with
  | nil => exact opening_sound profile patience
  | append_singleton events event ih =>
    rw [run_snoc]
    exact step_sound ih event

theorem patience_step (s : Office) (event : Event) :
    (s.step event).writer.patience = s.writer.patience := by
  cases event with
  | write m =>
    simp only [step]
    split <;> rfl
  | send m =>
    simp only [step]
    split <;> rfl
  | call method params token =>
    simp only [step]
    split <;> rfl
  | register id =>
    simp only [step]
    split <;> rfl
  | look w tokenFirst =>
    simp only [step]
    split
    · split <;> rfl
    · rfl
  | drop w =>
    simp only [step]
    split <;> rfl
  | take =>
    simp only [step]
    split <;> rfl
  | _ => rfl

theorem patience_run (profile : Profile) (patience : Duration) (events : List Event) :
    (run profile patience events).writer.patience = patience := by
  induction events using List.reverseRecOn with
  | nil => rfl
  | append_singleton events event ih =>
    rw [run_snoc,patience_step,ih]

/-- The request `q` was written in the course of the events, and its writer still waits as `r`. -/
structure Awaited (profile : Profile) (patience : Duration) (events : List Event) (q : Request)
    (r : Receipt) : Prop where
  written : ∃ before between channel, events = before ++ .write (.request q) :: between ∧
    (run profile patience before).write (.request q) = (channel,.ok (some r))
  waits : .written r ∈ (run profile patience events).waits

/-- Only the entry of a write that has run out of time goes from a channel, and the others who wait see
no difference. -/
structure Lapses (s : Office) (r : Receipt) (d : Channel) : Prop where
  entry : s.channel.pending.Vacated r.handle d.pending
  rest : d = s.channel.setPending d.pending
  others : ∀ w ∈ s.waits, w.handle ≠ r.handle →
    d.pending.poll w.handle = s.channel.pending.poll w.handle

theorem Sound.lapses (sound : s.Sound) {r : Receipt} (waits : .written r ∈ s.waits) {d : Channel}
    {method : String} {after : Duration}
    (late : r.poll s.channel s.clock = (d,some (.error (.timeout method after)))) :
    method = r.method ∧ after = r.allowed ∧ s.Lapses r d := by
  have held : r.handle ∈ s.live := ⟨.written r,waits,rfl⟩
  obtain ⟨_,found⟩ | ⟨_,_,other,found⟩ | ⟨waiting,_,found⟩ := r.poll_cases s.channel s.clock
  · simp [found] at late
  · rw [found] at late
    cases late
    exact absurd rfl (other method after)
  · rw [found] at late
    cases late
    refine ⟨rfl,rfl,Pending.Sound.vacated_drop sound held waiting,rfl,fun w member other => ?_⟩
    exact Pending.Sound.poll_drop_waiting sound ⟨w,member,rfl⟩ held waiting other

/-- Whatever has happened to a channel, what fails leaves no trace. A write or a call is refused for stated
reasons only, and then the channel is as it was; of a call only its id is used up. A write that runs out
of time frees the id of its request and touches nothing else of what has become of the channel since. -/
theorem run_untouched (profile : Profile) (patience : Duration) (events : List Event) :
    let s := run profile patience events
    (∀ m e, (s.write m).2 = .error e ↔ s.writer.Refuses s.channel m e) ∧
    (∀ m e, (s.write m).2 = .error e → s.channel.Restored (s.write m).1) ∧
    (∀ method params token e, (s.call method params token).2.2 = .error e ↔
      s.engine.writer.Refuses s.channel (.request (.new (.number s.engine.nextId) method params)) e) ∧
    (∀ method params token e, (s.call method params token).2.2 = .error e →
      s.channel.Restored (s.call method params token).2.1 ∧
      (s.call method params token).1 = { s.engine with nextId := s.engine.nextId + 1 }) ∧
    ∀ q r d method after, Awaited profile patience events q r →
      r.poll s.channel s.clock = (d,some (.error (.timeout method after))) →
      method = q.method ∧ after = patience ∧ r.handle.id = q.id ∧
      d.pending.isPending q.id = false ∧ s.Lapses r d := by
  intro s
  have sound : s.Sound := run_sound profile patience events
  have write_restored {w : Writer} {m : Message} {e : CallError}
      (failed : (w.write s.channel s.clock m).2 = .error e) :
      s.channel.Restored (w.write s.channel s.clock m).1 :=
    Writer.restored_write sound.mail_issued failed
  refine ⟨fun m e => Writer.write_error_iff,fun m e => write_restored,?_,?_,?_⟩
  · intro method params token e
    obtain ⟨_,_,outcome⟩ := s.engine.call_write s.channel s.clock method params token
    exact (outcome e).trans Writer.write_error_iff
  · intro method params token e failed
    obtain ⟨engine,channel,outcome⟩ := s.engine.call_write s.channel s.clock method params token
    refine ⟨?_,engine⟩
    rw [call,channel]
    exact write_restored ((outcome e).mp failed)
  · intro q r d method after awaited late
    obtain ⟨before,_,_,_,written⟩ := awaited.written
    obtain ⟨id,named,allowed⟩ := Writer.receipt_of_write written
    obtain ⟨rfl,rfl,lapses⟩ := sound.lapses awaited.waits late
    have free : d.pending.isPending r.handle.id = false := lapses.entry.isPending
    rw [patience_run] at allowed
    exact ⟨named,allowed,id,id ▸ free,lapses⟩

def overdueRequest : Request := ⟨"2.0",.text "a","hover",none⟩

def overdueReceipt : Receipt := ⟨⟨1,.text "a"⟩,"hover",.ofSeconds 5,5000000000⟩

/-- Somebody waits for the first id of the engine, and a write has just run out of time. -/
def overdue : List Event :=
  [.register (.number 1),.write (.request overdueRequest),.elapse 5000000000]

/-- The request cannot be written again and nothing can be called, as both ids are taken. Neither attempt
nor the end of the wait touches the other entry. -/
theorem overdue_untouched :
    let s := run ⟨.ofSeconds 5,"client",none,"owner"⟩ (.ofSeconds 5) overdue
    ((s.write (.request overdueRequest)).2 = .error (.duplicateId (.text "a")) ∧
      s.channel.Restored (s.write (.request overdueRequest)).1) ∧
    ((s.call "hover" none none).2.2 = .error (.duplicateId (.number 1)) ∧
      s.channel.Restored (s.call "hover" none none).2.1) ∧
    ∃ d, overdueReceipt.poll s.channel s.clock =
        (d,some (.error (.timeout "hover" (.ofSeconds 5)))) ∧
      d.pending.isPending (.text "a") = false ∧ s.Lapses overdueReceipt d := by
  intro s
  have taken : (s.write (.request overdueRequest)).2 = .error (.duplicateId (.text "a")) := rfl
  have refused : (s.call "hover" none none).2.2 = .error (.duplicateId (.number 1)) := rfl
  have awaited : Awaited ⟨.ofSeconds 5,"client",none,"owner"⟩ (.ofSeconds 5) overdue overdueRequest
      overdueReceipt :=
    ⟨⟨[.register (.number 1)],[.elapse 5000000000],_,rfl,rfl⟩,by decide⟩
  obtain ⟨_,restored,_,counted,lapsed⟩ :=
    run_untouched ⟨.ofSeconds 5,"client",none,"owner"⟩ (.ofSeconds 5) overdue
  refine ⟨⟨taken,restored _ _ taken⟩,⟨refused,(counted _ _ _ _ refused).1⟩,_,rfl,?_⟩
  obtain ⟨_,_,_,free,lapses⟩ := lapsed overdueRequest overdueReceipt _ _ _ awaited rfl
  exact ⟨free,lapses⟩

end Office

end LanguageBridge
