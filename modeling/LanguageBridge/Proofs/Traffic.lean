import LanguageBridge.Hook
import LanguageBridge.Proofs.Inbound
import LanguageBridge.Proofs.Pending

/-! Outgoing traffic. Calls, hooks and notifications ask and tell the server something: they put
requests and notifications into the outbox and entries into the pending table, and leave the sequences
that come in alone. -/
namespace LanguageBridge

namespace Pending

/-- All that is ever done to a table: ids are registered, responses come in, entries and mail go. The
list holds the responses in order. -/
inductive Evolves (p : Pending) : List Response → Pending → Prop where
  | refl : Evolves p [] p
  | register {rs : List Response} {q q' : Pending} {id : RequestId} {h : Handle}
      (before : Evolves p rs q) (ok : q.register id = .ok (h,q')) : Evolves p rs q'
  | resolve {rs : List Response} {q : Pending} (before : Evolves p rs q) (r : Response) :
      Evolves p (rs ++ [r]) (q.resolve r).2
  | shrink {rs : List Response} {q q' : Pending} (before : Evolves p rs q)
      (next : q'.next = q.next) (waiters : q'.waiters ⊆ q.waiters) (mail : q'.mail ⊆ q.mail) :
      Evolves p rs q'

namespace Evolves

variable {p q : Pending} {rs : List Response}

theorem of_eq (same : q = p) : p.Evolves [] q := same ▸ .refl

theorem trans {r : Pending} {more : List Response} (first : p.Evolves rs q)
    (second : q.Evolves more r) : p.Evolves (rs ++ more) r := by
  induction second with
  | refl => simpa using first
  | register _ ok ih => exact ih.register ok
  | resolve _ r ih =>
    rw [← List.append_assoc]
    exact ih.resolve r
  | shrink _ next waiters mail ih => exact ih.shrink next waiters mail

theorem collect (before : p.Evolves rs q) (h : Handle) : p.Evolves rs (q.collect h) :=
  before.shrink rfl (List.Subset.refl _) (List.filter_subset_self _)

theorem drop (before : p.Evolves rs q) (h : Handle) : p.Evolves rs (q.drop h) :=
  before.shrink rfl (List.filter_subset_self _) (List.filter_subset_self _)

theorem close (before : p.Evolves rs q) : p.Evolves rs q.close :=
  before.shrink rfl (List.nil_subset _) (List.Subset.refl _)

theorem resolveAll (p : Pending) (rs : List Response) : p.Evolves rs (p.resolveAll rs) := by
  have onward : ∀ {q done}, p.Evolves done q → p.Evolves (done ++ rs) (q.resolveAll rs) := by
    induction rs with
    | nil =>
      intro q done before
      simpa [Pending.resolveAll] using before
    | cons r rs ih =>
      intro q done before
      simpa [Pending.resolveAll] using ih (before.resolve r)
  exact onward .refl

end Evolves

/-- The mail for a handle is what `came`, and its ticket stands in the table for its own id only. -/
structure Expects (p : Pending) (h : Handle) (came : Response → Prop) : Prop where
  issued : h.ticket < p.next
  own : ∀ w ∈ p.waiters, w.2 = h.ticket → w.1 = h.id
  mail : ∀ m ∈ p.mail, m.1 = h.ticket → came m.2

namespace Expects

variable {p q : Pending} {h : Handle} {came : Response → Prop}

theorem shrink (expects : p.Expects h came) (next : q.next = p.next) (waiters : q.waiters ⊆ p.waiters)
    (mail : q.mail ⊆ p.mail) : q.Expects h came where
  issued := next ▸ expects.issued
  own w member := expects.own w (waiters member)
  mail m letter := expects.mail m (mail letter)

theorem register (expects : p.Expects h came) {id : RequestId} {g : Handle}
    (ok : p.register id = .ok (g,q)) : q.Expects h came := by
  obtain ⟨_,_,rfl,rfl⟩ := register_cases ok
  refine ⟨Nat.lt_succ_of_lt expects.issued,fun w member ticket => ?_,expects.mail⟩
  rcases List.mem_cons.mp member with rfl | old
  · exact absurd ticket.symm expects.issued.ne
  · exact expects.own w old ticket

theorem resolve (expects : p.Expects h came) {r : Response}
    (meant : r.id.bind p.target? = some h.id → came r) : (p.resolve r).2.Expects h came := by
  obtain ⟨_,unmatched⟩ | ⟨id,ticket,target,member,matched⟩ := resolve_cases p r
  · rw [unmatched]
    exact expects
  · rw [matched]
    refine ⟨expects.issued,fun w stays => ?_,fun m letter mine => ?_⟩
    · exact expects.own w (mem_waiters_forget.mp stays).1
    · rcases List.mem_cons.mp letter with rfl | old
      · exact meant (expects.own _ member mine ▸ target)
      · exact expects.mail m old mine

/-- Whatever is done to the table, a handle gets mail only from responses that came in and were meant
for its id. -/
theorem evolve (expects : p.Expects h came) {rs : List Response} (evolves : p.Evolves rs q)
    (meant : ∀ r ∈ rs, ∀ table : Pending, r.id.bind table.target? = some h.id → came r) :
    q.Expects h came := by
  induction evolves with
  | refl => exact expects
  | register _ ok ih => exact (ih meant).register ok
  | resolve _ r ih =>
    refine (ih fun s member => meant s (List.mem_append_left _ member)).resolve ?_
    exact meant r (by simp) _
  | shrink _ next waiters mail ih => exact (ih meant).shrink next waiters mail

theorem weaken (expects : p.Expects h came) {others : Response → Prop} (more : ∀ r, came r → others r) :
    p.Expects h others where
  issued := expects.issued
  own := expects.own
  mail m letter mine := more _ (expects.mail m letter mine)

end Expects

structure Numbered (p : Pending) : Prop where
  waiters : ∀ w ∈ p.waiters, w.2 < p.next
  mail : ∀ m ∈ p.mail, m.1 < p.next

namespace Numbered

variable {p q : Pending}

theorem evolve (numbered : p.Numbered) {rs : List Response} (evolves : p.Evolves rs q) :
    q.Numbered := by
  induction evolves with
  | refl => exact numbered
  | register _ ok ih =>
    obtain ⟨_,_,rfl,rfl⟩ := register_cases ok
    refine ⟨fun w member => ?_,fun m letter => Nat.lt_succ_of_lt (ih.mail m letter)⟩
    rcases List.mem_cons.mp member with rfl | old
    · exact Nat.lt_succ_self _
    · exact Nat.lt_succ_of_lt (ih.waiters w old)
  | @resolve rs q _ r ih =>
    obtain ⟨_,unmatched⟩ | ⟨id,ticket,_,member,matched⟩ := resolve_cases q r
    · rw [unmatched]
      exact ih
    · rw [matched]
      refine ⟨fun w stays => ih.waiters w (mem_waiters_forget.mp stays).1,fun m letter => ?_⟩
      rcases List.mem_cons.mp letter with rfl | old
      · exact ih.waiters _ member
      · exact ih.mail m old
  | shrink _ next waiters mail ih =>
    exact ⟨fun w member => next ▸ ih.waiters w (waiters member),
      fun m letter => next ▸ ih.mail m (mail letter)⟩

/-- A new handle has no mail. -/
theorem expects (numbered : p.Numbered) {id : RequestId} {h : Handle}
    (ok : p.register id = .ok (h,q)) (came : Response → Prop) : q.Expects h came := by
  obtain ⟨_,_,rfl,rfl⟩ := register_cases ok
  refine ⟨Nat.lt_succ_self _,fun w member ticket => ?_,fun m letter ticket => ?_⟩
  · rcases List.mem_cons.mp member with rfl | old
    · rfl
    · exact absurd ticket (numbered.waiters w old).ne
  · exact absurd ticket (numbered.mail m letter).ne

end Numbered

end Pending

/-- Requests, and of the notifications those that `may` be sent. -/
def Message.Tells (may : Notification → Prop) : Message → Prop
  | .request _ => True
  | .notification n => may n
  | .response _ => False

theorem Message.Tells.silent {may : Notification → Prop} {m : Message} (tells : m.Tells may) :
    m.response? = none := by
  cases m with
  | response r => cases tells
  | _ => rfl

def Notification.GivesUp (n : Notification) : Prop := n.method = Method.cancelRequest

/-- What outgoing traffic makes of a channel: requests and some notifications are written, and the table
takes part in it. -/
structure Channel.Talks (c : Channel) (may : Notification → Prop) (d : Channel) : Prop where
  requests : d.inbound.requests = c.inbound.requests
  notifications : d.inbound.notifications = c.inbound.notifications
  pending : c.pending.Evolves [] d.pending
  closed : d.pending.closed = c.pending.closed
  abandoned : d.outbox.abandoned = c.outbox.abandoned
  sent : ∃ out : List Message, (∀ m ∈ out, m.Tells may) ∧
    d.outbox.queue = c.outbox.queue ++ out.map Message.encode

namespace Channel

variable {may : Notification → Prop}

theorem Talks.refl (c : Channel) : c.Talks may c :=
  ⟨rfl,rfl,.refl,rfl,rfl,[],by simp,by simp⟩

theorem Talks.weaken {c d : Channel} {o : Notification → Prop} (talks : c.Talks may d)
    (more : ∀ n, may n → o n) : c.Talks o d := by
  obtain ⟨out,kinds,queue⟩ := talks.sent
  refine ⟨talks.requests,talks.notifications,talks.pending,talks.closed,talks.abandoned,out,?_,queue⟩
  intro m member
  have tells := kinds m member
  cases m with
  | request r => trivial
  | notification n => exact more n tells
  | response r => cases tells

theorem Talks.trans {c d e : Channel} (first : c.Talks may d) (second : d.Talks may e) :
    c.Talks may e := by
  obtain ⟨out,kinds,queue⟩ := first.sent
  obtain ⟨more,others,longer⟩ := second.sent
  refine ⟨second.requests.trans first.requests,second.notifications.trans first.notifications,
    first.pending.trans second.pending,second.closed.trans first.closed,
    second.abandoned.trans first.abandoned,out ++ more,?_,?_⟩
  · intro m member
    rcases List.mem_append.mp member with early | late
    · exact kinds m early
    · exact others m late
  · rw [longer,queue,List.map_append,List.append_assoc]

theorem talks_setPending {c : Channel} {p : Pending} (evolves : c.pending.Evolves [] p)
    (closed : p.closed = c.pending.closed) : c.Talks may (c.setPending p) :=
  ⟨rfl,rfl,evolves,closed,rfl,[],by simp,by simp [setPending]⟩

/-- A message that could be sent stands at the end of the outbox. -/
theorem send_ok {c d : Channel} {m : Message} (sent : c.send m = .ok d) :
    d = { c with outbox := { c.outbox with queue := c.outbox.queue ++ [m.encode] } } := by
  cases gone : c.outbox.abandoned with
  | true => simp [send,Outbox.send,Outbox.enqueue,gone,Except.map] at sent
  | false => simpa [send,Outbox.send,Outbox.enqueue,gone,Except.map,eq_comm] using sent

theorem talks_send {c d : Channel} {m : Message} (kind : m.Tells may)
    (sent : c.send m = .ok d) : c.Talks may d := by
  obtain rfl := send_ok sent
  exact ⟨rfl,rfl,.refl,rfl,rfl,[m],by simpa using kind,by simp⟩

theorem talks_notify {c d : Channel} {method : String} {params : Option Json}
    (sent : c.notify method params = .ok d) : c.Talks (· = .new method params) d :=
  talks_send (show Message.Tells _ (.notification _) from rfl) sent

theorem talks_trySend (c : Channel) {m : Message} (kind : m.Tells may) :
    c.Talks may (c.trySend m) := by
  unfold trySend
  split
  next sent => exact talks_send kind sent
  next => exact .refl c

end Channel

theorem Call.talks_abandon (call : Call) (c : Channel) :
    c.Talks Notification.GivesUp (call.abandon c) :=
  (Channel.talks_setPending (.drop .refl call.handle) rfl).trans (Channel.talks_trySend _ rfl)

theorem Call.talks_poll (call : Call) (c : Channel) (now : Nat) (fired : List String) :
    c.Talks Notification.GivesUp (call.poll c now fired).1 := by
  have collected : c.Talks Notification.GivesUp (c.setPending (c.pending.collect call.handle)) :=
    Channel.talks_setPending (.collect .refl call.handle) rfl
  unfold poll
  split
  · exact collected
  · exact collected
  · split
    · exact call.talks_abandon c
    · split
      · exact call.talks_abandon c
      · exact .refl c

theorem Engine.talks_call (e : Engine) (c : Channel) (now : Nat) (method : String)
    (params : Option Json) (token : Option String) :
    c.Talks Notification.GivesUp (e.call c now method params token).2.1 := by
  unfold call
  dsimp only
  split
  · exact .refl c
  next h p ok =>
    have registered : c.pending.Evolves [] p := .register .refl ok
    obtain ⟨_,_,rfl,rfl⟩ := Pending.register_cases ok
    split
    · exact Channel.talks_setPending (registered.drop _) rfl
    next sent =>
      exact (Channel.talks_setPending registered rfl).trans
        (Channel.talks_send (show Message.Tells _ (.request _) from trivial) sent)

/-- A call that could be started is registered, and its request stands at the end of the outbox. -/
theorem Engine.call_ok {e e' : Engine} {c d : Channel} {now : Nat} {method : String}
    {params : Option Json} {token : Option String} {call : Call}
    (called : e.call c now method params token = (e',d,.ok call)) :
    c.pending.register (.number call.number) = .ok (call.handle,d.pending) ∧
    d.outbox.queue = c.outbox.queue ++
      [(Message.request (.new (.number call.number) method params)).encode] := by
  unfold Engine.call at called
  dsimp only at called
  split at called
  · cases called
  next h p ok =>
    split at called
    · cases called
    next f sent =>
      cases called
      obtain rfl := Channel.send_ok sent
      exact ⟨ok,rfl⟩

/-- What hooks with these steps to do may send: their own notifications, and those that give their
requests up. -/
def HookStep.Allows (steps : List HookStep) (n : Notification) : Prop :=
  n.GivesUp ∨ ∃ method params, n = .new method params ∧ .notify method params ∈ steps

theorem HookStep.Allows.mono {steps others : List HookStep} (fewer : steps ⊆ others) (n : Notification)
    (allows : Allows steps n) : Allows others n := by
  rcases allows with gives | ⟨method,params,rfl,member⟩
  · exact .inl gives
  · exact .inr ⟨method,params,rfl,fewer member⟩

def HookProgress.agenda : HookProgress → List HookStep
  | .waiting run => run.rest
  | _ => []

def HookGroup.agenda (g : HookGroup) : List HookStep := g.members.flatMap HookProgress.agenda

namespace HookRun

open HookStep

/-- What became of a hook with these steps to do: it has said nothing but what they ask for, and none but
these are left. -/
structure Heeds (c : Channel) (steps : List HookStep) (result : Engine × Channel × HookProgress) :
    Prop where
  talks : c.Talks (Allows steps) result.2.1
  agenda : result.2.2.agenda ⊆ steps

theorem Heeds.after {c d : Channel} {steps rest : List HookStep}
    {result : Engine × Channel × HookProgress} (heeds : Heeds d rest result) (fewer : rest ⊆ steps)
    (talks : c.Talks (Allows steps) d) : Heeds c steps result :=
  ⟨talks.trans (heeds.talks.weaken (Allows.mono fewer)),List.Subset.trans heeds.agenda fewer⟩

theorem heeds_advance (now : Nat) (e : Engine) (c : Channel) (steps : List HookStep) :
    Heeds c steps (advance now e c steps) := by
  induction steps generalizing e c with
  | nil => exact ⟨.refl c,List.nil_subset _⟩
  | cons step rest ih =>
    have fewer : rest ⊆ step :: rest := List.subset_cons_self step rest
    cases step with
    | notify method params =>
      simp only [advance]
      split
      next d sent =>
        have told : c.Talks (Allows (.notify method params :: rest)) d :=
          (Channel.talks_notify sent).weaken fun n same => .inr ⟨method,params,same,List.mem_cons_self⟩
        exact (ih e d).after fewer told
      next => exact ⟨.refl c,List.nil_subset _⟩
    | request method params =>
      have called := e.talks_call c now method params none
      simp only [advance]
      split
      next e' d error ok =>
        rw [ok] at called
        exact ⟨called.weaken fun _ => .inl,List.nil_subset _⟩
      next e' d call ok =>
        rw [ok] at called
        have polled := (called.trans (call.talks_poll d now [])).weaken
          (o := Allows (.request method params :: rest)) fun _ => .inl
        split
        next polls =>
          rw [polls] at polled
          exact ⟨polled,fewer⟩
        next f value polls =>
          rw [polls] at polled
          exact (ih e' f).after fewer polled
        next polls =>
          rw [polls] at polled
          exact ⟨polled,List.nil_subset _⟩
    | fail reason => exact ⟨.refl c,List.nil_subset _⟩
    | sleep d =>
      simp only [advance]
      split
      · exact (ih e c).after fewer (.refl c)
      · exact ⟨.refl c,fewer⟩

theorem heeds_poll (now : Nat) (e : Engine) (c : Channel) (run : HookRun) :
    Heeds c run.rest (run.poll now e c) := by
  have all : run.rest ⊆ run.rest := List.Subset.refl _
  unfold poll
  split
  next call _ =>
    have polled := (call.talks_poll c now []).weaken (o := Allows run.rest) fun _ => .inl
    split
    next polls =>
      rw [polls] at polled
      exact ⟨polled,all⟩
    next f value polls =>
      rw [polls] at polled
      exact (heeds_advance now e f run.rest).after all polled
    next polls =>
      rw [polls] at polled
      exact ⟨polled,List.nil_subset _⟩
  next =>
    split
    · exact heeds_advance now e c run.rest
    · exact ⟨.refl c,all⟩

theorem talks_drop {may : Notification → Prop} (run : HookRun) (c : Channel) :
    c.Talks may (run.drop c) := by
  unfold drop
  split
  · exact Channel.talks_setPending (.drop .refl _) rfl
  · exact .refl c

end HookRun

namespace HookGroup

open HookStep

theorem talks_startMembers (rule : HookRule) (now : Nat) (e : Engine) (c : Channel)
    (started : List HookProgress) (hooks : List Hook) :
    c.Talks (Allows hooks.flatten) (startMembers rule now e c started hooks).2.1 := by
  induction hooks generalizing e c started with
  | nil => exact .refl c
  | cons hook others ih =>
    simp only [startMembers]
    split
    · have first := (HookRun.heeds_advance now e c hook).talks.weaken
        (Allows.mono (List.subset_append_left hook others.flatten))
      exact first.trans ((ih _ _ _).weaken (Allows.mono (List.subset_append_right _ _)))
    · exact .refl c

theorem talks_start (now : Nat) (e : Engine) (c : Channel) (hooks : List Hook) :
    c.Talks (Allows hooks.flatten) (start now e c hooks).2.1 :=
  talks_startMembers _ now e c [] hooks

theorem talks_pollMembers (rule : HookRule) (now : Nat) (e : Engine) (c : Channel)
    (members : List HookProgress) (schedule : List Nat) :
    c.Talks (Allows (members.flatMap HookProgress.agenda))
      (pollMembers rule now e c members schedule).2.1 := by
  induction schedule generalizing e c members with
  | nil => exact .refl c
  | cons i rest ih =>
    simp only [pollMembers]
    split
    next run found =>
      have member : .waiting run ∈ members := List.mem_of_getElem? found
      have own : run.rest ⊆ members.flatMap HookProgress.agenda :=
        fun step left => List.mem_flatMap.mpr ⟨_,member,left⟩
      split
      · have fewer : (members.set i (run.poll now e c).2.2).flatMap HookProgress.agenda ⊆
            members.flatMap HookProgress.agenda := by
          intro step left
          obtain ⟨p,stands,left⟩ := List.mem_flatMap.mp left
          rcases List.mem_or_eq_of_mem_set stands with old | rfl
          · exact List.mem_flatMap.mpr ⟨p,old,left⟩
          · exact own ((run.heeds_poll now e c).agenda left)
        exact ((run.heeds_poll now e c).talks.weaken (Allows.mono own)).trans
          ((ih _ _ _).weaken (Allows.mono fewer))
      · exact .refl c
    next => exact ih e c members

theorem talks_poll (now : Nat) (e : Engine) (c : Channel) (g : HookGroup) :
    c.Talks (Allows g.agenda) (g.poll now e c).2.1 :=
  talks_pollMembers g.rule now e c g.members _

theorem talks_drop {may : Notification → Prop} (g : HookGroup) (c : Channel) :
    c.Talks may (g.drop c) := by
  unfold drop
  induction g.members.filterMap (·.run?) generalizing c with
  | nil => exact .refl c
  | cons run runs ih => exact (run.talks_drop c).trans (ih _)

end HookGroup

end LanguageBridge
