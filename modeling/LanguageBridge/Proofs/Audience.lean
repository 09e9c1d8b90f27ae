import Mathlib.Data.List.Induction
import LanguageBridge.Proofs.Lane
import LanguageBridge.Reader

/-! The audience of a reader. Its loop takes one request after another and calls, one by one, the listeners
that are registered when it takes the request. Listeners come and go meanwhile, requests come in, and other
subscribers do as they like. Who has to be called is read off the history alone. -/
namespace LanguageBridge

/-- Something that happens around a reader. `proceed` is one step of its loop; if that step calls a
listener, the call ends with the reaction. -/
inductive Occurrence where
  | listen (name : String) (react : Request → Reaction)
  | release (key : UInt64)
  | deliver (m : Message)
  | close
  | proceed (reaction : Reaction)
  | subscribe
  | unsubscribe (other : Nat)
  | receive (other : Nat)

namespace Occurrence

def isListen : Occurrence → Bool
  | .listen _ _ => true
  | _ => false

def isClose : Occurrence → Bool
  | .close => true
  | _ => false

def isProceed : Occurrence → Bool
  | .proceed _ => true
  | _ => false

def request? : Occurrence → Option Request
  | .deliver m => m.request?
  | _ => none

def registrations (past : List Occurrence) : Nat := past.countP isListen

def delivered (past : List Occurrence) : List Request :=
  (past.takeWhile fun o => !o.isClose).filterMap request?

/-- A listener was registered at a moment and is not yet released: its key is the word for its number
among all registrations, and no release of that key came later. -/
def Standing (past : List Occurrence) (moment : Nat) (l : Listener) : Prop :=
  ∃ before after, past = before ++ .listen l.name l.react :: after ∧ moment = before.length ∧
    l.key = .ofNat (registrations before) ∧ .release l.key ∉ after

/-- Exactly those who are registered and not released, each once and in the order of registration. -/
def Attended (past : List Occurrence) (listeners : List Listener) : Prop :=
  ∃ roll : List (Nat × Listener), listeners = roll.map Prod.snd ∧
    roll.Pairwise (fun p q => p.1 < q.1) ∧ ∀ p, p ∈ roll ↔ Standing past p.1 p.2

variable {past : List Occurrence} {moment : Nat} {l : Listener} {listeners : List Listener}

theorem registrations_snoc (past : List Occurrence) (o : Occurrence) :
    registrations (past ++ [o]) = registrations past + if o.isListen then 1 else 0 := by
  rw [registrations,List.countP_append,List.countP_singleton]
  rfl

theorem registrations_lt (before : List Occurrence) (l : Listener) (rest : List Occurrence) :
    registrations before < registrations (before ++ .listen l.name l.react :: rest) := by
  simp [registrations,isListen]

theorem delivered_snoc (past : List Occurrence) (o : Occurrence) :
    delivered (past ++ [o]) =
      delivered past ++ if past.any isClose then [] else o.request?.toList := by
  induction past with
  | nil =>
    cases o with
    | deliver m => cases m <;> rfl
    | _ => rfl
  | cons p past ih =>
    simp only [delivered] at ih
    cases shut : p.isClose with
    | true => simp [delivered,shut]
    | false => cases found : p.request? <;> simp [delivered,shut,found,ih]

/-- One more occurrence can release the listener or be its registration. -/
theorem standing_snoc (o : Occurrence) :
    Standing (past ++ [o]) moment l ↔
      Standing past moment l ∧ o ≠ .release l.key ∨
        o = .listen l.name l.react ∧ moment = past.length ∧ l.key = .ofNat (registrations past) := by
  constructor
  · rintro ⟨before,after,split,early,key,unreleased⟩
    rcases List.eq_nil_or_concat after with rfl | ⟨after,last,rfl⟩
    · obtain ⟨rfl,same⟩ := List.append_inj' split rfl
      exact .inr ⟨by simpa using same,early,key⟩
    · have split : past ++ [o] = (before ++ .listen l.name l.react :: after) ++ [last] := by
        simpa using split
      obtain ⟨rfl,same⟩ := List.append_inj' split rfl
      obtain rfl : o = last := by simpa using same
      refine .inl ⟨⟨before,after,rfl,early,key,fun member => ?_⟩,fun same => ?_⟩
      · exact unreleased (by simp [member])
      · exact unreleased (by simp [same])
  · rintro (⟨⟨before,after,rfl,early,key,unreleased⟩,kept⟩ | ⟨rfl,early,key⟩)
    · refine ⟨before,after ++ [o],by simp,early,key,?_⟩
      simp [unreleased,kept.symm]
    · exact ⟨past,[],rfl,early,key,by simp⟩

theorem Standing.moment_lt (standing : Standing past moment l) : moment < past.length := by
  obtain ⟨before,after,rfl,rfl,-⟩ := standing
  simp

/-- Of two listeners the earlier one has the lower key, unless the keys have run through all words. -/
theorem Standing.key_lt {later : Nat} {k : Listener} (standing : Standing past moment l)
    (second : Standing past later k) (order : moment < later)
    (few : registrations past ≤ UInt64.size) : l.key < k.key := by
  obtain ⟨before,after,split,rfl,first,-⟩ := standing
  obtain ⟨longer,rest,rfl,rfl,last,-⟩ := second
  rcases List.append_eq_append_iff.mp split with ⟨more,rfl,_⟩ | ⟨between,rfl,between_eq⟩
  · rw [List.length_append] at order
    omega
  · cases between with
    | nil => simp at order
    | cons o between =>
      obtain ⟨rfl,-⟩ := List.cons.inj between_eq
      have more := registrations_lt before l between
      have bound := Nat.lt_of_lt_of_le (registrations_lt _ k rest) few
      rw [first,last,UInt64.lt_iff_toNat_lt,UInt64.toNat_ofNat_of_lt' bound,
        UInt64.toNat_ofNat_of_lt' (Nat.lt_trans more bound)]
      exact more

theorem attended_nil : Attended [] [] :=
  ⟨[],rfl,.nil,fun p => ⟨by simp,by rintro ⟨before,after,split,-⟩; simp at split⟩⟩

/-- A new listener comes last. -/
theorem Attended.listen (attended : Attended past listeners) (name : String)
    (react : Request → Reaction) :
    Attended (past ++ [.listen name react])
      (listeners ++ [⟨.ofNat (registrations past),name,react⟩]) := by
  obtain ⟨roll,rfl,order,exactly⟩ := attended
  refine ⟨roll ++ [(past.length,⟨.ofNat (registrations past),name,react⟩)],by simp,?_,?_⟩
  · refine List.pairwise_append.mpr ⟨order,List.pairwise_singleton _ _,fun p member q last => ?_⟩
    rw [List.mem_singleton.mp last]
    exact ((exactly p).mp member).moment_lt
  · rintro ⟨moment,key,name',react'⟩
    rw [List.mem_append,exactly,standing_snoc,List.mem_singleton]
    simp only [Prod.mk.injEq,Listener.mk.injEq,Occurrence.listen.injEq]
    grind

/-- A release takes its own listener away and no other. -/
theorem Attended.release (attended : Attended past listeners) (key : UInt64) :
    Attended (past ++ [.release key]) (listeners.filter (·.key ≠ key)) := by
  obtain ⟨roll,rfl,order,exactly⟩ := attended
  refine ⟨roll.filter (·.2.key ≠ key),List.filter_map,order.filter _,fun p => ?_⟩
  rw [List.mem_filter,exactly,standing_snoc]
  simp only [decide_eq_true_eq,ne_eq,Occurrence.release.injEq,reduceCtorEq,false_and,or_false]
  exact and_congr_right fun _ => not_congr eq_comm

theorem Attended.other (attended : Attended past listeners) {o : Occurrence}
    (registers : o.isListen = false) (releases : ∀ key, o ≠ .release key) :
    Attended (past ++ [o]) listeners := by
  obtain ⟨roll,rfl,order,exactly⟩ := attended
  refine ⟨roll,rfl,order,fun p => ?_⟩
  rw [exactly,standing_snoc]
  constructor
  · exact fun standing => .inl ⟨standing,releases p.2.key⟩
  · rintro (⟨standing,-⟩ | ⟨rfl,-⟩)
    · exact standing
    · simp [isListen] at registers

/-- No two of them have one key, unless the keys have run through all words. -/
theorem Attended.keys (attended : Attended past listeners) (few : registrations past ≤ UInt64.size) :
    listeners.Pairwise fun l k => l.key < k.key := by
  obtain ⟨roll,rfl,order,exactly⟩ := attended
  refine List.pairwise_map.mpr (order.imp_of_mem fun {p q} first second earlier => ?_)
  exact ((exactly p).mp first).key_lt ((exactly q).mp second) earlier few

end Occurrence

namespace Fanout

variable {α : Type} (f : Fanout α) (key : Nat)

/-- What one subscriber receives is no loss to another. -/
theorem queue?_receive {other : Nat} (apart : other ≠ key) :
    (f.receive other).2.closed = f.closed ∧ (f.receive other).2.queue? key = f.queue? key := by
  rcases f.receive_eq other with ⟨a,rest,-,received⟩ | ⟨-,received⟩
  · rw [received]
    refine ⟨rfl,?_⟩
    rw [queue?_setBuffered]
    simp [apart.symm]
  · rw [received]
    exact ⟨rfl,rfl⟩

/-- There is nothing to empty where nothing is buffered. -/
theorem queue?_emptied (empty : f.buffered key = []) (other : Nat) :
    (f.setBuffered key []).queue? other = f.queue? other := by
  rw [buffered_eq] at empty
  rw [queue?_setBuffered]
  by_cases own : other = key
  · subst own
    cases queue : f.queue? other with
    | none => rfl
    | some items => simpa [queue] using empty.symm
  · simp [own]

theorem setBuffered_setBuffered (first second : List α) :
    (f.setBuffered key first).setBuffered key second = f.setBuffered key second := by
  simp only [setBuffered,List.map_map,Fanout.mk.injEq,true_and]
  refine List.map_congr_left fun s _ => ?_
  by_cases own : s.key = key <;> simp [own,Function.comp_def]

theorem isOver_setBuffered (items : List α) :
    (f.setBuffered key items).isOver key = f.isOver key := by
  rw [isOver_eq,queue?_setBuffered,Option.isNone_map]
  rfl

end Fanout

structure Hearing where
  moment : Nat
  request : Request
  calls : List (Listener × Reaction)

/-- A reader and its loop. The hearings in `past` are complete; `current` is under way, with the listeners
still to be called. `clock` counts occurrences. -/
structure Audience where
  inbound : Inbound
  reader : Reader
  clock : Nat
  past : List Hearing
  current : Option (Hearing × List Listener)
  ended : Bool

namespace Audience

open Occurrence

def opening : Audience :=
  ⟨{ Inbound.empty with requests := (Reader.new Inbound.empty.requests).2 },
    (Reader.new Inbound.empty.requests).1,0,[],none,false⟩

def setRequests (a : Audience) (f : Fanout Request) : Audience :=
  { a with inbound := { a.inbound with requests := f } }

def buffered (a : Audience) : List Request := a.inbound.requests.buffered a.reader.subscription

def hearings (a : Audience) : List Hearing := a.past ++ (a.current.map Prod.fst).toList

def take (a : Audience) : Audience :=
  match a.inbound.requests.receive a.reader.subscription with
  | (.item request,f) =>
    { a.setRequests f with current := some (⟨a.clock,request,[]⟩,a.reader.listeners) }
  | (.nothing,_) => a
  | (.ended,_) => { a with ended := true }

def proceed (a : Audience) (reaction : Reaction) : Audience :=
  if a.ended then a
  else match a.current with
    | none => a.take
    | some (h,[]) => { a with past := a.past ++ [h], current := none }
    | some (h,l :: rest) =>
      { a with current := some ({ h with calls := h.calls ++ [(l,reaction)] },rest) }

def act (a : Audience) : Occurrence → Audience
  | .listen name react => { a with reader := (a.reader.listen name react).2 }
  | .release key => { a with reader := a.reader.dispose key }
  | .deliver m => { a with inbound := a.inbound.deliver m }
  | .close => { a with inbound := a.inbound.close }
  | .proceed reaction => a.proceed reaction
  | .subscribe => a.setRequests a.inbound.requests.subscribe.2
  | .unsubscribe other =>
    if other = a.reader.subscription then a else a.setRequests (a.inbound.requests.unsubscribe other)
  | .receive other =>
    if other = a.reader.subscription then a else a.setRequests (a.inbound.requests.receive other).2

def step (a : Audience) (o : Occurrence) : Audience := { a.act o with clock := a.clock + 1 }

def run (a : Audience) (occurrences : List Occurrence) : Audience := occurrences.foldl step a

inductive Advance (a : Audience) (reaction : Reaction) : Audience → Prop
  | rests : Advance a reaction a
  | takes (request : Request) (rest : List Request) : a.current = none →
      a.buffered = request :: rest →
      Advance a reaction
        { a.setRequests (a.inbound.requests.setBuffered a.reader.subscription rest) with
          current := some (⟨a.clock,request,[]⟩,a.reader.listeners) }
  | ends : a.current = none → a.buffered = [] →
      a.inbound.requests.isOver a.reader.subscription = true →
      Advance a reaction { a with ended := true }
  | completes (h : Hearing) : a.current = some (h,[]) →
      Advance a reaction { a with past := a.past ++ [h], current := none }
  | calls (h : Hearing) (l : Listener) (rest : List Listener) : a.current = some (h,l :: rest) →
      Advance a reaction
        { a with current := some ({ h with calls := h.calls ++ [(l,reaction)] },rest) }

variable {a b : Audience} {reaction : Reaction}

theorem advance_take (waiting : a.current = none) : Advance a reaction a.take := by
  rcases a.inbound.requests.receive_eq a.reader.subscription with
    ⟨request,rest,found,received⟩ | ⟨empty,received⟩
  · rw [take,received]
    exact .takes request rest waiting found
  · rw [take,received]
    cases isEnd : a.inbound.requests.isOver a.reader.subscription with
    | true => exact .ends waiting empty isEnd
    | false => exact .rests

theorem advance_proceed (a : Audience) (reaction : Reaction) :
    Advance a reaction (a.proceed reaction) := by
  unfold proceed
  split
  next => exact .rests
  next =>
    split
    next waiting => exact advance_take waiting
    next h found => exact .completes h found
    next h l rest found => exact .calls h l rest found

/-- The loop does nothing to the reader it belongs to. -/
theorem Advance.reader_eq (advance : Advance a reaction b) : b.reader = a.reader := by
  cases advance <;> rfl

theorem reader_act (a : Audience) (o : Occurrence) :
    (a.act o).reader =
      match o with
      | .listen name react => (a.reader.listen name react).2
      | .release key => a.reader.dispose key
      | _ => a.reader := by
  cases o with
  | proceed reaction => exact (advance_proceed a reaction).reader_eq
  | unsubscribe other =>
    rw [act]
    split <;> rfl
  | receive other =>
    rw [act]
    split <;> rfl
  | _ => rfl

def Paused (a b : Audience) : Prop :=
  b.past = a.past ∧ b.current = a.current ∧ b.ended = a.ended

theorem Paused.hearings_eq (paused : a.Paused b) : b.hearings = a.hearings := by
  rw [hearings,paused.1,paused.2.1,hearings]

/-- The loop makes its own step or stays where it is. -/
theorem loop_act (a : Audience) (o : Occurrence) :
    (∃ reaction, o = .proceed reaction ∧ Advance a reaction (a.act o)) ∨
      o.isProceed = false ∧ a.Paused (a.act o) := by
  cases o with
  | proceed reaction => exact .inl ⟨reaction,rfl,advance_proceed a reaction⟩
  | unsubscribe other =>
    refine .inr ⟨rfl,?_⟩
    rw [act]
    split <;> exact ⟨rfl,rfl,rfl⟩
  | receive other =>
    refine .inr ⟨rfl,?_⟩
    rw [act]
    split <;> exact ⟨rfl,rfl,rfl⟩
  | _ => exact .inr ⟨rfl,rfl,rfl,rfl⟩

/-- It does nothing after its end. -/
theorem paused_of_ended (final : a.ended = true) (o : Occurrence) : a.Paused (a.act o) := by
  rcases a.loop_act o with ⟨reaction,rfl,-⟩ | ⟨-,paused⟩
  · rw [act,proceed,if_pos final]
    exact ⟨rfl,rfl,rfl⟩
  · exact paused

/-- How one occurrence moves requests: what comes in is to be taken, as long as nothing is closed, and
nothing else adds to what was taken or is still to be taken. -/
structure Flows (a : Audience) (o : Occurrence) (b : Audience) : Prop where
  closed : b.inbound.requests.closed = (a.inbound.requests.closed || o.isClose)
  subscribed : (b.inbound.requests.queue? b.reader.subscription).isSome
  taken : b.hearings.map Hearing.request ++ b.buffered =
    a.hearings.map Hearing.request ++ a.buffered ++
      if a.inbound.requests.closed then [] else o.request?.toList

variable {o : Occurrence}

/-- Nothing moves where the queue of the reader stays and no request is taken. -/
theorem flows_of_queue
    (subscribed : (a.inbound.requests.queue? a.reader.subscription).isSome)
    (closed : b.inbound.requests.closed = (a.inbound.requests.closed || o.isClose))
    (queue : b.inbound.requests.queue? b.reader.subscription =
      a.inbound.requests.queue? a.reader.subscription)
    (heard : b.hearings.map Hearing.request = a.hearings.map Hearing.request)
    (brings : o.request? = none) : Flows a o b := by
  refine ⟨closed,queue ▸ subscribed,?_⟩
  have kept : b.buffered = a.buffered := by
    rw [buffered,buffered,Fanout.buffered_eq,Fanout.buffered_eq,queue]
  simp [kept,heard,brings]

theorem Advance.flows (advance : Advance a reaction b)
    (subscribed : (a.inbound.requests.queue? a.reader.subscription).isSome) :
    Flows a (.proceed reaction) b := by
  have same := (Bool.or_false a.inbound.requests.closed).symm
  cases advance with
  | rests => exact flows_of_queue subscribed same rfl rfl rfl
  | takes request rest waiting next =>
    obtain ⟨items,found⟩ := Option.isSome_iff_exists.mp subscribed
    refine ⟨same,?_,?_⟩
    · simp [setRequests,Fanout.queue?_setBuffered,found]
    · rw [next]
      simp [hearings,buffered,setRequests,waiting,Fanout.buffered_eq,Fanout.queue?_setBuffered,found,
        request?]
  | ends => exact flows_of_queue subscribed same rfl rfl rfl
  | completes h under =>
    refine flows_of_queue subscribed same rfl ?_ rfl
    simp [hearings,under]
  | calls h l rest under =>
    refine flows_of_queue subscribed same rfl ?_ rfl
    simp [hearings,under]

theorem flows_deliver (a : Audience) (m : Message)
    (subscribed : (a.inbound.requests.queue? a.reader.subscription).isSome) :
    Flows a (.deliver m) (a.act (.deliver m)) := by
  cases m with
  | request r =>
    obtain ⟨items,found⟩ := Option.isSome_iff_exists.mp subscribed
    refine ⟨by simp [act,Inbound.deliver,isClose],?_,?_⟩
    · simp [act,Inbound.deliver,Fanout.queue?_publish,found]
    · rw [List.append_assoc]
      simp [hearings,buffered,act,Inbound.deliver,Fanout.buffered_eq,Fanout.queue?_publish,found,request?,
        Message.request?]
  | notification n => exact flows_of_queue subscribed (Bool.or_false _).symm rfl rfl rfl
  | response r => exact flows_of_queue subscribed (Bool.or_false _).symm rfl rfl rfl

theorem flows_act (a : Audience) (o : Occurrence)
    (subscribed : (a.inbound.requests.queue? a.reader.subscription).isSome) :
    Flows a o (a.act o) := by
  have same := (Bool.or_false a.inbound.requests.closed).symm
  cases o with
  | listen name react => exact flows_of_queue subscribed same rfl rfl rfl
  | release key => exact flows_of_queue subscribed same rfl rfl rfl
  | deliver m => exact flows_deliver a m subscribed
  | close => exact flows_of_queue subscribed (Bool.or_true _).symm rfl rfl rfl
  | proceed reaction => exact (advance_proceed a reaction).flows subscribed
  | subscribe =>
    refine flows_of_queue subscribed same ?_ rfl rfl
    obtain ⟨items,found⟩ := Option.isSome_iff_exists.mp subscribed
    simp [act,setRequests,Fanout.queue?_subscribe,found]
  | unsubscribe other =>
    rw [act]
    split
    next => exact flows_of_queue subscribed same rfl rfl rfl
    next apart =>
      refine flows_of_queue subscribed same ?_ rfl rfl
      exact (Fanout.queue?_unsubscribe _ _ _).trans (if_neg (Ne.symm apart))
  | receive other =>
    rw [act]
    split
    next => exact flows_of_queue subscribed same rfl rfl rfl
    next apart =>
      obtain ⟨closed,queue⟩ := a.inbound.requests.queue?_receive _ apart
      exact flows_of_queue subscribed (closed.trans same) queue rfl rfl

/-- A hearing began with a step of the loop and is for those who were registered and not released then:
those called so far and those still to be called, in order. -/
def Heeded (past : List Occurrence) (h : Hearing) (rest : List Listener) : Prop :=
  (∃ reaction, past[h.moment]? = some (.proceed reaction)) ∧
    Attended (past.take h.moment) (h.calls.map Prod.fst ++ rest)

variable {past : List Occurrence} {h : Hearing} {rest : List Listener}

theorem Heeded.moment_lt (heeded : Heeded past h rest) : h.moment < past.length := by
  obtain ⟨⟨reaction,found⟩,-⟩ := heeded
  exact (List.getElem?_eq_some_iff.mp found).1

/-- Nothing that comes later counts for it. -/
theorem Heeded.snoc (heeded : Heeded past h rest) (o : Occurrence) : Heeded (past ++ [o]) h rest := by
  have earlier := heeded.moment_lt
  obtain ⟨⟨reaction,found⟩,attended⟩ := heeded
  refine ⟨⟨reaction,?_⟩,?_⟩
  · rw [List.getElem?_append_left earlier]
    exact found
  · rw [List.take_append_of_le_length (Nat.le_of_lt earlier)]
    exact attended

structure Orderly (past : List Occurrence) (a : Audience) : Prop where
  clock : a.clock = past.length
  /-- Keys are given out in order. -/
  next : a.reader.next = .ofNat (registrations past)
  listeners : Attended past a.reader.listeners
  closed : a.inbound.requests.closed = past.any isClose
  subscribed : (a.inbound.requests.queue? a.reader.subscription).isSome
  /-- Requests are taken in the order in which they came, each once. -/
  taken : a.hearings.map Hearing.request ++ a.buffered = delivered past
  /-- Each was taken by a step of its own. -/
  moments : (a.hearings.map Hearing.moment).Pairwise (· < ·)
  complete : ∀ h ∈ a.past, Heeded past h []
  current : ∀ h rest, a.current = some (h,rest) → Heeded past h rest
  /-- The loop ends after the close, with everything taken and everyone called. -/
  ended : a.ended = true → past.any isClose = true ∧ a.current = none ∧
    a.past.map Hearing.request = delivered past

theorem orderly_opening : Orderly [] opening where
  clock := rfl
  next := rfl
  listeners := attended_nil
  closed := rfl
  subscribed := rfl
  taken := rfl
  moments := .nil
  complete := by simp [opening]
  current := by simp [opening]
  ended := by simp [opening]

theorem Orderly.moment_lt (orderly : Orderly past a) : ∀ h ∈ a.hearings, h.moment < past.length := by
  intro h member
  rcases List.mem_append.mp member with done | under
  · exact (orderly.complete h done).moment_lt
  · obtain ⟨⟨_,rest⟩,found,rfl⟩ := Option.map_eq_some_iff.mp (Option.mem_toList.mp under)
    exact (orderly.current _ rest found).moment_lt

theorem Orderly.enrolled_step (orderly : Orderly past a) (o : Occurrence) :
    (a.act o).reader.next = .ofNat (registrations (past ++ [o])) ∧
      Attended (past ++ [o]) (a.act o).reader.listeners := by
  rw [reader_act,registrations_snoc]
  cases o with
  | listen name react =>
    refine ⟨(congrArg (· + 1) orderly.next).trans (UInt64.ofNat_add _ 1).symm,?_⟩
    have last := orderly.listeners.listen name react
    rw [← orderly.next] at last
    exact last
  | release key => exact ⟨orderly.next,orderly.listeners.release key⟩
  | _ => exact ⟨orderly.next,orderly.listeners.other rfl (by simp)⟩

theorem Orderly.taken_step (orderly : Orderly past a) (o : Occurrence) :
    (a.act o).inbound.requests.closed = (past ++ [o]).any isClose ∧
      (a.act o).hearings.map Hearing.request ++ (a.act o).buffered = delivered (past ++ [o]) := by
  have flows := flows_act a o orderly.subscribed
  refine ⟨?_,?_⟩
  · rw [flows.closed,orderly.closed,List.any_append]
    simp
  · rw [flows.taken,orderly.taken,orderly.closed,delivered_snoc]

theorem Orderly.heeded_advance (orderly : Orderly past a) (advance : Advance a reaction b) :
    (∀ h ∈ b.past, Heeded (past ++ [.proceed reaction]) h []) ∧
      ∀ h rest, b.current = some (h,rest) → Heeded (past ++ [.proceed reaction]) h rest := by
  have complete := fun h member => (orderly.complete h member).snoc (.proceed reaction)
  have current := fun h rest found => (orderly.current h rest found).snoc (.proceed reaction)
  cases advance with
  | rests => exact ⟨complete,current⟩
  | takes request rest waiting next =>
    refine ⟨complete,?_⟩
    rintro h rest ⟨rfl,rfl⟩
    refine ⟨⟨reaction,?_⟩,?_⟩
    · simp [orderly.clock]
    · simpa [orderly.clock] using orderly.listeners
  | ends waiting => exact ⟨complete,current⟩
  | completes h under =>
    refine ⟨?_,by simp⟩
    intro k member
    rcases List.mem_append.mp member with done | last
    · exact complete k done
    · rw [List.mem_singleton.mp last]
      exact current h [] under
  | calls h l rest under =>
    refine ⟨complete,?_⟩
    rintro k rest ⟨rfl,rfl⟩
    have heeded := current h (l :: rest) under
    refine ⟨heeded.1,?_⟩
    simpa using heeded.2

theorem Orderly.heeded_step (orderly : Orderly past a) (o : Occurrence) :
    (∀ h ∈ (a.act o).past, Heeded (past ++ [o]) h []) ∧
      ∀ h rest, (a.act o).current = some (h,rest) → Heeded (past ++ [o]) h rest := by
  rcases a.loop_act o with ⟨reaction,rfl,advance⟩ | ⟨-,samePast,sameCurrent,-⟩
  · exact orderly.heeded_advance advance
  · rw [samePast,sameCurrent]
    exact ⟨fun h member => (orderly.complete h member).snoc o,
      fun h rest found => (orderly.current h rest found).snoc o⟩

theorem Orderly.moments_advance (orderly : Orderly past a) (advance : Advance a reaction b) :
    (b.hearings.map Hearing.moment).Pairwise (· < ·) := by
  have moments := orderly.moments
  cases advance with
  | rests => exact moments
  | takes request rest waiting next =>
    have earlier := orderly.moment_lt
    simp only [hearings,waiting,Option.map_none,Option.toList_none,List.append_nil] at moments earlier
    simp only [hearings,setRequests,Option.map_some,Option.toList_some,List.map_append,List.map_cons,
      List.map_nil]
    refine List.pairwise_append.mpr ⟨moments,List.pairwise_singleton _ _,?_⟩
    intro m member last new
    obtain ⟨h,done,rfl⟩ := List.mem_map.mp member
    rw [List.mem_singleton.mp new,orderly.clock]
    exact earlier h done
  | ends => exact moments
  | completes h under => simpa [hearings,under] using moments
  | calls h l rest under => simpa [hearings,under] using moments

theorem Orderly.moments_step (orderly : Orderly past a) (o : Occurrence) :
    ((a.act o).hearings.map Hearing.moment).Pairwise (· < ·) := by
  rcases a.loop_act o with ⟨reaction,rfl,advance⟩ | ⟨-,paused⟩
  · exact orderly.moments_advance advance
  · rw [paused.hearings_eq]
    exact orderly.moments

/-- A loop that finds the end has taken all that was delivered before the close. -/
theorem Orderly.ended_advance (orderly : Orderly past a) (advance : Advance a reaction b)
    (going : a.ended = false) (final : b.ended = true) :
    past.any isClose = true ∧ b.current = none ∧ b.past.map Hearing.request = delivered past := by
  cases advance with
  | ends waiting empty isEnd =>
    refine ⟨?_,waiting,?_⟩
    · rw [← orderly.closed]
      exact Fanout.closed_of_isOver orderly.subscribed isEnd
    · rw [← orderly.taken,empty]
      simp [hearings,waiting]
  | _ => simp [setRequests,going] at final

theorem Orderly.ended_step (orderly : Orderly past a) (o : Occurrence)
    (final : (a.act o).ended = true) :
    (past ++ [o]).any isClose = true ∧ (a.act o).current = none ∧
      (a.act o).past.map Hearing.request = delivered (past ++ [o]) := by
  have ended : past.any isClose = true ∧ (a.act o).current = none ∧
      (a.act o).past.map Hearing.request = delivered past := by
    cases before : a.ended with
    | true =>
      obtain ⟨samePast,sameCurrent,-⟩ := paused_of_ended before o
      rw [samePast,sameCurrent]
      exact orderly.ended before
    | false =>
      rcases a.loop_act o with ⟨reaction,rfl,advance⟩ | ⟨-,-,-,sameEnded⟩
      · exact orderly.ended_advance advance before final
      · simp [sameEnded,before] at final
  obtain ⟨closed,waiting,taken⟩ := ended
  refine ⟨by simp [closed],waiting,?_⟩
  rw [delivered_snoc,if_pos closed,List.append_nil]
  exact taken

theorem Orderly.step (orderly : Orderly past a) (o : Occurrence) :
    Orderly (past ++ [o]) (a.step o) where
  clock := by simp [Audience.step,orderly.clock]
  next := (orderly.enrolled_step o).1
  listeners := (orderly.enrolled_step o).2
  closed := (orderly.taken_step o).1
  subscribed := (flows_act a o orderly.subscribed).subscribed
  taken := (orderly.taken_step o).2
  moments := orderly.moments_step o
  complete := (orderly.heeded_step o).1
  current := (orderly.heeded_step o).2
  ended := orderly.ended_step o

theorem run_snoc (a : Audience) (past : List Occurrence) (o : Occurrence) :
    a.run (past ++ [o]) = (a.run past).step o := by
  rw [run,List.foldl_append]
  rfl

theorem orderly_run (past : List Occurrence) : Orderly past (opening.run past) := by
  induction past using List.reverseRecOn with
  | nil => exact orderly_opening
  | append_singleton past o ih =>
    rw [run_snoc]
    exact ih.step o

theorem run_cons (a : Audience) (o : Occurrence) (rest : List Occurrence) :
    a.run (o :: rest) = (a.step o).run rest := rfl

theorem Advance.past_subset (advance : Advance a reaction b) : a.past ⊆ b.past := by
  cases advance with
  | completes h under => exact List.subset_append_left _ _
  | _ => exact List.Subset.refl _

/-- Complete hearings stay. -/
theorem past_subset_run (a : Audience) (later : List Occurrence) : a.past ⊆ (a.run later).past := by
  induction later generalizing a with
  | nil => exact List.Subset.refl _
  | cons o later ih =>
    have first : a.past ⊆ (a.step o).past := by
      rcases a.loop_act o with ⟨reaction,-,advance⟩ | ⟨-,same,-⟩
      · exact advance.past_subset
      · have kept : (a.step o).past = a.past := same
        rw [kept]
        exact List.Subset.refl _
    exact List.Subset.trans first (ih (a.step o))

/-- A hearing is brought to its end by as many steps of the loop as it needs, whatever happens between
them. -/
theorem heard_out (going : a.ended = false) (under : a.current = some (h,rest))
    (later : List Occurrence) (enough : rest.length < later.countP isProceed) :
    ∃ calls, calls.map Prod.fst = rest ∧
      (⟨h.moment,h.request,h.calls ++ calls⟩ : Hearing) ∈ (a.run later).past := by
  induction later generalizing a h rest with
  | nil => simp at enough
  | cons o later ih =>
    rw [run_cons]
    rcases a.loop_act o with ⟨reaction,rfl,-⟩ | ⟨other,-,current,ended⟩
    · cases rest with
      | nil =>
        refine ⟨[],rfl,past_subset_run _ later ?_⟩
        simp [Audience.step,act,proceed,going,under]
      | cons l rest =>
        have called : (a.step (.proceed reaction)).ended = false ∧
            (a.step (.proceed reaction)).current =
              some (⟨h.moment,h.request,h.calls ++ [(l,reaction)]⟩,rest) := by
          simp [Audience.step,act,proceed,going,under]
        have fewer : rest.length < later.countP isProceed := by
          simpa [List.countP_cons,isProceed] using enough
        obtain ⟨calls,same,done⟩ := ih called.1 called.2 fewer
        refine ⟨(l,reaction) :: calls,by rw [List.map_cons,same],?_⟩
        simpa using done
    · apply ih (a := a.step o) (ended.trans going) (current.trans under)
      simpa [List.countP_cons,other] using enough

/-- A loop that waits takes the oldest request, or finds the end. -/
theorem take_oldest (going : a.ended = false) (waiting : a.current = none) (reaction : Reaction) :
    (a.step (.proceed reaction)).hearings.map Hearing.request =
        a.hearings.map Hearing.request ++ a.buffered.head?.toList ∧
      (a.step (.proceed reaction)).ended =
        (a.buffered.isEmpty && a.inbound.requests.isOver a.reader.subscription) := by
  have waits : a.act (.proceed reaction) = a.take := by simp [act,proceed,going,waiting]
  have same : (a.step (.proceed reaction)).hearings = a.take.hearings ∧
      (a.step (.proceed reaction)).ended = a.take.ended := by
    rw [Audience.step,waits]
    exact ⟨rfl,rfl⟩
  rw [same.1,same.2]
  rcases a.inbound.requests.receive_eq a.reader.subscription with
    ⟨request,later,found,received⟩ | ⟨empty,received⟩
  · have found : a.buffered = request :: later := found
    rw [take,received,found]
    simp [hearings,setRequests,waiting,going]
  · have empty : a.buffered = [] := empty
    rw [take,received,empty]
    cases a.inbound.requests.isOver a.reader.subscription <;> simp [hearings,waiting,going]

def heard (a : Audience) : List Heard :=
  a.hearings.flatMap fun h => h.calls.map fun c => ⟨c.1.name,h.request,c.2⟩

/-- The steps of a loop that is left alone with these requests to take, where the listeners react to them.
What goes with a step that calls nobody is idle. -/
def course (r : Reader) (idle : Reaction) : List Request → List Occurrence
  | [] => [.proceed idle]
  | request :: rest =>
    .proceed idle :: (r.listeners.map (fun l => .proceed (l.react request)) ++
      .proceed idle :: course r idle rest)

theorem run_append (a : Audience) (first rest : List Occurrence) :
    a.run (first ++ rest) = (a.run first).run rest := List.foldl_append

theorem run_calls (going : a.ended = false) (under : a.current = some (h,rest)) :
    a.run (rest.map fun l => .proceed (l.react h.request)) =
      { a with
        clock := a.clock + rest.length
        current := some (⟨h.moment,h.request,h.calls ++ rest.map fun l => (l,l.react h.request)⟩,[]) } := by
  induction rest generalizing a h with
  | nil =>
    simp only [List.map_nil,List.append_nil,List.length_nil,Nat.add_zero,← under]
    rfl
  | cons l rest ih =>
    have called : a.step (.proceed (l.react h.request)) =
        { a with
          clock := a.clock + 1
          current := some ({ h with calls := h.calls ++ [(l,l.react h.request)] },rest) } := by
      simp [Audience.step,act,proceed,going,under]
    have others := ih (a := a.step (.proceed (l.react h.request)))
      (h := { h with calls := h.calls ++ [(l,l.react h.request)] })
      (by rw [called]; exact going) (by rw [called])
    rw [List.map_cons,run_cons,others,called]
    simp [Nat.add_assoc,Nat.add_comm 1]

/-- Left alone, the loop takes a request and calls all its listeners. -/
theorem run_turn (going : a.ended = false) (waiting : a.current = none) {request : Request}
    {later : List Request} (found : a.buffered = request :: later) (idle : Reaction) :
    a.run (.proceed idle :: (a.reader.listeners.map (fun l => .proceed (l.react request)) ++
        [.proceed idle])) =
      { a.setRequests (a.inbound.requests.setBuffered a.reader.subscription later) with
        clock := a.clock + 1 + a.reader.listeners.length + 1
        past := a.past ++
          [⟨a.clock,request,a.reader.listeners.map fun l => (l,l.react request)⟩] } := by
  have taken : a.step (.proceed idle) =
      { a.setRequests (a.inbound.requests.setBuffered a.reader.subscription later) with
        clock := a.clock + 1
        current := some (⟨a.clock,request,[]⟩,a.reader.listeners) } := by
    rw [buffered] at found
    simp [Audience.step,act,proceed,take,going,waiting,Fanout.receive,found]
  have called := run_calls (a := a.step (.proceed idle)) (by rw [taken]; exact going) (by rw [taken])
  rw [run_cons,run_append,called,taken]
  simp [run,Audience.step,act,proceed,setRequests,going,waiting]

theorem run_wait (going : a.ended = false) (waiting : a.current = none) (empty : a.buffered = [])
    (idle : Reaction) :
    a.run [.proceed idle] =
      { a with
        clock := a.clock + 1
        ended := a.inbound.requests.isOver a.reader.subscription } := by
  rw [buffered] at empty
  simp only [run,List.foldl_cons,List.foldl_nil,Audience.step,act,proceed,take,going,waiting,
    Fanout.receive,empty]
  cases a.inbound.requests.isOver a.reader.subscription <;> simp [going,waiting]

/-- Left alone, the loop does what the reader does at once. -/
theorem run_course (going : a.ended = false) (waiting : a.current = none) (idle : Reaction) :
    let b := a.run (course a.reader idle a.buffered)
    b.heard = a.heard ++ (a.reader.run a.inbound.requests).1 ∧
      b.ended = (a.reader.run a.inbound.requests).2.1 ∧
      ∀ key, b.inbound.requests.queue? key = (a.reader.run a.inbound.requests).2.2.queue? key := by
  intro b
  change b.heard = a.heard ++ a.buffered.flatMap a.reader.hear ∧
    b.ended = a.inbound.requests.isOver a.reader.subscription ∧
    ∀ key, b.inbound.requests.queue? key =
      (a.inbound.requests.setBuffered a.reader.subscription []).queue? key
  subst b
  generalize found : a.buffered = requests
  induction requests generalizing a with
  | nil =>
    rw [course,run_wait going waiting found]
    exact ⟨by simp [heard,hearings],rfl,fun key => (Fanout.queue?_emptied _ _ found key).symm⟩
  | cons request later ih =>
    have turn := run_turn going waiting found idle
    have split : course a.reader idle (request :: later) =
        (.proceed idle :: (a.reader.listeners.map (fun l => .proceed (l.react request)) ++
          [.proceed idle])) ++ course a.reader idle later := by
      simp [course]
    rw [split,run_append]
    generalize a.run _ = b at turn
    have nonempty : (a.inbound.requests.queue? a.reader.subscription).isSome := by
      cases queue : a.inbound.requests.queue? a.reader.subscription with
      | none => simp [buffered,Fanout.buffered_eq,queue] at found
      | some items => rfl
    obtain ⟨items,queue⟩ := Option.isSome_iff_exists.mp nonempty
    have next : b.buffered = later := by
      simp [turn,buffered,setRequests,Fanout.buffered_eq,Fanout.queue?_setBuffered,queue]
    have said : b.heard = a.heard ++ a.reader.hear request := by
      simp [turn,heard,hearings,setRequests,waiting,Reader.hear,Function.comp_def]
    obtain ⟨others,ended,queues⟩ := ih (a := b) (by rw [turn]; exact going)
      (by rw [turn]; exact waiting) next
    have sameReader : b.reader = a.reader := by rw [turn]; rfl
    have requests : b.inbound.requests =
        a.inbound.requests.setBuffered a.reader.subscription later := by rw [turn]; rfl
    rw [sameReader] at others ended queues
    refine ⟨?_,?_,?_⟩
    · rw [others,said,List.flatMap_cons,List.append_assoc]
    · rw [ended,requests,Fanout.isOver_setBuffered]
    · intro key
      rw [queues,requests,Fanout.setBuffered_setBuffered]

/-- Whatever happens in whatever order, the loop takes the requests as they came and calls for each exactly
those who were registered and not released when it took it, in order of registration, whatever came of the
calls before. A handle releases its own listener only, as long as the keys have not run through all words.
Steps of the loop bring every hearing to its end and every request to a hearing, and a loop that is left
alone does what the reader does at once. -/
theorem run_heeded (occurrences : List Occurrence) :
    let a := opening.run occurrences
    Orderly occurrences a ∧
      (∀ name react, (a.reader.listen name react).1 = .ofNat (registrations occurrences)) ∧
      (registrations occurrences ≤ UInt64.size →
        a.reader.listeners.Pairwise fun l k => l.key < k.key) ∧
      (∀ key l, l ∈ (a.reader.dispose key).listeners ↔ l ∈ a.reader.listeners ∧ l.key ≠ key) ∧
      (∀ h rest later, a.current = some (h,rest) → rest.length < later.countP isProceed →
        ∃ calls, calls.map Prod.fst = rest ∧
          (⟨h.moment,h.request,h.calls ++ calls⟩ : Hearing) ∈ (a.run later).past) ∧
      (a.ended = false → a.current = none → ∀ reaction,
        let b := a.step (.proceed reaction)
        b.hearings.map Hearing.request = a.hearings.map Hearing.request ++ a.buffered.head?.toList ∧
          b.ended = (a.buffered.isEmpty && occurrences.any isClose)) ∧
      (a.ended = false → a.current = none → ∀ idle,
        let b := a.run (course a.reader idle a.buffered)
        b.heard = a.heard ++ (a.reader.run a.inbound.requests).1 ∧
          b.ended = (a.reader.run a.inbound.requests).2.1 ∧
          ∀ key, b.inbound.requests.queue? key =
            (a.reader.run a.inbound.requests).2.2.queue? key) := by
  intro a
  have orderly := orderly_run occurrences
  refine ⟨orderly,fun name react => orderly.next,orderly.listeners.keys,
    fun key l => by simp [Reader.dispose],?_,?_,
    fun going waiting idle => run_course going waiting idle⟩
  · intro h rest later under enough
    refine heard_out ?_ under later enough
    cases final : a.ended with
    | false => rfl
    | true =>
      obtain ⟨-,waiting,-⟩ := orderly.ended final
      cases waiting.symm.trans under
  · intro going waiting reaction
    obtain ⟨items,found⟩ := Option.isSome_iff_exists.mp orderly.subscribed
    have closes : a.inbound.requests.isOver a.reader.subscription = occurrences.any isClose := by
      rw [← orderly.closed,Fanout.isOver_eq,found]
      exact Bool.or_false _
    rw [← closes]
    exact take_oldest going waiting reaction

end Audience

end LanguageBridge
