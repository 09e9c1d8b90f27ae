import LanguageBridge.Proofs.Holding
import LanguageBridge.Proofs.Lane

/-! Runs of a desk. `Move` says once what a command can do to the queues of the subscriptions, and
`step_holding` what it does to the handles and the pending table, which form a holding. -/
namespace LanguageBridge

namespace DeskReply

def messages : DeskReply → List Message
  | .items ms _ => ms
  | .received (.item m) => [m]
  | _ => []

end DeskReply

namespace DeskCommand

def taker? : DeskCommand → Option String
  | .drain name => some name
  | .receive name => some name
  | _ => none

/-- Whether a name stands for the same subscription after a command as before. -/
def keeps (name : String) : DeskCommand → Bool
  | .requests other => other ≠ name
  | .notifications other => other ≠ name
  | .unsubscribe other => other ≠ name
  | _ => true

def spender? : DeskCommand → Option String
  | .poll name => some name
  | .drop name => some name
  | _ => none

def isClose : DeskCommand → Bool
  | .close => true
  | _ => false

def due (strand : Strand) : DeskCommand → List Message
  | .deliver m => if strand.admits m then [m] else []
  | _ => []

theorem eq_of_taker {c : DeskCommand} {name : String} (taker : c.taker? = some name) :
    c = .drain name ∨ c = .receive name := by
  cases c <;> simp_all [taker?]

variable (strand : Strand) (name : String)

@[simp] theorem isClose_subscribe : (strand.subscribe name).isClose = false := by
  cases strand <;> rfl

@[simp] theorem due_subscribe (other : Strand) : (strand.subscribe name).due other = [] := by
  cases strand <;> rfl

@[simp] theorem keeps_subscribe (other : String) :
    (strand.subscribe name).keeps other = decide (name ≠ other) := by
  cases strand <;> rfl

end DeskCommand

namespace Desk

def buffered (d : Desk) (s : Subscription) : List Message := d.channel.inbound.buffered s

def run (d : Desk) (commands : List DeskCommand) : Desk :=
  commands.foldl (fun d c => (d.step c).1) d

def transcript (d : Desk) : List DeskCommand → List (DeskCommand × DeskReply)
  | [] => []
  | c :: rest => (c,(d.step c).2) :: transcript (d.step c).1 rest

@[simp] theorem run_nil (d : Desk) : d.run [] = d := rfl

@[simp] theorem run_cons (d : Desk) (c : DeskCommand) (rest : List DeskCommand) :
    d.run (c :: rest) = (d.step c).1.run rest := rfl

@[simp] theorem run_append (d : Desk) (first second : List DeskCommand) :
    d.run (first ++ second) = (d.run first).run second := by
  simp [run]

/-- Everything that a command can do to the queues, with the reply and the desk after it. -/
inductive Move (d : Desk) : DeskCommand → DeskReply → Desk → Prop where
  | aside {c : DeskCommand} {reply : DeskReply} {e : Desk} (silent : reply.messages = [])
      (undue : ∀ strand, c.due strand = []) (goesOn : c.isClose = false)
      (keeps : ∀ name, c.keeps name = true) (subscriptions : e.subscriptions = d.subscriptions)
      (queues : d.channel.inbound.Reshaped e.channel.inbound fun _ old => some old) :
      Move d c reply e
  | taken {c : DeskCommand} {reply : DeskReply} {e : Desk} {name : String} {s : Subscription}
      {left : List Message} (taker : c.taker? = some name)
      (found : d.subscriptions.lookup name = some s)
      (items : d.buffered s = reply.messages ++ left)
      (subscriptions : e.subscriptions = d.subscriptions)
      (queues : d.channel.inbound.Reshaped e.channel.inbound
        fun other old => some (if other = s then left else old)) :
      Move d c reply e
  | released {reply : DeskReply} {e : Desk} {name : String} (silent : reply.messages = [])
      (subscriptions : e.subscriptions = d.subscriptions.filter (·.1 ≠ name))
      (queues : d.channel.inbound.Reshaped e.channel.inbound fun other old =>
        if d.subscriptions.lookup name = some other then none else some old) :
      Move d (.unsubscribe name) reply e
  | subscribed {reply : DeskReply} {e : Desk} {strand : Strand} {name : String}
      (silent : reply.messages = [])
      (subscriptions : e.subscriptions =
        (name,strand.subscription (d.channel.inbound.next strand)) ::
          d.subscriptions.filter (·.1 ≠ name))
      (queues : (d.channel.inbound.subscribed strand).Reshaped e.channel.inbound fun other old =>
        if d.subscriptions.lookup name = some other then none else some old) :
      Move d (strand.subscribe name) reply e
  | published {m : Message} {reply : DeskReply} {e : Desk} (silent : reply.messages = [])
      (subscriptions : e.subscriptions = d.subscriptions)
      (queues : d.channel.inbound.Reshaped e.channel.inbound fun s old =>
        some (old ++ if d.channel.inbound.ended s.strand then []
          else (DeskCommand.deliver m).due s.strand)) :
      Move d (.deliver m) reply e
  | closed {reply : DeskReply} {e : Desk} (silent : reply.messages = [])
      (subscriptions : e.subscriptions = d.subscriptions)
      (ended : ∀ strand, e.channel.inbound.ended strand = true)
      (next : ∀ strand, e.channel.inbound.next strand = d.channel.inbound.next strand)
      (queues : ∀ s, e.channel.inbound.queue? s = d.channel.inbound.queue? s) :
      Move d .close reply e

def isOver (d : Desk) (s : Subscription) : Bool :=
  d.channel.inbound.ended s.strand || (d.channel.inbound.queue? s).isNone

theorem buffered_eq (d : Desk) (s : Subscription) :
    d.buffered s = (d.channel.inbound.lane s.strand).buffered s.key := rfl

theorem isOver_eq (d : Desk) (s : Subscription) :
    d.isOver s = (d.channel.inbound.lane s.strand).isOver s.key := rfl

/-- A drain hands out all that is buffered, and tells whether that was all. -/
theorem drain_eq (d : Desk) (s : Subscription) :
    ∃ i, d.drain s = (d.setInbound i,.items (d.buffered s) (d.isOver s)) ∧
      d.channel.inbound.Reshaped i fun other old => some (if other = s then [] else old) := by
  rw [buffered_eq,isOver_eq]
  cases s with
  | requests key =>
    refine ⟨_,?_,d.channel.inbound.reshaped_requests key []⟩
    simp [Inbound.lane,Subscription.strand,Subscription.key,drain,Fanout.drain]
  | notifications key =>
    refine ⟨_,?_,d.channel.inbound.reshaped_notifications key []⟩
    simp [Inbound.lane,Subscription.strand,Subscription.key,drain,Fanout.drain]

/-- A receive hands out the oldest message that is buffered, if there is one. -/
theorem receive_eq (d : Desk) (s : Subscription) :
    (∃ i m left, d.buffered s = m :: left ∧ d.receive s = (d.setInbound i,.received (.item m)) ∧
      d.channel.inbound.Reshaped i fun other old => some (if other = s then left else old)) ∨
    d.buffered s = [] ∧
      d.receive s = (d,.received (if d.isOver s then .ended else .nothing)) := by
  rw [buffered_eq,isOver_eq]
  cases s with
  | requests key =>
    rcases d.channel.inbound.requests.receive_eq key with ⟨r,left,items,taken⟩ | ⟨none,taken⟩
    · refine .inl ⟨_,.request r,left.map .request,?_,?_,
        d.channel.inbound.reshaped_requests key left⟩
      · simp [Inbound.lane,Subscription.strand,Subscription.key,items]
      · simp [receive,taken,Received.map]
    · refine .inr ⟨?_,?_⟩
      · simp [Inbound.lane,Subscription.strand,Subscription.key,none]
      · simp only [Inbound.lane,Subscription.strand,Subscription.key,Fanout.isOver_map,receive,taken]
        split <;> rfl
  | notifications key =>
    rcases d.channel.inbound.notifications.receive_eq key with ⟨n,left,items,taken⟩ | ⟨none,taken⟩
    · refine .inl ⟨_,.notification n,left.map .notification,?_,?_,
        d.channel.inbound.reshaped_notifications key left⟩
      · simp [Inbound.lane,Subscription.strand,Subscription.key,items]
      · simp [receive,taken,Received.map]
    · refine .inr ⟨?_,?_⟩
      · simp [Inbound.lane,Subscription.strand,Subscription.key,none]
      · simp only [Inbound.lane,Subscription.strand,Subscription.key,Fanout.isOver_map,receive,taken]
        split <;> rfl

/-- To unsubscribe a name is to lose its queue. -/
theorem unsubscribe_eq (d : Desk) (name : String) :
    ∃ i, d.unsubscribe name =
        { d.setInbound i with subscriptions := d.subscriptions.filter (·.1 ≠ name) } ∧
      d.channel.inbound.Reshaped i fun other old =>
        if d.subscriptions.lookup name = some other then none else some old := by
  cases found : d.subscriptions.lookup name with
  | none =>
    refine ⟨d.channel.inbound,?_,by simpa using Inbound.Reshaped.of_lane rfl⟩
    rw [Lookup.filter_ne_of_lookup found]
    simp only [unsubscribe,found]
    rfl
  | some s =>
    have one (i : Inbound) (lanes : i.lane = Function.update d.channel.inbound.lane s.strand
        ((d.channel.inbound.lane s.strand).unsubscribe s.key)) :
        d.channel.inbound.Reshaped i fun other old =>
          if some s = some other then none else some old := by
      simpa [eq_comm] using Inbound.Reshaped.of_unsubscribe lanes
    cases s with
    | requests key =>
      refine ⟨{ d.channel.inbound with requests := d.channel.inbound.requests.unsubscribe key },
        by simp only [unsubscribe,found],one _ ?_⟩
      rw [Inbound.lane_setRequests,Fanout.map_unsubscribe]
      rfl
    | notifications key =>
      refine ⟨{ d.channel.inbound with
        notifications := d.channel.inbound.notifications.unsubscribe key },
        by simp only [unsubscribe,found],one _ ?_⟩
      rw [Inbound.lane_setNotifications,Fanout.map_unsubscribe]
      rfl

/-- A new subscription takes its name from an older one, whose queue is lost. -/
theorem step_subscribe (d : Desk) (strand : Strand) (name : String) :
    ∃ i, d.step (strand.subscribe name) =
        ({ d.setInbound i with
            subscriptions := (name,strand.subscription (d.channel.inbound.next strand)) ::
              d.subscriptions.filter (·.1 ≠ name) },.done) ∧
      (d.channel.inbound.subscribed strand).Reshaped i fun other old =>
        if d.subscriptions.lookup name = some other then none else some old := by
  obtain ⟨i,left,queues⟩ :=
    (d.setInbound (d.channel.inbound.subscribed strand)).unsubscribe_eq name
  refine ⟨i,?_,queues⟩
  have opened : d.step (strand.subscribe name) =
      ({ (d.setInbound (d.channel.inbound.subscribed strand)).unsubscribe name with
          subscriptions := (name,strand.subscription (d.channel.inbound.next strand)) ::
            ((d.setInbound (d.channel.inbound.subscribed strand)).unsubscribe name).subscriptions },
        .done) := by
    cases strand <;> rfl
  rw [opened,left]
  rfl

theorem move_subscribe (d : Desk) (strand : Strand) (name : String) :
    d.Move (strand.subscribe name) (d.step (strand.subscribe name)).2
      (d.step (strand.subscribe name)).1 := by
  obtain ⟨i,opened,queues⟩ := d.step_subscribe strand name
  rw [opened]
  exact .subscribed rfl rfl queues

theorem step_move (d : Desk) (c : DeskCommand) : d.Move c (d.step c).2 (d.step c).1 := by
  have quiet {c : DeskCommand} {reply : DeskReply} {e : Desk} (silent : reply.messages = [])
      (undue : ∀ strand, c.due strand = []) (goesOn : c.isClose = false)
      (keeps : ∀ name, c.keeps name = true) (subscriptions : e.subscriptions = d.subscriptions)
      (lanes : e.channel.inbound.lane = d.channel.inbound.lane) : d.Move c reply e :=
    .aside silent undue goesOn keeps subscriptions (.of_lane lanes)
  cases c with
  | requests name => exact d.move_subscribe .requests name
  | notifications name => exact d.move_subscribe .notifications name
  | drain name =>
    simp only [step]
    split
    next => exact quiet rfl (fun _ => rfl) rfl (fun _ => rfl) rfl rfl
    next s found =>
      obtain ⟨i,drained,queues⟩ := d.drain_eq s
      rw [drained]
      exact .taken rfl found (by simp [DeskReply.messages]) rfl queues
  | receive name =>
    simp only [step]
    split
    next => exact quiet rfl (fun _ => rfl) rfl (fun _ => rfl) rfl rfl
    next s found =>
      obtain ⟨i,m,left,items,received,queues⟩ | ⟨none,received⟩ := d.receive_eq s
      · rw [received]
        exact .taken rfl found items rfl queues
      · rw [received]
        refine quiet ?_ (fun _ => rfl) rfl (fun _ => rfl) rfl rfl
        split <;> rfl
  | unsubscribe name =>
    obtain ⟨i,left,queues⟩ := d.unsubscribe_eq name
    simp only [step,left]
    exact .released rfl rfl queues
  | register name id =>
    simp only [step]
    split
    · exact quiet rfl (fun _ => rfl) rfl (fun _ => rfl) rfl rfl
    · simp only [drop]
      split <;> exact quiet rfl (fun _ => rfl) rfl (fun _ => rfl) rfl rfl
  | poll name =>
    simp only [step]
    split
    · exact quiet rfl (fun _ => rfl) rfl (fun _ => rfl) rfl rfl
    · simp only [poll]
      split <;> exact quiet rfl (fun _ => rfl) rfl (fun _ => rfl) rfl rfl
  | drop name =>
    simp only [step,drop]
    split <;> exact quiet rfl (fun _ => rfl) rfl (fun _ => rfl) rfl rfl
  | resolve r => exact quiet rfl (fun _ => rfl) rfl (fun _ => rfl) rfl rfl
  | deliver m => exact .published rfl rfl (d.channel.inbound.reshaped_deliver m)
  | close =>
    refine .closed rfl rfl ?_ ?_ ?_
    · rintro (_ | _) <;> rfl
    · rintro (_ | _) <;> rfl
    · rintro (_ | _) <;> rfl
  | closePending => exact quiet rfl (fun _ => rfl) rfl (fun _ => rfl) rfl rfl
  | enqueue text =>
    simp only [step]
    split <;> exact quiet rfl (fun _ => rfl) rfl (fun _ => rfl) rfl rfl
  | take =>
    simp only [step]
    split
    · exact quiet rfl (fun _ => rfl) rfl (fun _ => rfl) rfl rfl
    · refine quiet ?_ (fun _ => rfl) rfl (fun _ => rfl) rfl rfl
      split <;> rfl
  | abandon => exact quiet rfl (fun _ => rfl) rfl (fun _ => rfl) rfl rfl

def holding (d : Desk) : Holding := ⟨d.channel.pending,d.handles.map Prod.snd⟩

def acts (d : Desk) : DeskCommand → List Holding.Act
  | .register name id =>
    .register id :: match d.channel.pending.register id with
      | .ok _ => ((d.handles.lookup name).map .drop).toList
      | .error _ => []
  | .poll name => ((d.handles.lookup name).map .look).toList
  | .drop name => ((d.handles.lookup name).map .drop).toList
  | .resolve r => [.resolve r]
  | .deliver (.response r) => [.resolve r]
  | .close => [.close]
  | .closePending => [.close]
  | _ => []

structure Sound (d : Desk) : Prop where
  feed : d.channel.inbound.Attached d.subscriptions
  holding : d.holding.Sound
  names : (d.handles.map Prod.fst).Nodup

theorem empty_sound : empty.Sound :=
  ⟨Inbound.attached_empty,Holding.start_sound,List.nodup_nil⟩

theorem attached_move {d e : Desk} {c : DeskCommand} {reply : DeskReply}
    (attached : d.channel.inbound.Attached d.subscriptions) (move : d.Move c reply e) :
    e.channel.inbound.Attached e.subscriptions := by
  cases move with
  | aside _ _ _ _ subscriptions queues =>
    rw [subscriptions]
    exact attached.reshape queues (List.Sublist.refl _) (by simp)
  | taken _ _ _ subscriptions queues =>
    rw [subscriptions]
    exact attached.reshape queues (List.Sublist.refl _) (by simp)
  | released _ subscriptions queues =>
    rw [subscriptions]
    refine attached.reshape queues List.filter_sublist ?_
    intro p stays old
    simp [attached.lookup_ne stays]
  | @subscribed _ _ strand name _ subscriptions queues =>
    rw [subscriptions]
    refine (attached.subscribe strand name).reshape queues (List.Sublist.refl _) ?_
    intro p member old
    simp [attached.lookup_ne_subscribed member]
  | published _ subscriptions queues =>
    rw [subscriptions]
    exact attached.reshape queues (List.Sublist.refl _) (by simp)
  | closed _ subscriptions ended next queues =>
    rw [subscriptions]
    refine ⟨attached.names,attached.distinct,?_,?_,?_⟩
    · intro p member
      rw [next]
      exact attached.issued p member
    · intro s found
      rw [next]
      exact attached.queued s (queues s ▸ found)
    · intro p _ isOpen
      exact absurd (ended p.2.strand) (by simp [isOpen])

/-- Subscribers have no part in the handles. -/
theorem holding_unsubscribe (d : Desk) (name : String) : (d.unsubscribe name).holding = d.holding := by
  unfold unsubscribe
  split <;> rfl

theorem handles_unsubscribe (d : Desk) (name : String) : (d.unsubscribe name).handles = d.handles := by
  unfold unsubscribe
  split <;> rfl

theorem holding_drop {d : Desk} (names : (d.handles.map Prod.fst).Nodup) (once : d.holding.held.Nodup)
    {name : String} {h : Handle} (found : d.handles.lookup name = some h) :
    (d.drop name).holding = d.holding.act (.drop h) := by
  have held : h ∈ d.holding.held := List.mem_map.mpr ⟨_,Lookup.mem_of_lookup found,rfl⟩
  have left := Lookup.values_filter_ne names once found
  have acted : d.holding.act (.drop h) = ⟨d.holding.table.drop h,d.holding.held.erase h⟩ :=
    if_pos held
  rw [acted]
  simp only [drop,found,holding,left]
  rfl

theorem holding_poll {d : Desk} (names : (d.handles.map Prod.fst).Nodup) (once : d.holding.held.Nodup)
    {name : String} {h : Handle} (found : d.handles.lookup name = some h) :
    (d.poll name h).1.holding = d.holding.act (.look h) := by
  have held : h ∈ d.holding.held := List.mem_map.mpr ⟨_,Lookup.mem_of_lookup found,rfl⟩
  have left := Lookup.values_filter_ne names once found
  have used (settled : d.channel.pending.poll h ≠ .waiting) :
      d.holding.act (.look h) = ⟨d.holding.table.collect h,d.holding.held.erase h⟩ :=
    if_pos ⟨held,settled⟩
  cases seen : d.channel.pending.poll h with
  | waiting => simp [poll,seen,holding,Holding.act]
  | ready r =>
    rw [used (by simp [seen])]
    simp only [poll,seen,holding,left]
    rfl
  | closed =>
    rw [used (by simp [seen])]
    simp only [poll,seen,holding,left]
    rfl

/-- The new handle is there before the one whose name it takes is dropped. -/
theorem holding_register {d : Desk} (sound : d.holding.Sound) (names : (d.handles.map Prod.fst).Nodup)
    (name : String) (id : RequestId) :
    (d.step (.register name id)).1.holding =
      (d.acts (.register name id)).foldl Holding.act d.holding := by
  cases registered : d.channel.pending.register id with
  | error e => simp [step,acts,registered,holding,Holding.act]
  | ok result =>
    obtain ⟨h,p⟩ := result
    have fresh : h ∉ d.handles.map Prod.snd := sound.table.register_fresh registered
    have entered : d.holding.act (.register id) = ⟨p,h :: d.holding.held⟩ := by
      simp only [Holding.act,holding,registered]
    simp only [step,acts,registered,List.foldl_cons,entered]
    cases found : d.handles.lookup name with
    | none =>
      simp only [drop,found]
      rfl
    | some g =>
      have held : g ∈ d.handles.map Prod.snd :=
        List.mem_map.mpr ⟨_,Lookup.mem_of_lookup found,rfl⟩
      have other : h ≠ g := fun same => fresh (same ▸ held)
      have left := Lookup.values_filter_ne names sound.once found
      have erased : (h :: d.holding.held).erase g = h :: d.holding.held.erase g :=
        List.erase_cons_tail (by simpa using other)
      simp only [drop,found,holding,List.map_cons,left,Option.map_some,Option.toList_some,
        List.foldl_cons,List.foldl_nil,Holding.act]
      rw [if_pos (List.mem_cons_of_mem _ held)]
      exact congrArg _ erased.symm

theorem step_holding {d : Desk} (sound : d.holding.Sound) (names : (d.handles.map Prod.fst).Nodup)
    (c : DeskCommand) : (d.step c).1.holding = (d.acts c).foldl Holding.act d.holding := by
  cases c with
  | requests name => exact holding_unsubscribe _ name
  | notifications name => exact holding_unsubscribe _ name
  | drain name =>
    simp only [step,acts]
    split
    next => rfl
    next s _ => cases s <;> rfl
  | receive name =>
    simp only [step,acts]
    split
    next => rfl
    next s _ => cases s <;> rfl
  | unsubscribe name => exact holding_unsubscribe _ name
  | register name id => exact holding_register sound names name id
  | poll name =>
    cases found : d.handles.lookup name with
    | none => simp [step,acts,found]
    | some h => simpa [step,acts,found] using holding_poll names sound.once found
  | drop name =>
    cases found : d.handles.lookup name with
    | none => simp [step,acts,found,drop]
    | some h => simpa [step,acts,found] using holding_drop names sound.once found
  | resolve r => rfl
  | deliver m => cases m <;> rfl
  | close => rfl
  | closePending => rfl
  | enqueue text =>
    simp only [step,acts]
    split <;> rfl
  | take =>
    simp only [step,acts]
    split <;> rfl
  | abandon => rfl

/-- Everything that a command can do to the names of the handles. -/
theorem step_handles (d : Desk) (c : DeskCommand) :
    (d.step c).1.handles = d.handles ∨
    (∃ name, c.spender? = some name ∧ (d.step c).1.handles = d.handles.filter (·.1 ≠ name)) ∨
    ∃ name id h p, c = .register name id ∧ d.channel.pending.register id = .ok (h,p) ∧
      (d.step c).1.handles = (name,h) :: d.handles.filter (·.1 ≠ name) := by
  cases c with
  | requests name => exact .inl (handles_unsubscribe _ name)
  | notifications name => exact .inl (handles_unsubscribe _ name)
  | drain name =>
    left
    simp only [step]
    split
    next => rfl
    next s _ => cases s <;> rfl
  | receive name =>
    left
    simp only [step]
    split
    next => rfl
    next s _ => cases s <;> rfl
  | unsubscribe name => exact .inl (handles_unsubscribe _ name)
  | register name id =>
    cases registered : d.channel.pending.register id with
    | error e => exact .inl (by simp [step,registered])
    | ok result =>
      obtain ⟨h,p⟩ := result
      refine .inr (.inr ⟨name,id,h,p,rfl,registered,?_⟩)
      cases found : d.handles.lookup name with
      | none => simp only [step,registered,drop,found,Lookup.filter_ne_of_lookup found]
      | some g => simp only [step,registered,drop,found]
  | poll name =>
    cases found : d.handles.lookup name with
    | none => exact .inl (by simp [step,found])
    | some h =>
      cases seen : d.channel.pending.poll h with
      | waiting => exact .inl (by simp [step,found,poll,seen])
      | ready r => exact .inr (.inl ⟨name,rfl,by simp only [step,found,poll,seen]⟩)
      | closed => exact .inr (.inl ⟨name,rfl,by simp only [step,found,poll,seen]⟩)
  | drop name =>
    cases found : d.handles.lookup name with
    | none => exact .inl (by simp [step,drop,found])
    | some h => exact .inr (.inl ⟨name,rfl,by simp only [step,drop,found]⟩)
  | resolve r => exact .inl rfl
  | deliver m => exact .inl rfl
  | close => exact .inl rfl
  | closePending => exact .inl rfl
  | enqueue text =>
    left
    simp only [step]
    split <;> rfl
  | take =>
    left
    simp only [step]
    split <;> rfl
  | abandon => exact .inl rfl

theorem step_sound {d : Desk} (sound : d.Sound) (c : DeskCommand) : (d.step c).1.Sound := by
  refine ⟨attached_move sound.feed (d.step_move c),?_,?_⟩
  · rw [step_holding sound.holding sound.names c]
    exact Holding.acts_sound sound.holding (d.acts c)
  · have fewer (name : String) : ((d.handles.filter (·.1 ≠ name)).map Prod.fst).Nodup :=
      sound.names.sublist (List.filter_sublist.map _)
    rcases d.step_handles c with same | ⟨name,_,left⟩ | ⟨name,_,h,_,_,_,more⟩
    · rw [same]
      exact sound.names
    · rw [left]
      exact fewer name
    · rw [more]
      refine List.nodup_cons.mpr ⟨?_,fewer name⟩
      simp

/-- Whatever commands come, subscriptions and handles stay in order. -/
theorem run_sound {d : Desk} (sound : d.Sound) (commands : List DeskCommand) :
    (d.run commands).Sound := by
  induction commands generalizing d with
  | nil => exact sound
  | cons c rest ih => exact ih (step_sound sound c)

end Desk

end LanguageBridge
