import LanguageBridge.Channel.Command
import LanguageBridge.Proofs.Inbound

/-! The two sequences of an inbound side as lanes of messages. A subscription is seen through its queue,
whichever lane it belongs to: deliveries lengthen queues, a receiver empties its own, and a new
subscription starts with an empty one. -/
namespace LanguageBridge

inductive Strand where
  | requests
  | notifications
  deriving DecidableEq

namespace Strand

def admits : Strand → Message → Bool
  | .requests, .request _ => true
  | .notifications, .notification _ => true
  | _, _ => false

def subscribe : Strand → String → DeskCommand
  | .requests, name => .requests name
  | .notifications, name => .notifications name

def subscription : Strand → Nat → Subscription
  | .requests, key => .requests key
  | .notifications, key => .notifications key

end Strand

namespace Subscription

def strand : Subscription → Strand
  | .requests _ => .requests
  | .notifications _ => .notifications

def key : Subscription → Nat
  | .requests key => key
  | .notifications key => key

theorem eq_iff {s t : Subscription} : s = t ↔ s.strand = t.strand ∧ s.key = t.key := by
  cases s <;> cases t <;> simp [strand,key]

end Subscription

@[simp] theorem Strand.strand_subscription (s : Strand) (key : Nat) :
    (s.subscription key).strand = s := by
  cases s <;> rfl

@[simp] theorem Strand.key_subscription (s : Strand) (key : Nat) :
    (s.subscription key).key = key := by
  cases s <;> rfl

namespace Fanout

variable {α β : Type}

theorem inboxes_unsubscribe (f : Fanout α) (key : Nat) :
    (f.unsubscribe key).inboxes = f.inboxes.filter (·.1 ≠ key) := by
  simp only [inboxes,unsubscribe,List.filterMap_map,List.filter_filterMap]
  apply List.filterMap_congr
  rintro ⟨own,_ | items⟩ _ <;> by_cases same : own = key <;> simp [Sender.inbox?,Option.filter,same]

theorem queue?_unsubscribe (f : Fanout α) (key other : Nat) :
    (f.unsubscribe key).queue? other = if other = key then none else f.queue? other := by
  rw [queue?,inboxes_unsubscribe]
  exact Lookup.lookup_filter_ne f.inboxes key other

def map (g : α → β) (f : Fanout α) : Fanout β :=
  ⟨f.closed,f.next,f.senders.map fun s => ⟨s.key,s.buffer.map (List.map g)⟩⟩

variable (g : α → β) (f : Fanout α)

theorem inboxes_map : (f.map g).inboxes = f.inboxes.map fun q => (q.1,q.2.map g) := by
  simp only [inboxes,map,List.filterMap_map,List.map_filterMap]
  apply List.filterMap_congr
  rintro ⟨key,_ | items⟩ _ <;> rfl

theorem queue?_map (key : Nat) : (f.map g).queue? key = (f.queue? key).map (·.map g) := by
  rw [queue?,inboxes_map]
  exact Lookup.lookup_map (List.map g) f.inboxes key

@[simp] theorem buffered_map (key : Nat) : (f.map g).buffered key = (f.buffered key).map g := by
  rw [buffered_eq,queue?_map,buffered_eq]
  cases f.queue? key <;> rfl

@[simp] theorem isOver_map (key : Nat) : (f.map g).isOver key = f.isOver key := by
  rw [isOver_eq,queue?_map,isOver_eq,Option.isNone_map]
  rfl

theorem map_setBuffered (key : Nat) (items : List α) :
    (f.setBuffered key items).map g = (f.map g).setBuffered key (items.map g) := by
  simp only [map,setBuffered,List.map_map,Fanout.mk.injEq,true_and]
  refine List.map_congr_left fun s _ => ?_
  by_cases same : s.key = key <;> simp [same,Function.comp_def]

theorem map_unsubscribe (key : Nat) : (f.unsubscribe key).map g = (f.map g).unsubscribe key := by
  simp only [map,unsubscribe,List.map_map,Fanout.mk.injEq,true_and]
  refine List.map_congr_left fun s _ => ?_
  by_cases same : s.key = key <;> simp [same]

theorem map_publish (a : α) : (f.publish a).map g = (f.map g).publish (g a) := by
  by_cases shut : f.closed = true
  · simp [map,publish,shut]
  · simp only [map,publish,shut,Bool.false_eq_true,if_false,List.map_filterMap,List.filterMap_map,
      Fanout.mk.injEq,true_and]
    apply List.filterMap_congr
    rintro ⟨key,_ | items⟩ _ <;> simp [Sender.send]

/-- A receive takes the oldest item that is buffered, if there is one. -/
theorem receive_eq (key : Nat) :
    (∃ a rest, f.buffered key = a :: rest ∧ f.receive key = (.item a,f.setBuffered key rest)) ∨
    f.buffered key = [] ∧ f.receive key = (if f.isOver key then .ended else .nothing,f) := by
  unfold receive
  cases found : f.buffered key with
  | nil => exact .inr ⟨rfl,rfl⟩
  | cons a rest => exact .inl ⟨a,rest,rfl,rfl⟩

theorem map_subscribe : f.subscribe.2.map g = (f.map g).subscribe.2 := by
  by_cases shut : f.closed = true <;> simp [map,subscribe,shut]

end Fanout

namespace Inbound

def lane (i : Inbound) : Strand → Fanout Message
  | .requests => i.requests.map .request
  | .notifications => i.notifications.map .notification

def queue? (i : Inbound) (s : Subscription) : Option (List Message) := (i.lane s.strand).queue? s.key

def ended (i : Inbound) (strand : Strand) : Bool := (i.lane strand).closed

def next (i : Inbound) (strand : Strand) : Nat := (i.lane strand).next

theorem lane_setRequests (i : Inbound) (f : Fanout Request) :
    ({ i with requests := f } : Inbound).lane = Function.update i.lane .requests (f.map .request) := by
  funext strand
  cases strand <;> rfl

theorem lane_setNotifications (i : Inbound) (f : Fanout Notification) :
    ({ i with notifications := f } : Inbound).lane =
      Function.update i.lane .notifications (f.map .notification) := by
  funext strand
  cases strand <;> rfl

/-- `j` is `i` with other things in its queues. Queues may go but none is new. -/
structure Reshaped (i j : Inbound) (change : Subscription → List Message → Option (List Message)) :
    Prop where
  ended : ∀ strand, j.ended strand = i.ended strand
  next : ∀ strand, j.next strand = i.next strand
  queue? : ∀ s, j.queue? s = (i.queue? s).bind (change s)

namespace Reshaped

variable {i j : Inbound}

theorem of_lane (same : j.lane = i.lane) : i.Reshaped j fun _ old => some old := by
  refine ⟨?_,?_,?_⟩ <;> simp [Inbound.ended,Inbound.next,Inbound.queue?,same]

/-- Only the queue of one subscription is replaced. -/
theorem of_setBuffered {s : Subscription} {items : List Message} (lanes : j.lane =
      Function.update i.lane s.strand ((i.lane s.strand).setBuffered s.key items)) :
    i.Reshaped j fun other old => some (if other = s then items else old) := by
  refine ⟨fun strand => ?_,fun strand => ?_,fun other => ?_⟩
  · by_cases same : strand = s.strand <;>
      simp [Inbound.ended,lanes,same,Fanout.setBuffered]
  · by_cases same : strand = s.strand <;>
      simp [Inbound.next,lanes,same,Fanout.setBuffered]
  · simp only [Inbound.queue?,lanes,Subscription.eq_iff]
    by_cases same : other.strand = s.strand
    · rw [same,Function.update_self,Fanout.queue?_setBuffered,Option.map_eq_bind]
      simp only [true_and]
      rfl
    · simp [same]

/-- Only the queue of one subscription goes. -/
theorem of_unsubscribe {s : Subscription} (lanes : j.lane =
      Function.update i.lane s.strand ((i.lane s.strand).unsubscribe s.key)) :
    i.Reshaped j fun other old => if other = s then none else some old := by
  refine ⟨fun strand => ?_,fun strand => ?_,fun other => ?_⟩
  · by_cases same : strand = s.strand <;>
      simp [Inbound.ended,lanes,same,Fanout.unsubscribe]
  · by_cases same : strand = s.strand <;>
      simp [Inbound.next,lanes,same,Fanout.unsubscribe]
  · simp only [Inbound.queue?,lanes,Subscription.eq_iff]
    by_cases same : other.strand = s.strand
    · by_cases own : other.key = s.key <;> simp [same,own,Fanout.queue?_unsubscribe]
    · simp [same]

end Reshaped

theorem reshaped_requests (i : Inbound) (key : Nat) (items : List Request) :
    i.Reshaped { i with requests := i.requests.setBuffered key items } fun other old =>
      some (if other = .requests key then items.map .request else old) := by
  apply Reshaped.of_setBuffered
  rw [lane_setRequests,Fanout.map_setBuffered]
  rfl

theorem reshaped_notifications (i : Inbound) (key : Nat) (items : List Notification) :
    i.Reshaped { i with notifications := i.notifications.setBuffered key items } fun other old =>
      some (if other = .notifications key then items.map .notification else old) := by
  apply Reshaped.of_setBuffered
  rw [lane_setNotifications,Fanout.map_setBuffered]
  rfl

theorem lane_deliver (i : Inbound) (m : Message) (strand : Strand) :
    (i.deliver m).lane strand =
      if strand.admits m then (i.lane strand).publish m else i.lane strand := by
  cases m <;> cases strand <;> simp [deliver,lane,Strand.admits,Fanout.map_publish]

/-- A message goes to the end of every queue of its sequence, as long as that is open. -/
theorem reshaped_deliver (i : Inbound) (m : Message) :
    i.Reshaped (i.deliver m) fun s old =>
      some (old ++ if i.ended s.strand then [] else if s.strand.admits m then [m] else []) := by
  refine ⟨fun strand => ?_,fun strand => ?_,fun s => ?_⟩
  · by_cases own : strand.admits m <;> simp [ended,lane_deliver,own]
  · by_cases own : strand.admits m <;> simp [next,lane_deliver,own]
  · by_cases own : s.strand.admits m
    · rw [queue?,lane_deliver,if_pos own,Fanout.queue?_publish,Option.map_eq_bind,if_pos own]
      rfl
    · simp [queue?,lane_deliver,own]

def subscribed (i : Inbound) : Strand → Inbound
  | .requests => { i with requests := i.requests.subscribe.2 }
  | .notifications => { i with notifications := i.notifications.subscribe.2 }

theorem lane_subscribed (i : Inbound) (strand : Strand) :
    (i.subscribed strand).lane = Function.update i.lane strand (i.lane strand).subscribe.2 := by
  cases strand
  · rw [subscribed,lane_setRequests,Fanout.map_subscribe]
    rfl
  · rw [subscribed,lane_setNotifications,Fanout.map_subscribe]
    rfl

theorem ended_subscribed (i : Inbound) (strand other : Strand) :
    (i.subscribed strand).ended other = i.ended other := by
  by_cases same : other = strand <;>
    simp [ended,lane_subscribed,same,Fanout.subscribe]

theorem next_subscribed (i : Inbound) (strand other : Strand) :
    (i.subscribed strand).next other = i.next other + if other = strand then 1 else 0 := by
  by_cases same : other = strand <;>
    simp [next,lane_subscribed,same,Fanout.subscribe]

theorem queue?_subscribed (i : Inbound) (strand : Strand) (s : Subscription) :
    (i.subscribed strand).queue? s =
      if i.ended strand = false ∧ s = strand.subscription (i.next strand) then
        (i.queue? s).or (some [])
      else i.queue? s := by
  simp only [queue?,lane_subscribed,Subscription.eq_iff,Strand.strand_subscription,
    Strand.key_subscription,ended,next]
  by_cases same : s.strand = strand
  · rw [same,Function.update_self,Fanout.queue?_subscribe]
    cases (i.lane strand).closed <;> by_cases new : s.key = (i.lane strand).next <;> simp [new]
  · simp [same]

def buffered (i : Inbound) (s : Subscription) : List Message := (i.queue? s).getD []

/-- Names and subscriptions are told apart, no queue has a key that is still to be given out, and as long
as its sequence is open every subscription has a queue. -/
structure Attached (i : Inbound) (held : List (String × Subscription)) : Prop where
  names : (held.map Prod.fst).Nodup
  distinct : (held.map Prod.snd).Nodup
  issued : ∀ p ∈ held, p.2.key < i.next p.2.strand
  queued : ∀ s, (i.queue? s).isSome → s.key < i.next s.strand
  served : ∀ p ∈ held, i.ended p.2.strand = false → (i.queue? p.2).isSome

variable {i j : Inbound} {held rest : List (String × Subscription)}

theorem attached_empty : Attached empty [] := by
  refine ⟨List.nodup_nil,List.nodup_nil,by simp,?_,by simp⟩
  rintro (_ | _) found <;> cases found

theorem Attached.reshape {change : Subscription → List Message → Option (List Message)}
    (attached : i.Attached held) (reshaped : i.Reshaped j change) (fewer : rest.Sublist held)
    (keeps : ∀ p ∈ rest, ∀ old, (change p.2 old).isSome) : j.Attached rest := by
  refine ⟨attached.names.sublist (fewer.map _),attached.distinct.sublist (fewer.map _),?_,?_,?_⟩
  · intro p member
    rw [reshaped.next]
    exact attached.issued p (fewer.subset member)
  · intro s found
    rw [reshaped.next]
    apply attached.queued
    rw [reshaped.queue?] at found
    cases old : i.queue? s with
    | none => simp [old] at found
    | some items => rfl
  · intro p member isOpen
    rw [reshaped.ended] at isOpen
    obtain ⟨items,found⟩ :=
      Option.isSome_iff_exists.mp (attached.served p (fewer.subset member) isOpen)
    rw [reshaped.queue?,found]
    exact keeps p member items

/-- One subscription goes by one name. -/
theorem Attached.name_inj (attached : i.Attached held) {a b : String} {s : Subscription}
    (first : (a,s) ∈ held) (second : (b,s) ∈ held) : a = b :=
  congrArg Prod.fst (List.inj_on_of_nodup_map attached.distinct first second rfl)

/-- What goes by another name is no loss when a name is given up. -/
theorem Attached.lookup_ne (attached : i.Attached held) {name : String} {p : String × Subscription}
    (stays : p ∈ held.filter (·.1 ≠ name)) : held.lookup name ≠ some p.2 := by
  intro found
  obtain ⟨member,other⟩ := List.mem_filter.mp stays
  have same := attached.name_inj member (Lookup.mem_of_lookup found)
  simp [same] at other

/-- A subscription still to come has no name. -/
theorem Attached.fresh (attached : i.Attached held) (strand : Strand) :
    ∀ p ∈ held, p.2 ≠ strand.subscription (i.next strand) := by
  intro p member same
  have issued := attached.issued p member
  simp [same] at issued

theorem Attached.lookup_ne_subscribed (attached : i.Attached held) {strand : Strand} {name : String}
    {p : String × Subscription}
    (member : p ∈ (name,strand.subscription (i.next strand)) :: held.filter (·.1 ≠ name)) :
    held.lookup name ≠ some p.2 := by
  rcases List.mem_cons.mp member with rfl | stays
  · exact fun found => attached.fresh strand _ (Lookup.mem_of_lookup found) rfl
  · exact attached.lookup_ne stays

/-- A new subscription takes a name, perhaps from an older one. -/
theorem Attached.subscribe (attached : i.Attached held) (strand : Strand) (name : String) :
    (i.subscribed strand).Attached
      ((name,strand.subscription (i.next strand)) :: held.filter (·.1 ≠ name)) := by
  have fewer : (held.filter (·.1 ≠ name)).Sublist held := List.filter_sublist
  have later : ∀ s : Subscription, s.key < i.next s.strand →
      s.key < (i.subscribed strand).next s.strand := by
    intro s bound
    rw [next_subscribed]
    omega
  refine ⟨?_,?_,?_,?_,?_⟩
  · refine List.nodup_cons.mpr ⟨?_,attached.names.sublist (fewer.map _)⟩
    simp
  · refine List.nodup_cons.mpr ⟨fun member => ?_,attached.distinct.sublist (fewer.map _)⟩
    obtain ⟨p,stays,same⟩ := List.mem_map.mp member
    exact attached.fresh strand p (fewer.subset stays) same
  · intro p member
    rcases List.mem_cons.mp member with rfl | stays
    · simp [next_subscribed]
    · exact later p.2 (attached.issued p (fewer.subset stays))
  · intro s found
    rw [queue?_subscribed] at found
    split at found
    next new => simp [new.2,next_subscribed]
    next => exact later s (attached.queued s found)
  · intro p member isOpen
    rw [ended_subscribed] at isOpen
    rw [queue?_subscribed]
    rcases List.mem_cons.mp member with rfl | stays
    · rw [if_pos ⟨by simpa using isOpen,rfl⟩]
      simp
    · have served := attached.served p (fewer.subset stays) isOpen
      split
      next => simp
      next => exact served

end Inbound

end LanguageBridge
