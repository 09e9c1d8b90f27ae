import LanguageBridge.Channel.Basic
import LanguageBridge.Proofs.Lookup

/-! What deliveries and the close do to an inbound side, seen by one subscriber. -/
namespace LanguageBridge

namespace Message

def request? : Message → Option Request
  | .request r => some r
  | _ => none

def notification? : Message → Option Notification
  | .notification n => some n
  | _ => none

def response? : Message → Option Response
  | .response r => some r
  | _ => none

end Message

namespace Fanout

variable {α : Type}

/-- What a subscriber has not received yet, or nothing if there is no such subscriber. -/
def queue? (f : Fanout α) (key : Nat) : Option (List α) := f.inboxes.lookup key

theorem buffered_eq (f : Fanout α) (key : Nat) : f.buffered key = (f.queue? key).getD [] := rfl

theorem isOver_eq (f : Fanout α) (key : Nat) : f.isOver key = (f.closed || (f.queue? key).isNone) :=
  rfl

/-- A subscriber finds the end only once the sequence is closed. -/
theorem closed_of_isOver {f : Fanout α} {key : Nat} (subscribed : (f.queue? key).isSome)
    (ended : f.isOver key = true) : f.closed = true := by
  obtain ⟨items,found⟩ := Option.isSome_iff_exists.mp subscribed
  simpa [isOver_eq,found] using ended

@[simp] theorem closed_publish (f : Fanout α) (a : α) : (f.publish a).closed = f.closed := by
  unfold publish
  split <;> rfl

@[simp] theorem next_publish (f : Fanout α) (a : α) : (f.publish a).next = f.next := by
  unfold publish
  split <;> rfl

/-- Whichever senders are dropped, every subscriber that is left gets the item. -/
theorem inboxes_publish {f : Fanout α} (unshut : f.closed = false) (a : α) :
    (f.publish a).inboxes = f.inboxes.map fun q => (q.1,q.2 ++ [a]) := by
  simp only [inboxes,publish,unshut,Bool.false_eq_true,if_false,List.filterMap_filterMap,
    List.map_filterMap]
  apply List.filterMap_congr
  rintro ⟨key,_ | items⟩ _ <;> rfl

theorem queue?_publish (f : Fanout α) (a : α) (key : Nat) :
    (f.publish a).queue? key = (f.queue? key).map (· ++ if f.closed then [] else [a]) := by
  cases unshut : f.closed with
  | true => simp [publish,unshut]
  | false =>
    rw [queue?,inboxes_publish unshut]
    exact Lookup.lookup_map (· ++ [a]) f.inboxes key

theorem inboxes_setBuffered (f : Fanout α) (key : Nat) (items : List α) :
    (f.setBuffered key items).inboxes = f.inboxes.map fun q => (q.1,if q.1 = key then items else q.2) := by
  simp only [inboxes,setBuffered,List.filterMap_map,List.map_filterMap]
  apply List.filterMap_congr
  rintro ⟨own,_ | old⟩ _ <;> by_cases same : own = key <;> simp [Sender.inbox?,same]

theorem queue?_setBuffered (f : Fanout α) (key : Nat) (items : List α) (other : Nat) :
    (f.setBuffered key items).queue? other =
      (f.queue? other).map fun old => if other = key then items else old := by
  rw [queue?,inboxes_setBuffered,queue?]
  induction f.inboxes with
  | nil => rfl
  | cons q inboxes ih =>
    by_cases same : other = q.1
    · obtain ⟨k,old⟩ := q
      obtain rfl : other = k := same
      simp
    · rw [List.map_cons,Lookup.lookup_cons_ne same,ih,Lookup.lookup_cons_ne same]

@[simp] theorem buffered_emptied (f : Fanout α) (key : Nat) :
    (f.setBuffered key []).buffered key = [] := by
  rw [buffered_eq,queue?_setBuffered]
  cases f.queue? key <;> simp

/-- A new subscriber has an empty queue unless the sequence is closed; the others keep theirs. -/
theorem queue?_subscribe (f : Fanout α) (key : Nat) :
    f.subscribe.2.queue? key =
      if f.closed then f.queue? key
      else (f.queue? key).or (if key = f.next then some [] else none) := by
  by_cases shut : f.closed = true
  · simp [queue?,inboxes,subscribe,shut]
  · simp only [queue?,inboxes,subscribe,shut,Bool.false_eq_true,if_false,List.filterMap_append,
      List.lookup_append]
    congr 1
    exact Lookup.lookup_cons_eq_ite [] key f.next []

theorem subscribed (f : Fanout α) : (f.subscribe.2.queue? f.next).isSome ∨ f.closed = true := by
  cases shut : f.closed with
  | true => exact .inr rfl
  | false =>
    left
    rw [queue?_subscribe,shut]
    cases f.queue? f.next <;> simp

theorem buffered_subscribe {f : Fanout α} (fresh : f.queue? f.next = none) :
    f.subscribe.2.buffered f.next = [] := by
  rw [buffered_eq,queue?_subscribe,fresh]
  cases f.closed <;> simp

theorem queue?_close (f : Fanout α) (key : Nat) : f.close.queue? key = f.queue? key := rfl

section PublishAll

variable (items : List α) (f : Fanout α)

@[simp] theorem closed_publishAll : (items.foldl publish f).closed = f.closed := by
  induction items generalizing f with
  | nil => rfl
  | cons a items ih => rw [List.foldl_cons,ih,closed_publish]

@[simp] theorem next_publishAll : (items.foldl publish f).next = f.next := by
  induction items generalizing f with
  | nil => rfl
  | cons a items ih => rw [List.foldl_cons,ih,next_publish]

/-- Every subscriber gets every item in order, unless the sequence is closed. -/
theorem queue?_publishAll (key : Nat) :
    (items.foldl publish f).queue? key =
      (f.queue? key).map (· ++ if f.closed then [] else items) := by
  induction items generalizing f with
  | nil => simp
  | cons a items ih =>
    rw [List.foldl_cons,ih,queue?_publish,Option.map_map,closed_publish]
    congr 1
    funext old
    by_cases shut : f.closed = true <;> simp [shut]

end PublishAll

end Fanout

namespace Pending

def resolveAll (p : Pending) (rs : List Response) : Pending :=
  rs.foldl (fun p r => (p.resolve r).2) p

theorem closed_resolve (p : Pending) (r : Response) : (p.resolve r).2.closed = p.closed := by
  unfold resolve
  split
  · rfl
  · split <;> rfl

@[simp] theorem closed_resolveAll (p : Pending) (rs : List Response) :
    (p.resolveAll rs).closed = p.closed := by
  induction rs generalizing p with
  | nil => rfl
  | cons r rs ih => exact (ih _).trans (p.closed_resolve r)

end Pending

namespace Inbound

variable (ms : List Message) (i : Inbound)

/-- Messages of one kind make no difference to the sequences of the others. -/
theorem requests_deliverAll :
    (ms.foldl deliver i).requests =
      (ms.filterMap Message.request?).foldl Fanout.publish i.requests := by
  induction ms generalizing i with
  | nil => rfl
  | cons m ms ih => cases m <;> simp [ih,deliver,List.filterMap_cons,Message.request?]

theorem notifications_deliverAll :
    (ms.foldl deliver i).notifications =
      (ms.filterMap Message.notification?).foldl Fanout.publish i.notifications := by
  induction ms generalizing i with
  | nil => rfl
  | cons m ms ih => cases m <;> simp [ih,deliver,List.filterMap_cons,Message.notification?]

theorem pending_deliverAll :
    (ms.foldl deliver i).pending = i.pending.resolveAll (ms.filterMap Message.response?) := by
  induction ms generalizing i with
  | nil => rfl
  | cons m ms ih =>
    cases m <;> simp [ih,deliver,List.filterMap_cons,Message.response?,Pending.resolveAll]

end Inbound

end LanguageBridge
