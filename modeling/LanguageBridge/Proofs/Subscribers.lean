import LanguageBridge.Proofs.Desk
import Mathlib.Data.List.Induction

/-! What subscribers get. From the place where it was opened on, a subscription is handed every message
that is delivered to its sequence, in order and once, up to the close of the channel; what has not been
handed out is buffered. Other subscriptions and other messages make no difference. -/
namespace LanguageBridge.Desk

def handed (name : String) (entry : DeskCommand × DeskReply) : List Message :=
  if entry.1.taker? = some name then entry.2.messages else []

def received (name : String) (entries : List (DeskCommand × DeskReply)) : List Message :=
  entries.flatMap (handed name)

def delivered (strand : Strand) (commands : List DeskCommand) : List Message :=
  (commands.takeWhile fun c => !c.isClose).flatMap (·.due strand)

section Step

variable {d e : Desk} {c : DeskCommand} {reply : DeskReply} {name : String} {s : Subscription}

theorem handed_silent (silent : reply.messages = []) : handed name (c,reply) = [] := by
  simp [handed,silent]

namespace Move

/-- A sequence ends with the close of the channel and not otherwise. -/
theorem ended (move : d.Move c reply e) (strand : Strand) :
    e.channel.inbound.ended strand = (d.channel.inbound.ended strand || c.isClose) := by
  cases move with
  | aside _ _ goesOn _ _ queues => simp [queues.ended,goesOn]
  | taken taker _ _ _ queues =>
    rcases DeskCommand.eq_of_taker taker with rfl | rfl <;> simp [queues.ended,DeskCommand.isClose]
  | released _ _ queues => simp [queues.ended,DeskCommand.isClose]
  | subscribed _ _ queues => simp [queues.ended,Inbound.ended_subscribed]
  | published _ _ queues => simp [queues.ended,DeskCommand.isClose]
  | closed _ _ ended => simp [ended,DeskCommand.isClose]

theorem kept (move : d.Move c reply e) (held : d.subscriptions.lookup name = some s)
    (keeps : c.keeps name = true) : e.subscriptions.lookup name = some s := by
  cases move with
  | aside _ _ _ _ subscriptions => rw [subscriptions,held]
  | taken _ _ _ subscriptions => rw [subscriptions,held]
  | @released _ _ gone _ subscriptions =>
    have other : gone ≠ name := by simpa [DeskCommand.keeps] using keeps
    rw [subscriptions,Lookup.lookup_filter_ne,if_neg other.symm,held]
  | @subscribed _ _ _ new _ subscriptions =>
    have other : new ≠ name := by simpa using keeps
    rw [subscriptions,Lookup.lookup_cons_ne other.symm,Lookup.lookup_filter_ne,if_neg other.symm,held]
  | published _ subscriptions => rw [subscriptions,held]
  | closed _ subscriptions => rw [subscriptions,held]

/-- Whatever is there after a command was there before it, or is what the command has subscribed. -/
theorem traced (move : d.Move c reply e) (held : e.subscriptions.lookup name = some s) :
    (d.subscriptions.lookup name = some s ∧ c.keeps name = true) ∨ c = s.strand.subscribe name := by
  cases move with
  | aside _ _ _ keeps subscriptions => exact .inl ⟨subscriptions ▸ held,keeps name⟩
  | taken asks _ _ subscriptions =>
    refine .inl ⟨subscriptions ▸ held,?_⟩
    rcases DeskCommand.eq_of_taker asks with rfl | rfl <;> rfl
  | @released _ _ gone _ subscriptions =>
    rw [subscriptions,Lookup.lookup_filter_ne] at held
    by_cases own : name = gone
    · simp [own] at held
    · rw [if_neg own] at held
      exact .inl ⟨held,by simpa [DeskCommand.keeps] using Ne.symm own⟩
  | @subscribed _ _ strand new _ subscriptions =>
    by_cases own : name = new
    · subst own
      obtain rfl : strand.subscription (d.channel.inbound.next strand) = s := by
        simpa [subscriptions] using held
      exact .inr (by simp)
    · rw [subscriptions,Lookup.lookup_cons_ne own,Lookup.lookup_filter_ne,if_neg own] at held
      exact .inl ⟨held,by simpa using Ne.symm own⟩
  | published _ subscriptions => exact .inl ⟨subscriptions ▸ held,rfl⟩
  | closed _ subscriptions => exact .inl ⟨subscriptions ▸ held,rfl⟩

/-- What a command hands to a subscriber comes off the front of what was buffered for it, and what the
command delivers goes to the end. -/
theorem conserved (move : d.Move c reply e) (attached : d.channel.inbound.Attached d.subscriptions)
    (held : d.subscriptions.lookup name = some s) (keeps : c.keeps name = true) :
    handed name (c,reply) ++ e.buffered s =
      d.buffered s ++ if d.channel.inbound.ended s.strand then [] else c.due s.strand := by
  have mine {other : String} (apart : other ≠ name) : d.subscriptions.lookup other ≠ some s :=
    fun found => apart (attached.name_inj (Lookup.mem_of_lookup found) (Lookup.mem_of_lookup held))
  cases move with
  | aside silent undue _ _ _ queues =>
    simp [handed_silent silent,undue,buffered,Inbound.buffered,queues.queue?]
  | @taken _ _ _ taker other left asks found items _ queues =>
    have undue : c.due s.strand = [] := by
      rcases DeskCommand.eq_of_taker asks with rfl | rfl <;> rfl
    by_cases own : taker = name
    · subst own
      obtain rfl : s = other := by simpa [held] using found
      rw [handed,if_pos asks,undue,ite_self,List.append_nil,items]
      congr 1
      simp only [buffered,Inbound.buffered,queues.queue?] at items ⊢
      cases queue : d.channel.inbound.queue? s with
      | none => simp_all
      | some old => simp
    · have silent : handed name (c,reply) = [] := by simp [handed,asks,own]
      have apart : s ≠ other := fun same => mine own (same ▸ found)
      simp [silent,undue,buffered,Inbound.buffered,queues.queue?,apart]
  | @released _ _ gone silent _ queues =>
    have other : gone ≠ name := by simpa [DeskCommand.keeps] using keeps
    simp [handed_silent silent,buffered,Inbound.buffered,queues.queue?,mine other,DeskCommand.due]
  | @subscribed _ _ strand new silent _ queues =>
    have other : new ≠ name := by simpa using keeps
    have fresh := attached.fresh strand _ (Lookup.mem_of_lookup held)
    simp [handed_silent silent,buffered,Inbound.buffered,queues.queue?,mine other,
      Inbound.queue?_subscribed,fresh]
  | published silent _ queues =>
    have served := attached.served _ (Lookup.mem_of_lookup held)
    simp only [handed_silent silent,List.nil_append,buffered,Inbound.buffered,queues.queue?]
    cases queue : d.channel.inbound.queue? s with
    | none => cases final : d.channel.inbound.ended s.strand <;> simp_all
    | some old => simp
  | closed silent _ _ _ queues =>
    simp [handed_silent silent,buffered,Inbound.buffered,queues,DeskCommand.due]

end Move

end Step

/-- A new subscription has nothing to receive. -/
theorem opened {d : Desk} (sound : d.Sound) (strand : Strand) (name : String) :
    ∃ s : Subscription, s.strand = strand ∧
      (d.step (strand.subscribe name)).1.subscriptions.lookup name = some s ∧
      (d.step (strand.subscribe name)).1.buffered s = [] := by
  obtain ⟨i,opened,queues⟩ := d.step_subscribe strand name
  let s := strand.subscription (d.channel.inbound.next strand)
  refine ⟨s,by simp [s],by simp [opened,s],?_⟩
  have fresh : d.channel.inbound.queue? s = none := by
    rw [← Option.not_isSome_iff_eq_none]
    intro found
    simpa [s] using sound.feed.queued _ found
  have unnamed : d.subscriptions.lookup name ≠ some s :=
    fun found => sound.feed.fresh strand _ (Lookup.mem_of_lookup found) rfl
  have queue := queues.queue? s
  rw [Inbound.queue?_subscribed,fresh] at queue
  cases isEnded : d.channel.inbound.ended strand with
  | true => simp [opened,buffered,Inbound.buffered,setInbound,queue,isEnded]
  | false => simp [opened,buffered,Inbound.buffered,setInbound,queue,isEnded,unnamed,s]

section Run

variable {d : Desk} {name : String} {s : Subscription}

theorem run_ended (d : Desk) (commands : List DeskCommand) (strand : Strand) :
    (d.run commands).channel.inbound.ended strand =
      (d.channel.inbound.ended strand || commands.any DeskCommand.isClose) := by
  induction commands generalizing d with
  | nil => simp
  | cons c rest ih => rw [run_cons,ih,(d.step_move c).ended,List.any_cons,Bool.or_assoc]

theorem run_kept (held : d.subscriptions.lookup name = some s) (commands : List DeskCommand)
    (kept : ∀ c ∈ commands, c.keeps name = true) :
    (d.run commands).subscriptions.lookup name = some s := by
  induction commands generalizing d with
  | nil => exact held
  | cons c rest ih =>
    apply ih
    · exact (d.step_move c).kept held (kept c (by simp))
    · exact fun later member => kept later (by simp [member])

theorem delivered_cons (strand : Strand) (c : DeskCommand) (rest : List DeskCommand) :
    delivered strand (c :: rest) =
      c.due strand ++ if c.isClose then [] else delivered strand rest := by
  cases close : c.isClose with
  | true =>
    have undue : c.due strand = [] := by cases c <;> simp_all [DeskCommand.isClose,DeskCommand.due]
    simp [delivered,close,undue]
  | false => simp [delivered,close]

/-- What a subscriber is handed and then what is buffered for it is what was buffered and then what has
been delivered. -/
theorem run_conserved (sound : d.Sound) (held : d.subscriptions.lookup name = some s)
    (commands : List DeskCommand) (kept : ∀ c ∈ commands, c.keeps name = true) :
    received name (d.transcript commands) ++ (d.run commands).buffered s =
      d.buffered s ++
        if d.channel.inbound.ended s.strand then [] else delivered s.strand commands := by
  induction commands generalizing d with
  | nil => simp [received,transcript,delivered]
  | cons c rest ih =>
    have move := d.step_move c
    have keeps := kept c (by simp)
    have now := move.conserved sound.feed held keeps
    have later := ih (step_sound sound c) (move.kept held keeps)
      fun x member => kept x (by simp [member])
    rw [move.ended] at later
    calc received name (d.transcript (c :: rest)) ++ (d.run (c :: rest)).buffered s
        = handed name (c,(d.step c).2) ++ (received name ((d.step c).1.transcript rest) ++
            ((d.step c).1.run rest).buffered s) := by simp [received,transcript]
      _ = handed name (c,(d.step c).2) ++ (d.step c).1.buffered s ++
            (if d.channel.inbound.ended s.strand || c.isClose then [] else delivered s.strand rest) := by
          rw [later,List.append_assoc]
      _ = d.buffered s ++
            if d.channel.inbound.ended s.strand then [] else delivered s.strand (c :: rest) := by
          rw [now,delivered_cons]
          cases d.channel.inbound.ended s.strand <;> simp

/-- Whatever a desk holds was subscribed at some place and not given up since. -/
theorem run_opened (commands : List DeskCommand)
    (held : (empty.run commands).subscriptions.lookup name = some s) :
    ∃ before after, commands = before ++ s.strand.subscribe name :: after ∧
      ∀ c ∈ after, c.keeps name = true := by
  induction commands using List.reverseRecOn with
  | nil => simp [empty] at held
  | append_singleton commands c ih =>
    rw [run_append,run_cons,run_nil] at held
    rcases ((empty.run commands).step_move c).traced held with ⟨earlier,keeps⟩ | rfl
    · obtain ⟨before,after,rfl,kept⟩ := ih earlier
      refine ⟨before,after ++ [c],by simp,?_⟩
      intro x member
      rcases List.mem_append.mp member with old | new
      · exact kept x old
      · rw [List.mem_singleton.mp new]
        exact keeps
    · exact ⟨commands,[],rfl,by simp⟩

end Run

/-- Subscriptions lose nothing. Every subscription that a desk holds was opened at some place of the run;
and one that was opened and not given up is still there, and has been handed, together with what is
buffered for it, exactly the messages of its sequence that were delivered since, unless the channel was
closed before them. -/
structure Lossless (commands : List DeskCommand) : Prop where
  opened : ∀ name s, (empty.run commands).subscriptions.lookup name = some s →
    ∃ before after, commands = before ++ s.strand.subscribe name :: after ∧
      ∀ c ∈ after, c.keeps name = true
  served : ∀ (strand : Strand) name before after,
    commands = before ++ strand.subscribe name :: after → (∀ c ∈ after, c.keeps name = true) →
    ∃ s : Subscription, s.strand = strand ∧
      (empty.run commands).subscriptions.lookup name = some s ∧
      received name ((empty.run (before ++ [strand.subscribe name])).transcript after) ++
          (empty.run commands).buffered s =
        if before.any DeskCommand.isClose then [] else delivered strand after

theorem run_lossless (commands : List DeskCommand) : Lossless commands := by
  refine ⟨fun name s => run_opened commands,?_⟩
  rintro strand name before after rfl kept
  have sound := run_sound empty_sound before
  obtain ⟨s,rfl,held,fresh⟩ := opened sound strand name
  have conserved := run_conserved (step_sound sound _) held after kept
  have unended : empty.channel.inbound.ended s.strand = false := by cases s.strand <;> rfl
  rw [fresh,((empty.run before).step_move _).ended,run_ended,unended] at conserved
  refine ⟨s,rfl,?_,?_⟩
  · rw [run_append,run_cons]
    exact run_kept held after kept
  · rw [run_append,run_append,run_cons,run_cons,run_nil,conserved]
    simp

/-- What comes while another subscriber leaves is not lost, and what comes after the close does not count. -/
def bustle : List DeskCommand :=
  [.requests "early",.deliver (.request (.new (.number 1) "one" none)),.requests "late",
    .deliver (.notification (.new "aside" none)),.deliver (.request (.new (.number 2) "two" none)),
    .receive "early",.unsubscribe "late",.deliver (.request (.new (.number 3) "three" none)),.close,
    .deliver (.request (.new (.number 4) "four" none))]

example : received "early" (empty.transcript bustle) = [.request (.new (.number 1) "one" none)] ∧
    (empty.run bustle).buffered (.requests 0) =
      [.request (.new (.number 2) "two" none),.request (.new (.number 3) "three" none)] := by
  decide

end LanguageBridge.Desk
