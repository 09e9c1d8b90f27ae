import LanguageBridge.Proofs.Books
import Mathlib.Data.List.Induction

/-! Responses and calls find each other: every run of an exchange keeps books in which all ids differ,
no call ends twice and every outcome is justified by the events of the run. -/
namespace LanguageBridge.Exchange

variable {α : Type}

def handles (s : Exchange α) : Set Handle := { h | ∃ u ∈ s.underway, u.call.handle = h }

structure Ambient (profile : Profile) (events : List (Event α)) (s : Exchange α) : Prop where
  position : s.position = events.length
  clock : s.clock = elapsed events events.length
  profile : s.engine.profile = profile
  fired : ∀ token ∈ s.fired, ∃ place : Nat, events[place]? = some (.fire token)
  shut : s.channel.pending.closed = true → ∃ place : Nat, events[place]? = some .close
  gone : s.channel.outbox.abandoned = true → ∃ place : Nat, events[place]? = some .hangUp

structure Tracked (profile : Profile) (events : List (Event α)) (p : Pending) (u : Underway α) :
    Prop where
  started : ∃ params,
    events[u.since]? = some (.start u.call.method params u.call.token u.expected)
  id : u.call.handle.id = .number u.call.number
  allowed : u.call.allowed = profile.deadline u.call.method
  deadline : u.call.deadline = elapsed events u.since + u.call.allowed.nanoseconds
  waiting : p.poll u.call.handle = .waiting →
    ∀ place r, u.since < place → ¬ AnswerAt events u.call.number place r
  ready : ∀ r, p.poll u.call.handle = .ready r →
    ∃ place, FirstAnswer events u.call.number u.since place r
  closed : p.poll u.call.handle = .closed → ∃ place : Nat, events[place]? = some .close

structure Invariant (profile : Profile) (events : List (Event α)) (s : Exchange α) : Prop where
  ambient : Ambient profile events s
  numbering : Numbering events s.engine.nextId s.issued
  books : Books s.issued s.underway s.endings
  table : s.channel.pending.Sound s.handles
  tracked : ∀ u ∈ s.underway, Tracked profile events s.channel.pending u
  justified : ∀ e ∈ s.endings, e.ended < events.length ∧ Justified profile events e

theorem opening_invariant (profile : Profile) :
    Invariant profile ([] : List (Event α)) (opening profile) := by
  refine ⟨?_,?_,?_,?_,by simp [opening],by simp [opening]⟩
  · constructor <;> simp [opening,Engine.new,Channel.empty,Channel.pending,Inbound.empty,
      Pending.empty,Outbox.empty,elapsed]
  · constructor <;> simp [opening,Engine.new,calls]
  · constructor <;> simp [opening]
  · have none : (opening profile : Exchange α).handles = ∅ := by
      ext h
      simp [handles,opening]
    rw [none]
    exact Pending.sound_empty

section Step

variable {profile : Profile} {events : List (Event α)} {event : Event α} {s t : Exchange α}

theorem Ambient.snoc (ambient : Ambient profile events s) (position : t.position = s.position + 1)
    (clock : t.clock = s.clock + event.duration)
    (engine : t.engine.profile = s.engine.profile)
    (fired : ∀ token ∈ t.fired, token ∈ s.fired ∨ event = .fire token)
    (shut : t.channel.pending.closed = true →
      s.channel.pending.closed = true ∨ event = .close)
    (gone : t.channel.outbox.abandoned = true →
      s.channel.outbox.abandoned = true ∨ event = .hangUp) :
    Ambient profile (events ++ [event]) t := by
  refine ⟨?_,?_,engine.trans ambient.profile,?_,?_,?_⟩
  · simp [position,ambient.position]
  · rw [List.length_append,List.length_singleton,elapsed_length_snoc,clock,ambient.clock]
  · exact fun token member => exists_at_snoc ((fired token member).imp_left (ambient.fired token))
  · exact fun closed => exists_at_snoc ((shut closed).imp_left ambient.shut)
  · exact fun abandoned => exists_at_snoc ((gone abandoned).imp_left ambient.gone)

/-- What a start has fixed stays; what the table shows has to be shown anew. -/
theorem Tracked.snoc {p q : Pending} {u : Underway α} (tracked : Tracked profile events p u)
    (waiting : q.poll u.call.handle = .waiting →
      ∀ place r, u.since < place → ¬ AnswerAt (events ++ [event]) u.call.number place r)
    (ready : ∀ r, q.poll u.call.handle = .ready r →
      ∃ place, FirstAnswer (events ++ [event]) u.call.number u.since place r)
    (closed : q.poll u.call.handle = .closed →
      ∃ place : Nat, (events ++ [event])[place]? = some .close) :
    Tracked profile (events ++ [event]) q u := by
  obtain ⟨params,started⟩ := tracked.started
  refine ⟨⟨params,at_snoc started⟩,tracked.id,tracked.allowed,?_,waiting,ready,closed⟩
  rw [elapsed_snoc (place_lt started).le,tracked.deadline]

/-- The table shows a call the same as before, and no answer to it has come while it waits. -/
theorem Tracked.same {p q : Pending} {u : Underway α} (tracked : Tracked profile events p u)
    (view : q.poll u.call.handle = p.poll u.call.handle)
    (quiet : p.poll u.call.handle = .waiting →
      ∀ r, event = .deliver (.response r) → ¬ r.Answers u.call.number) :
    Tracked profile (events ++ [event]) q u := by
  apply tracked.snoc
  · rw [view]
    intro waiting place r after answer
    rcases of_at_snoc answer.1 with found | ⟨_,last⟩
    · exact tracked.waiting waiting place r after ⟨found,answer.2⟩
    · exact quiet waiting r last answer.2
  · rw [view]
    intro r ready
    obtain ⟨place,first⟩ := tracked.ready r ready
    exact ⟨place,first.snoc⟩
  · rw [view]
    exact fun closed => exists_at_snoc (.inl (tracked.closed closed))

/-- The first answer to a waiting call has just come. -/
theorem Tracked.answered {p q : Pending} {u : Underway α} (tracked : Tracked profile events p u)
    {r : Response} (waiting : p.poll u.call.handle = .waiting)
    (view : q.poll u.call.handle = .ready r) (answers : r.Answers u.call.number) :
    Tracked profile (events ++ [.deliver (.response r)]) q u := by
  obtain ⟨params,started⟩ := tracked.started
  apply tracked.snoc
  · simp [view]
  · rw [view]
    intro q same
    obtain rfl : r = q := by simpa using same
    refine ⟨events.length,place_lt started,⟨by simp,answers⟩,?_⟩
    intro earlier q after before answer
    exact tracked.waiting waiting earlier q after (answer.of_snoc before)
  · simp [view]

/-- A waiting call has just been cut off. -/
theorem Tracked.severed {p q : Pending} {u : Underway α} (tracked : Tracked profile events p u)
    (view : q.poll u.call.handle = .closed) : Tracked profile (events ++ [.close]) q u := by
  apply tracked.snoc
  · simp [view]
  · simp [view]
  · exact fun _ => exists_at_snoc (.inr rfl)

end Step

section Events

variable {profile : Profile} {events : List (Event α)} {event : Event α} {s t : Exchange α}

theorem mem_of_find? {number : UInt64} {u : Underway α} (found : s.find? number = some u) :
    u ∈ s.underway ∧ u.call.number = number :=
  ⟨List.mem_of_find?_eq_some found,by simpa using List.find?_some found⟩

theorem mem_others {number : UInt64} {u : Underway α} :
    u ∈ s.others number ↔ u ∈ s.underway ∧ u.call.number ≠ number := by
  simp [others]

namespace Invariant

/-- Nothing but numbers is waited for. -/
theorem numeric (inv : Invariant profile events s) :
    ∀ w ∈ s.channel.pending.waiters, ∃ n, w.1 = .number n := by
  intro w member
  obtain ⟨u,running,own⟩ := inv.table.owned w member
  have id := (inv.tracked u running).id
  rw [own] at id
  exact ⟨_,id⟩

theorem eq_of_number (inv : Invariant profile events s) {u v : Underway α}
    (first : u ∈ s.underway) (second : v ∈ s.underway) (same : u.call.number = v.call.number) :
    u = v :=
  List.inj_on_of_nodup_map inv.books.single first second same

theorem id_ne (inv : Invariant profile events s) {u v : Underway α} (first : u ∈ s.underway)
    (second : v ∈ s.underway) (other : u.call.number ≠ v.call.number) :
    u.call.handle.id ≠ v.call.handle.id := by
  rw [(inv.tracked u first).id,(inv.tracked v second).id]
  simpa using other

theorem handles_others (inv : Invariant profile events s) {u : Underway α} (running : u ∈ s.underway) :
    { h | ∃ v ∈ s.others u.call.number, v.call.handle = h } = s.handles \ {u.call.handle} := by
  ext h
  constructor
  · rintro ⟨v,stays,rfl⟩
    obtain ⟨member,other⟩ := mem_others.mp stays
    refine ⟨⟨v,member,rfl⟩,fun same => ?_⟩
    exact inv.id_ne member running other (congrArg Handle.id same)
  · rintro ⟨⟨v,member,rfl⟩,other⟩
    refine ⟨v,mem_others.mpr ⟨member,fun same => other ?_⟩,rfl⟩
    rw [inv.eq_of_number member running same]
    rfl

theorem justified_snoc (inv : Invariant profile events s) :
    ∀ e ∈ s.endings, e.ended < (events ++ [event]).length ∧
      Justified profile (events ++ [event]) e := by
  intro e member
  obtain ⟨place,justified⟩ := inv.justified e member
  exact ⟨by simp; omega,justified.snoc place.le⟩

/-- No call is started, none ends. -/
theorem quiet (inv : Invariant profile events s) (ambient : Ambient profile (events ++ [event]) t)
    (other : event.isStart = false) (engine : t.engine = s.engine) (issued : t.issued = s.issued)
    (underway : t.underway = s.underway) (endings : t.endings = s.endings)
    (table : t.channel.pending.Sound s.handles)
    (tracked : ∀ u ∈ s.underway, Tracked profile (events ++ [event]) t.channel.pending u) :
    Invariant profile (events ++ [event]) t := by
  have handles : t.handles = s.handles := by simp [Exchange.handles,underway]
  refine ⟨ambient,?_,?_,handles ▸ table,underway ▸ tracked,?_⟩
  · rw [engine,issued]
    exact inv.numbering.quiet other
  · rw [issued,underway,endings]
    exact inv.books
  · rw [endings]
    exact inv.justified_snoc

/-- Not even the table changes. -/
theorem idle (inv : Invariant profile events s) (ambient : Ambient profile (events ++ [event]) t)
    (other : event.isStart = false) (engine : t.engine = s.engine) (issued : t.issued = s.issued)
    (underway : t.underway = s.underway) (endings : t.endings = s.endings)
    (table : t.channel.pending = s.channel.pending)
    (silent : ∀ r, event ≠ .deliver (.response r)) : Invariant profile (events ++ [event]) t := by
  refine inv.quiet ambient other engine issued underway endings (table ▸ inv.table) ?_
  intro u running
  exact (inv.tracked u running).same (by rw [table]) (fun _ r delivers => absurd delivers (silent r))

/-- Nothing happens at all. -/
theorem pass (inv : Invariant profile events s) (other : event.isStart = false)
    (instant : event.duration = 0) (silent : ∀ r, event ≠ .deliver (.response r)) :
    Invariant profile (events ++ [event]) { s with position := s.position + 1 } := by
  refine inv.idle ?_ other rfl rfl rfl rfl rfl silent
  exact inv.ambient.snoc rfl (by simp [instant]) rfl (fun _ member => .inl member) .inl .inl

theorem deliver (inv : Invariant profile events s) (m : Message) :
    Invariant profile (events ++ [.deliver m]) (s.step (.deliver m)) := by
  have closed : (s.channel.deliver m).pending.closed = s.channel.pending.closed := by
    cases m with
    | request r => rfl
    | notification n => rfl
    | response r =>
      rw [Channel.pending_deliver_response]
      obtain ⟨_,unmatched⟩ | ⟨id,ticket,_,_,matched⟩ := s.channel.pending.resolve_cases r
      · rw [unmatched]
      · rw [matched]
        rfl
  have ambient : Ambient profile (events ++ [.deliver m]) (s.step (.deliver m)) :=
    inv.ambient.snoc rfl rfl rfl (fun _ member => .inl member)
      (fun shut => .inl (closed ▸ shut)) .inl
  cases m with
  | request r => exact inv.idle ambient rfl rfl rfl rfl rfl rfl (by simp)
  | notification n => exact inv.idle ambient rfl rfl rfl rfl rfl rfl (by simp)
  | response r =>
    refine inv.quiet ambient rfl rfl rfl rfl rfl (inv.table.resolve r) ?_
    intro u running
    have tracked := inv.tracked u running
    have view := inv.table.poll_resolve r ⟨u,running,rfl⟩
    have meant (waiting : s.channel.pending.poll u.call.handle = .waiting) :
        r.id.bind s.channel.pending.target? = some u.call.handle.id ↔ r.Answers u.call.number := by
      have pending := inv.table.isPending_of_waiting ⟨u,running,rfl⟩ waiting
      rw [tracked.id] at pending ⊢
      exact Pending.target_iff inv.numeric pending r
    split at view
    next mine => exact tracked.answered mine.1 view ((meant mine.1).mp mine.2)
    next other =>
      refine tracked.same view fun waiting q same answers => ?_
      obtain rfl : r = q := by simpa using same
      exact other ⟨waiting,(meant waiting).mpr answers⟩

theorem close (inv : Invariant profile events s) :
    Invariant profile (events ++ [.close]) (s.step .close) := by
  have ambient : Ambient profile (events ++ [.close]) (s.step .close) :=
    inv.ambient.snoc rfl rfl rfl (fun _ member => .inl member) (fun _ => .inr rfl) .inl
  refine inv.quiet ambient rfl rfl rfl rfl rfl inv.table.close ?_
  intro u running
  have view := s.channel.pending.poll_close u.call.handle
  split at view
  next => exact (inv.tracked u running).severed view
  next => exact (inv.tracked u running).same view (by simp)

end Invariant

/-- The table `q` has let go of the call `u` and of nothing else. -/
structure Parted (s : Exchange α) (u : Underway α) (q : Pending) : Prop where
  table : q.Sound (s.handles \ {u.call.handle})
  closed : q.closed = s.channel.pending.closed
  view : ∀ v ∈ s.others u.call.number,
    q.poll v.call.handle = s.channel.pending.poll v.call.handle

namespace Invariant

theorem parted_collect (inv : Invariant profile events s) {u : Underway α}
    (running : u ∈ s.underway) (settled : s.channel.pending.poll u.call.handle ≠ .waiting) :
    Parted s u (s.channel.pending.collect u.call.handle) := by
  refine ⟨inv.table.collect ⟨u,running,rfl⟩ settled,rfl,?_⟩
  intro v stays
  obtain ⟨member,other⟩ := mem_others.mp stays
  refine inv.table.poll_collect ⟨v,member,rfl⟩ ⟨u,running,rfl⟩ fun same => ?_
  exact inv.id_ne member running other (congrArg Handle.id same)

/-- Ids of calls differ, so a drop by id takes nothing away from the others. -/
theorem parted_drop (inv : Invariant profile events s) {u : Underway α}
    (running : u ∈ s.underway) : Parted s u (s.channel.pending.drop u.call.handle) := by
  refine ⟨inv.table.drop ⟨u,running,rfl⟩,rfl,?_⟩
  intro v stays
  obtain ⟨member,other⟩ := mem_others.mp stays
  have apart := inv.id_ne member running other
  rw [inv.table.poll_drop ⟨v,member,rfl⟩ ⟨u,running,rfl⟩ fun same => apart (congrArg _ same)]
  exact if_neg fun cut => apart cut.2

theorem table_others (inv : Invariant profile events s) {u : Underway α} {q : Pending}
    (running : u ∈ s.underway) (parted : Parted s u q) :
    q.Sound { h | ∃ v ∈ s.others u.call.number, v.call.handle = h } := by
  rw [inv.handles_others running]
  exact parted.table

theorem tracked_others (inv : Invariant profile events s) {u : Underway α} {q : Pending}
    (parted : Parted s u q) (silent : ∀ r, event ≠ .deliver (.response r)) :
    ∀ v ∈ s.others u.call.number, Tracked profile (events ++ [event]) q v := by
  intro v stays
  exact (inv.tracked v (mem_others.mp stays).1).same (parted.view v stays)
    fun _ r delivers => absurd delivers (silent r)

theorem drop (inv : Invariant profile events s) (number : UInt64) :
    Invariant profile (events ++ [.drop number]) (s.step (.drop number)) := by
  cases found : s.find? number with
  | none =>
    have same : s.step (.drop number) = { s with position := s.position + 1 } := by
      simp [step,handle,Exchange.drop,found]
    rw [same]
    exact inv.pass rfl rfl (by simp)
  | some u =>
    obtain ⟨running,rfl⟩ := mem_of_find? found
    have parted := inv.parted_drop running
    have after : s.step (.drop u.call.number) =
        { s with
          channel := s.channel.setPending (s.channel.pending.drop u.call.handle)
          underway := s.others u.call.number
          position := s.position + 1 } := by
      simp [step,handle,Exchange.drop,found]
    rw [after]
    refine ⟨?_,inv.numbering.quiet rfl,inv.books.leave List.filter_sublist,?_,?_,
      inv.justified_snoc⟩
    · exact inv.ambient.snoc rfl rfl rfl (fun _ member => .inl member)
        (fun shut => .inl (parted.closed ▸ shut)) .inl
    · exact inv.table_others running parted
    · exact inv.tracked_others parted (by simp)

/-- A call that is found settled, late or cancelled leaves the others alone, and for good reason. -/
theorem look_justified (inv : Invariant profile events s) {u : Underway α}
    (running : u ∈ s.underway) {tokenFirst : Bool} {c : Channel} {result : Except CallError Json}
    (looked : u.call.look s.channel s.clock s.fired tokenFirst = (c,some result)) :
    Parted s u c.pending ∧ c.outbox.abandoned = s.channel.outbox.abandoned ∧
      Justified profile events
        ⟨u.call.number,u.since,events.length,u.expected.expect result⟩ := by
  have tracked := inv.tracked u running
  obtain ⟨params,started⟩ := tracked.started
  rcases u.call.look_cases s.channel s.clock s.fired tokenFirst with
    ⟨_,none⟩ | ⟨r,ready,answered⟩ | ⟨closed,severed⟩ | ⟨waiting,late,timedOut⟩ |
      ⟨⟨token,fired,own⟩,cancelled⟩
  · rw [none] at looked
    simp at looked
  · rw [answered] at looked
    obtain ⟨rfl,rfl⟩ := by simpa using looked
    refine ⟨inv.parted_collect running (by simp [ready]),rfl,?_⟩
    obtain ⟨place,first⟩ := tracked.ready r ready
    exact .of_answer started (place_lt first.answer.1) first rfl
  · rw [severed] at looked
    obtain ⟨rfl,rfl⟩ := by simpa using looked
    refine ⟨inv.parted_collect running (by simp [closed]),rfl,_,_,_,_,started,?_⟩
    obtain ⟨place,found⟩ := tracked.closed closed
    exact .inl ⟨place,place_lt found,found⟩
  · rw [timedOut] at looked
    obtain ⟨rfl,rfl⟩ := by simpa using looked
    refine ⟨by simpa using inv.parted_drop running,by simp,_,_,_,_,started,?_⟩
    refine ⟨rfl,tracked.allowed,?_,fun place r after _ => tracked.waiting waiting place r after⟩
    rw [← tracked.deadline,← inv.ambient.clock]
    exact late
  · rw [cancelled] at looked
    obtain ⟨rfl,rfl⟩ := by simpa using looked
    refine ⟨by simpa using inv.parted_drop running,by simp,_,_,_,_,started,?_⟩
    obtain ⟨place,found⟩ := inv.ambient.fired token fired
    exact ⟨token,place,own,place_lt found,found⟩

theorem look (inv : Invariant profile events s) (number : UInt64) (tokenFirst : Bool) :
    Invariant profile (events ++ [.look number tokenFirst])
      (s.step (.look number tokenFirst)) := by
  cases found : s.find? number with
  | none =>
    have same : s.step (.look number tokenFirst) = { s with position := s.position + 1 } := by
      simp [step,handle,Exchange.look,found]
    rw [same]
    exact inv.pass rfl rfl (by simp)
  | some u =>
    obtain ⟨running,rfl⟩ := mem_of_find? found
    rcases looked : u.call.look s.channel s.clock s.fired tokenFirst with ⟨c,none | result⟩
    · have same : s.step (.look u.call.number tokenFirst) =
          { s with position := s.position + 1 } := by
        simp [step,handle,Exchange.look,found,looked,Call.eq_of_look_none looked]
      rw [same]
      exact inv.pass rfl rfl (by simp)
    · obtain ⟨parted,gone,justified⟩ := inv.look_justified running looked
      have after : s.step (.look u.call.number tokenFirst) =
          { s with
            channel := c
            underway := s.others u.call.number
            endings := ⟨u.call.number,u.since,events.length,u.expected.expect result⟩ :: s.endings
            position := s.position + 1 } := by
        simp [step,handle,Exchange.look,found,looked,inv.ambient.position]
      rw [after]
      refine ⟨?_,inv.numbering.quiet rfl,?_,?_,?_,?_⟩
      · exact inv.ambient.snoc rfl rfl rfl (fun _ member => .inl member)
          (fun shut => .inl (parted.closed ▸ shut)) (fun taken => .inl (gone ▸ taken))
      · exact inv.books.finish (e := ⟨u.call.number,u.since,events.length,_⟩) running rfl rfl
      · exact inv.table_others running parted
      · exact inv.tracked_others parted (by simp)
      · intro e member
        rcases List.mem_cons.mp member with rfl | old
        · exact ⟨by simp,justified.snoc (le_refl _)⟩
        · exact inv.justified_snoc e old

/-- A call that cannot start fails because one of the two sides is gone. -/
theorem refused (inv : Invariant profile events s) (method : String) (params : Option Json)
    (token : Option String) (expected : Reads α) {error : CallError}
    (few : calls events + 1 < UInt64.size)
    (refused : s.channel.pending.register (.number s.engine.nextId) = .error error ∨
      error = .channelClosed ∧ s.channel.outbox.abandoned = true) :
    Justified profile (events ++ [.start method params token expected])
      ⟨s.engine.nextId,events.length,events.length,.error error⟩ := by
  have free : s.channel.pending.isPending (.number s.engine.nextId) = false := by
    rw [Bool.eq_false_iff,ne_eq,Pending.isPending_iff]
    rintro ⟨ticket,entry⟩
    obtain ⟨u,running,own⟩ := inv.table.owned _ entry
    have id := (inv.tracked u running).id
    rw [own] at id
    have number : s.engine.nextId = u.call.number := by simpa using id
    exact inv.numbering.fresh few _ (inv.books.known u running) number.symm
  have started : (events ++ [.start method params token expected])[events.length]? =
      some (.start method params token expected) := by simp
  rcases refused with registering | ⟨rfl,abandoned⟩
  · cases shut : s.channel.pending.closed with
    | false => simp [Pending.register,shut,free] at registering
    | true =>
      obtain rfl : error = .channelClosed := by
        simpa [Pending.register,shut,eq_comm] using registering
      obtain ⟨place,found⟩ := inv.ambient.shut shut
      exact ⟨_,_,_,_,started,.inl ⟨place,place_lt found,at_snoc found⟩⟩
  · obtain ⟨place,found⟩ := inv.ambient.gone abandoned
    exact ⟨_,_,_,_,started,.inr ⟨rfl,place,place_lt found,at_snoc found⟩⟩

/-- To register an unused number and to drop the handle again changes nothing for the others. -/
theorem withdrawn (inv : Invariant profile events s) (few : calls events + 1 < UInt64.size) {h : Handle}
    {p : Pending} (ok : s.channel.pending.register (.number s.engine.nextId) = .ok (h,p)) :
    (p.drop h).Sound s.handles ∧ (p.drop h).closed = s.channel.pending.closed ∧
      ∀ u ∈ s.underway, (p.drop h).poll u.call.handle = s.channel.pending.poll u.call.handle := by
  have fresh := inv.table.register_fresh ok
  have grown := inv.table.register ok
  obtain ⟨_,_,handle,table⟩ := Pending.register_cases ok
  refine ⟨?_,by simp [table,Pending.drop,Pending.forget,Pending.collect],?_⟩
  · have rest := grown.drop (Set.mem_insert _ _)
    rwa [Set.insert_sdiff_self_of_notMem fresh] at rest
  · intro u running
    have held : u.call.handle ∈ s.handles := ⟨u,running,rfl⟩
    have other : u.call.handle ≠ h := fun same => fresh (same ▸ held)
    have id : u.call.handle.id ≠ h.id := by
      rw [(inv.tracked u running).id,handle]
      simpa using inv.numbering.fresh few _ (inv.books.known u running)
    rw [grown.poll_drop (Set.mem_insert_of_mem _ held) (Set.mem_insert _ _) other,
      if_neg (fun cut => id cut.2),inv.table.poll_register ok held]

/-- The state after a call that failed at once. -/
theorem start_refused (inv : Invariant profile events s) {method : String} {params : Option Json}
    {token : Option String} {expected : Reads α} {error : CallError} {c : Channel}
    (few : calls events + 1 < UInt64.size) (table : c.pending.Sound s.handles)
    (closed : c.pending.closed = s.channel.pending.closed) (outbox : c.outbox = s.channel.outbox)
    (view : ∀ u ∈ s.underway, c.pending.poll u.call.handle = s.channel.pending.poll u.call.handle)
    (justified : Justified profile (events ++ [.start method params token expected])
      ⟨s.engine.nextId,events.length,events.length,.error error⟩) :
    Invariant profile (events ++ [.start method params token expected])
      { s with
        engine := { s.engine with nextId := s.engine.nextId + 1 }
        channel := c
        issued := (events.length,s.engine.nextId) :: s.issued
        endings := ⟨s.engine.nextId,events.length,events.length,.error error⟩ :: s.endings
        position := s.position + 1 } := by
  refine ⟨?_,inv.numbering.issue rfl few,?_,table,?_,?_⟩
  · exact inv.ambient.snoc rfl rfl rfl (fun _ member => .inl member)
      (fun shut => .inl (closed ▸ shut)) (fun gone => .inl (outbox ▸ gone))
  · exact inv.books.refuse (e := ⟨_,events.length,_,_⟩) (inv.numbering.fresh few)
  · exact fun u running => (inv.tracked u running).same (view u running) (by simp)
  · intro e member
    rcases List.mem_cons.mp member with rfl | old
    · exact ⟨by simp,justified⟩
    · exact inv.justified_snoc e old

/-- The state after a call that was sent. -/
theorem start_sent (inv : Invariant profile events s) (method : String) (params : Option Json)
    (token : Option String) (expected : Reads α) {h : Handle} {p : Pending} {o : Outbox}
    (few : calls events + 1 < UInt64.size)
    (ok : s.channel.pending.register (.number s.engine.nextId) = .ok (h,p))
    (taken : o.abandoned = false) :
    Invariant profile (events ++ [.start method params token expected])
      { s with
        engine := { s.engine with nextId := s.engine.nextId + 1 }
        channel := { s.channel.setPending p with outbox := o }
        issued := (events.length,s.engine.nextId) :: s.issued
        underway := ⟨⟨s.engine.nextId,h,method,s.engine.profile.deadline method,
          s.clock + (s.engine.profile.deadline method).nanoseconds,token⟩,events.length,expected⟩ ::
            s.underway
        position := s.position + 1 } := by
  obtain ⟨_,_,handle,table⟩ := Pending.register_cases ok
  refine ⟨?_,inv.numbering.issue rfl few,?_,?_,?_,inv.justified_snoc⟩
  · refine inv.ambient.snoc rfl rfl rfl (fun _ member => .inl member) (fun shut => ?_) (by simp [taken])
    exact .inl (by simpa [Channel.pending,Channel.setPending,table] using shut)
  · exact inv.books.start (u := ⟨⟨_,_,_,_,_,_⟩,events.length,_⟩) (inv.numbering.fresh few)
  · have grown := inv.table.register ok
    have handles : insert h s.handles = { g | ∃ u ∈ (⟨⟨s.engine.nextId,h,method,
        s.engine.profile.deadline method,s.clock + (s.engine.profile.deadline method).nanoseconds,
        token⟩,events.length,expected⟩ : Underway α) :: s.underway, u.call.handle = g } := by
      ext g
      simp [Exchange.handles,eq_comm]
    rw [handles] at grown
    exact grown
  · intro u member
    rcases List.mem_cons.mp member with rfl | running
    · have waits : p.poll h = .waiting := inv.table.poll_register_self ok
      refine ⟨⟨params,by simp⟩,by rw [handle],by rw [inv.ambient.profile],?_,?_,?_,?_⟩
      · rw [elapsed_snoc (le_refl _),inv.ambient.clock]
      · intro _ place r after answer
        have bound := place_lt answer.1
        simp at bound after
        omega
      · exact fun r ready => absurd (waits.symm.trans ready) (by simp)
      · exact fun closed => absurd (waits.symm.trans closed) (by simp)
    · exact (inv.tracked u running).same (inv.table.poll_register ok ⟨u,running,rfl⟩) (by simp)

theorem start (inv : Invariant profile events s) (method : String) (params : Option Json)
    (token : Option String) (expected : Reads α) (few : calls events + 1 < UInt64.size) :
    Invariant profile (events ++ [.start method params token expected])
      (s.step (.start method params token expected)) := by
  rcases s.engine.call_cases s.channel s.clock method params token with
    ⟨error,refused,called⟩ | ⟨h,p,ok,⟨gone,called⟩ | ⟨o,taken,called⟩⟩
  · have after := inv.start_refused few inv.table rfl rfl (fun _ _ => rfl)
      (inv.refused method params token expected few (.inl refused))
    simpa [step,handle,Exchange.start,called,inv.ambient.position] using after
  · obtain ⟨table,closed,view⟩ := inv.withdrawn few ok
    have after := inv.start_refused few (c := s.channel.setPending (p.drop h)) table closed rfl view
      (inv.refused method params token expected few (.inr ⟨rfl,gone⟩))
    simpa [step,handle,Exchange.start,called,inv.ambient.position] using after
  · have after := inv.start_sent method params token expected few ok taken
    simpa [step,handle,Exchange.start,called,inv.ambient.position] using after

/-- Every event keeps the invariant as long as there are ids left. -/
theorem step (inv : Invariant profile events s) (event : Event α)
    (few : calls (events ++ [event]) < UInt64.size) :
    Invariant profile (events ++ [event]) (s.step event) := by
  have unfired {f : List String} : ∀ token ∈ f, token ∈ f ∨ event = .fire token :=
    fun _ member => .inl member
  cases event with
  | start method params token expected =>
    exact inv.start method params token expected (by simpa [calls_snoc,Event.isStart] using few)
  | look number tokenFirst => exact inv.look number tokenFirst
  | drop number => exact inv.drop number
  | deliver m => exact inv.deliver m
  | close => exact inv.close
  | send m =>
    have ambient : Ambient profile (events ++ [.send m]) (s.step (.send m)) :=
      inv.ambient.snoc rfl rfl rfl unfired (fun shut => .inl (by simpa [Exchange.step,handle] using shut))
        (fun gone => .inl (by simpa [Exchange.step,handle] using gone))
    exact inv.idle ambient rfl rfl rfl rfl rfl (by simp [Exchange.step,handle]) (by simp)
  | take =>
    cases taken : s.channel.outbox.take with
    | none =>
      have same : s.step .take = { s with position := s.position + 1 } := by
        simp [Exchange.step,handle,taken]
      rw [same]
      exact inv.pass rfl rfl (by simp)
    | some result =>
      obtain ⟨text,outbox⟩ := result
      have kept := Outbox.abandoned_of_take taken
      have after : s.step .take =
          { s with channel := { s.channel with outbox := outbox }, position := s.position + 1 } := by
        simp [Exchange.step,handle,taken]
      rw [after]
      exact inv.idle (inv.ambient.snoc rfl rfl rfl unfired .inl (fun gone => .inl (kept ▸ gone)))
        rfl rfl rfl rfl rfl rfl (by simp)
  | hangUp =>
    exact inv.idle (inv.ambient.snoc rfl rfl rfl unfired .inl (fun _ => .inr rfl))
      rfl rfl rfl rfl rfl rfl (by simp)
  | elapse nanoseconds =>
    exact inv.idle (inv.ambient.snoc rfl rfl rfl unfired .inl .inl) rfl rfl rfl rfl rfl rfl (by simp)
  | fire token =>
    have fired : ∀ t ∈ token :: s.fired, t ∈ s.fired ∨ (.fire token : Event α) = .fire t := by
      intro t member
      rcases List.mem_cons.mp member with rfl | old
      · exact .inr rfl
      · exact .inl old
    exact inv.idle (inv.ambient.snoc rfl rfl rfl fired .inl .inl) rfl rfl rfl rfl rfl rfl (by simp)

end Invariant

end Events

theorem run_invariant (profile : Profile) (events : List (Event α)) (few : calls events < UInt64.size) :
    Invariant profile events (run profile events) := by
  induction events using List.reverseRecOn with
  | nil => exact opening_invariant profile
  | append_singleton events event ih =>
    have fewer : calls events < UInt64.size := by
      rw [calls_snoc] at few
      omega
    rw [run_snoc]
    exact (ih fewer).step event few

/-- What the books of a run promise. Every start has one id, and all ids differ; a call has at most one
ending, which its events justify; and no response ends two calls. -/
structure Correlated (profile : Profile) (events : List (Event α)) (s : Exchange α) : Prop where
  starts : ∀ place, (∃ number, (place,number) ∈ s.issued) ↔
    ∃ method params token expected, events[place]? = some (.start method params token expected)
  places : (s.issued.map Prod.fst).Nodup
  numbers : (s.issued.map Prod.snd).Nodup
  entered : ∀ e ∈ s.endings, (e.since,e.number) ∈ s.issued
  once : (s.endings.map Ending.since).Nodup
  justified : ∀ e ∈ s.endings, Justified profile events e
  consumed : ∀ d ∈ s.endings, ∀ e ∈ s.endings, ∀ place q r,
    FirstAnswer events d.number d.since place q → FirstAnswer events e.number e.since place r → d = e

theorem isStart_iff {event : Event α} : event.isStart = true ↔
    ∃ method params token expected, event = .start method params token expected := by
  cases event <;> simp [Event.isStart]

theorem run_correlated (profile : Profile) (events : List (Event α)) (few : calls events < UInt64.size) :
    Correlated profile events (run profile events) := by
  have inv := run_invariant profile events few
  have same {d e : Ending α} (first : d ∈ (run profile events).endings)
      (second : e ∈ (run profile events).endings) (number : d.number = e.number) : d = e :=
    List.inj_on_of_nodup_map inv.books.once first second number
  refine ⟨?_,inv.numbering.places,inv.numbering.numbers,inv.books.entered,?_,
    fun e member => (inv.justified e member).2,?_⟩
  · intro place
    rw [inv.numbering.starts place]
    constructor
    · rintro ⟨event,found,start⟩
      obtain ⟨method,params,token,expected,rfl⟩ := isStart_iff.mp start
      exact ⟨method,params,token,expected,found⟩
    · rintro ⟨method,params,token,expected,found⟩
      exact ⟨_,found,rfl⟩
  · refine List.Nodup.map_on ?_ inv.books.once.of_map
    intro d first e second since
    refine same first second ?_
    have entry := Lookup.lookup_of_mem inv.numbering.places (inv.books.entered d first)
    rw [since,Lookup.lookup_of_mem inv.numbering.places (inv.books.entered e second)] at entry
    exact (Option.some.inj entry).symm
  · intro d first e second place q r left right
    have delivered : q = r := by simpa [left.answer.1] using right.answer.1
    exact same first second (left.answer.2.unique (delivered ▸ right.answer.2))

/-- Two calls are answered in reverse order, once by text and twice by number, and a third one is late. -/
def crossing : List (Event Json) :=
  [.start "first" none none .any,.start "second" none none .any,.start "third" none none .any,
    .deliver (.response ⟨"2.0",some (.text "2"),some (.str "b"),none⟩),
    .deliver (.response ⟨"2.0",some (.number 1),some (.str "a"),none⟩),
    .deliver (.response ⟨"2.0",some (.number 1),some (.str "c"),none⟩),
    .look 2 false,.look 1 true,.elapse 5000000000,.look 3 false]

theorem crossing_correlated :
    (calls crossing < UInt64.size ∧
      (run ⟨.ofSeconds 5,"client",none,"owner"⟩ crossing).endings.map
        (fun e => (e.number,e.since,e.ended,e.outcome)) =
        [(3,2,9,.error (.timeout "third" (.ofSeconds 5))),(1,0,7,.ok (.str "a")),
          (2,1,6,.ok (.str "b"))]) ∧
    Correlated ⟨.ofSeconds 5,"client",none,"owner"⟩ crossing
      (run ⟨.ofSeconds 5,"client",none,"owner"⟩ crossing) :=
  ⟨⟨by decide,by rfl⟩,run_correlated _ crossing (by decide)⟩

end LanguageBridge.Exchange
