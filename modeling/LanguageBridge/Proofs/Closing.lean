import LanguageBridge.Proofs.Subscribers

/-! What is left after the close of a channel. Nothing can be registered, answered or delivered any more,
and that is final: subscribers get what was buffered for them and then the end, and a handle gets the
response that had come for it, or else learns that the channel is closed. -/
namespace LanguageBridge

namespace Pending

variable {p : Pending}

theorem register_closed (closed : p.closed = true) (id : RequestId) :
    p.register id = .error .channelClosed := by
  simp [register,closed]

theorem resolve_vacant (vacant : p.waiters = []) (r : Response) : p.resolve r = (false,p) := by
  obtain ⟨_,unmatched⟩ | ⟨id,ticket,_,member,_⟩ := p.resolve_cases r
  · exact unmatched
  · simp [vacant] at member

end Pending

namespace Holding

variable {s t u : Holding}

/-- Of what was held some may be gone, and the rest sees the same as before in a table that is closed. -/
structure Settled (s t : Holding) : Prop where
  closed : t.table.closed = true
  held : t.held ⊆ s.held
  view : ∀ g ∈ t.held, t.table.poll g = s.table.poll g

theorem Settled.trans (first : s.Settled t) (second : t.Settled u) : s.Settled u where
  closed := second.closed
  held := List.Subset.trans second.held first.held
  view g member := (second.view g member).trans (first.view g (second.held member))

theorem act_closed (closed : s.table.closed = true) (a : Act) :
    (s.act a).table.closed = true ∧ (s.act a).held ⊆ s.held := by
  cases a with
  | register id =>
    have refused := Pending.register_closed closed id
    simp only [act,refused]
    exact ⟨closed,List.Subset.refl _⟩
  | resolve r => exact ⟨(s.table.closed_resolve r).trans closed,List.Subset.refl _⟩
  | look h =>
    simp only [act]
    split
    · exact ⟨closed,List.erase_subset⟩
    · exact ⟨closed,List.Subset.refl _⟩
  | drop h =>
    simp only [act]
    split
    · exact ⟨closed,List.erase_subset⟩
    · exact ⟨closed,List.Subset.refl _⟩
  | close => exact ⟨rfl,List.Subset.refl _⟩

/-- Only a waiting handle can see a change, and in a closed table no handle waits. -/
theorem act_settled (sound : s.Sound) (closed : s.table.closed = true) (a : Act) :
    s.Settled (s.act a) := by
  obtain ⟨still,fewer⟩ := act_closed closed a
  refine ⟨still,fewer,fun g member => ?_⟩
  rcases act_poll sound a (fewer member) member with same | ⟨waiting,_⟩
  · exact same
  · have isOpen := sound.table.open_of_waiting (fewer member) waiting
    simp [closed] at isOpen

theorem acts_settled (sound : s.Sound) (closed : s.table.closed = true) (acts : List Act) :
    s.Settled (acts.foldl act s) := by
  induction acts generalizing s with
  | nil => exact ⟨closed,List.Subset.refl _,fun _ _ => rfl⟩
  | cons a acts ih =>
    have first := act_settled sound closed a
    exact first.trans (ih (act_sound sound a) first.closed)

end Holding

def Received.oldest {α : Type} : List α → Received α
  | [] => .ended
  | a :: _ => .item a

namespace Desk

variable {d : Desk} {name : String}

/-- What a subscriber finds where nothing is delivered any more: what is left, one by one or all at once,
and then the end. -/
structure Winds (d : Desk) (name : String) (left : List Message) : Prop where
  receive : (d.step (.receive name)).2 = .received (.oldest left)
  drain : (d.step (.drain name)).2 = .items left true

theorem winds_of_ended {s : Subscription} (held : d.subscriptions.lookup name = some s)
    (ended : d.channel.inbound.ended s.strand = true) : d.Winds name (d.buffered s) := by
  have finished : d.isOver s = true := by simp [isOver,ended]
  refine ⟨?_,?_⟩
  · simp only [step,held]
    obtain ⟨i,m,left,items,received,_⟩ | ⟨none,received⟩ := d.receive_eq s
    · simp [received,items,Received.oldest]
    · simp [received,none,finished,Received.oldest]
  · simp only [step,held]
    obtain ⟨i,drained,_⟩ := d.drain_eq s
    simp [drained,finished]

theorem run_settled (sound : d.Sound) (closed : d.channel.pending.closed = true)
    (commands : List DeskCommand) : d.holding.Settled (d.run commands).holding := by
  induction commands generalizing d with
  | nil => exact Holding.acts_settled sound.holding closed []
  | cons c rest ih =>
    have first : d.holding.Settled (d.step c).1.holding := by
      rw [step_holding sound.holding sound.names c]
      exact Holding.acts_settled sound.holding closed (d.acts c)
    exact first.trans (ih (step_sound sound c) first.closed)

/-- In a closed table a name stands for the same handle until it is used up. -/
theorem run_handle {h : Handle} (sound : d.Sound) (closed : d.channel.pending.closed = true)
    (held : d.handles.lookup name = some h) (commands : List DeskCommand)
    (unspent : ∀ c ∈ commands, c.spender? ≠ some name) :
    (d.run commands).handles.lookup name = some h := by
  induction commands generalizing d with
  | nil => exact held
  | cons c rest ih =>
    have settled := run_settled sound closed [c]
    apply ih (step_sound sound c) settled.closed
    · rcases d.step_handles c with same | ⟨other,spends,left⟩ | ⟨_,id,_,_,_,registered,_⟩
      · rw [same,held]
      · have apart : name ≠ other := by
          rintro rfl
          exact unspent c (by simp) spends
        rw [left,Lookup.lookup_filter_ne,if_neg apart,held]
      · simp [Pending.register_closed closed id] at registered
    · exact fun later member => unspent later (by simp [member])

/-- The close of a channel is final. `d` is the desk when its channel is closed, and `after` are the
commands that come then. -/
structure Final (d : Desk) (after : List DeskCommand) : Prop where
  refused : ∀ name id, (d.run (.close :: after)).step (.register name id) =
    (d.run (.close :: after),.failed .channelClosed)
  unmatched : ∀ r, (d.run (.close :: after)).step (.resolve r) =
    (d.run (.close :: after),.existed false)
  vacant : (d.run (.close :: after)).channel.pending.count = 0
  buffered : ∀ name s, d.subscriptions.lookup name = some s → (∀ c ∈ after, c.keeps name = true) →
    ∃ left, received name (d.transcript (.close :: after)) ++ left = d.buffered s ∧
      (d.run (.close :: after)).Winds name left
  late : ∀ (strand : Strand) name earlier later, after = earlier ++ strand.subscribe name :: later →
    (∀ c ∈ later, c.keeps name = true) →
    received name ((d.run (.close :: earlier ++ [strand.subscribe name])).transcript later) = [] ∧
      (d.run (.close :: after)).Winds name []
  answered : ∀ name h r, d.handles.lookup name = some h → d.channel.pending.poll h = .ready r →
    (∀ c ∈ after, c.spender? ≠ some name) →
    ((d.run (.close :: after)).step (.poll name)).2 = .answered r
  severed : ∀ name h, d.handles.lookup name = some h → (∀ r, d.channel.pending.poll h ≠ .ready r) →
    (∀ c ∈ after, c.spender? ≠ some name) →
    ((d.run (.close :: after)).step (.poll name)).2 = .failed .channelClosed

theorem buffered_close (d : Desk) (s : Subscription) : (d.step .close).1.buffered s = d.buffered s := by
  cases s <;> rfl

theorem ended_close (d : Desk) (strand : Strand) :
    (d.step .close).1.channel.inbound.ended strand = true := by
  cases strand <;> rfl

/-- A subscriber of a sequence that has ended receives what is buffered for it, and no more. -/
theorem run_winds {s : Subscription} (sound : d.Sound) (held : d.subscriptions.lookup name = some s)
    (ended : d.channel.inbound.ended s.strand = true) (commands : List DeskCommand)
    (kept : ∀ c ∈ commands, c.keeps name = true) :
    ∃ left, received name (d.transcript commands) ++ left = d.buffered s ∧
      (d.run commands).Winds name left := by
  refine ⟨(d.run commands).buffered s,?_,?_⟩
  · rw [run_conserved sound held commands kept,ended,if_pos rfl,List.append_nil]
  · apply winds_of_ended (run_kept held commands kept)
    rw [run_ended,ended,Bool.true_or]

/-- A subscriber that comes after the close finds the end at once. -/
theorem run_winds_late (sound : d.Sound) (strand : Strand) (earlier later : List DeskCommand)
    (kept : ∀ c ∈ later, c.keeps name = true) :
    received name ((d.run (.close :: earlier ++ [strand.subscribe name])).transcript later) = [] ∧
      (d.run (.close :: (earlier ++ strand.subscribe name :: later))).Winds name [] := by
  have closed := run_sound sound (.close :: earlier)
  obtain ⟨s,rfl,held,fresh⟩ := opened closed strand name
  have ended : ((d.run (.close :: earlier)).step (s.strand.subscribe name)).1.channel.inbound.ended
      s.strand = true := by
    rw [(step_move _ _).ended,run_cons,run_ended,ended_close,Bool.true_or,Bool.true_or]
  obtain ⟨left,all,winds⟩ := run_winds (step_sound closed _) held ended later kept
  rw [fresh,List.append_eq_nil_iff] at all
  obtain ⟨none,rfl⟩ := all
  refine ⟨?_,?_⟩
  · rw [run_append]
    exact none
  · rw [← List.cons_append,run_append]
    exact winds

def told : Poll → DeskReply
  | .ready r => .answered r
  | _ => .failed .channelClosed

theorem poll_closed {h : Handle} (sound : d.Sound) (held : d.handles.lookup name = some h)
    (after : List DeskCommand) (unspent : ∀ c ∈ after, c.spender? ≠ some name) :
    ((d.run (.close :: after)).step (.poll name)).2 = told (d.channel.pending.poll h) := by
  have closing := step_sound sound .close
  have later : (d.run (.close :: after)).handles.lookup name = some h :=
    run_handle closing rfl held after unspent
  have member : h ∈ (d.run (.close :: after)).holding.held :=
    List.mem_map.mpr ⟨_,Lookup.mem_of_lookup later,rfl⟩
  have view : (d.run (.close :: after)).channel.pending.poll h = d.channel.pending.close.poll h :=
    (run_settled closing rfl after).view h member
  rw [Pending.poll_close] at view
  simp only [step,later,poll,view]
  cases d.channel.pending.poll h <;> rfl

theorem close_final (before after : List DeskCommand) : (empty.run before).Final after := by
  have sound := run_sound empty_sound before
  have closing := step_sound sound .close
  have shut : ((empty.run before).run (.close :: after)).channel.pending.closed = true :=
    (run_settled closing rfl after).closed
  have vacant : ((empty.run before).run (.close :: after)).channel.pending.waiters = [] :=
    (run_sound closing after).holding.table.shut shut
  refine ⟨?_,?_,?_,?_,?_,?_,?_⟩
  · intro name id
    simp only [step,Pending.register_closed shut]
  · intro r
    simp only [step,Pending.resolve_vacant vacant]
    rfl
  · rw [Pending.count,vacant,List.length_nil]
  · intro name s held kept
    have winds := run_winds closing held (ended_close _ _) after kept
    rwa [buffered_close] at winds
  · rintro strand name earlier later rfl kept
    exact run_winds_late sound strand earlier later kept
  · intro name h r held ready unspent
    rw [poll_closed sound held after unspent,ready,told]
  · intro name h held unready unspent
    rw [poll_closed sound held after unspent]
    cases seen : (empty.run before).channel.pending.poll h with
    | ready r => exact absurd seen (unready r)
    | waiting => rfl
    | closed => rfl

end Desk

end LanguageBridge
