import LanguageBridge.Proofs.Declaration
import LanguageBridge.Proofs.Lifecycle

/-! What the answer to a handshake decides. An answer that fails, cannot be read or declares no legend
ends the start and leaves nothing behind but the question; any other answer gives its legend to the
session, which goes on. -/
namespace LanguageBridge

namespace Response

inductive Refuses (r : Response) : BridgeError → Prop where
  | failed {e : ResponseError} (error : r.error = some e) :
      r.Refuses (.call (.server e.code e.message))
  | shapeless {e : ReadError} (fine : r.error = none)
      (other : ∀ result, ¬Wire.InitializeResult.Spelled (r.result.getD .null) result)
      (fault : Wire.InitializeResult.read (r.result.getD .null) = .error e) :
      r.Refuses (.handshake ("invalid initialize result: " ++ e.message))
  | undeclared {result : Wire.InitializeResult} (fine : r.error = none)
      (spelled : Wire.InitializeResult.Spelled (r.result.getD .null) result)
      (lacking : result.legend? = none) :
      r.Refuses (.handshake "server declared no semantic token legend")

structure Declares (r : Response) (legend : Wire.TokenLegend) : Prop where
  fine : r.error = none
  declared : ∃ result, Wire.InitializeResult.Spelled (r.result.getD .null) result ∧
    result.legend? = some legend

variable {r : Response}

theorem concluded_error {e : ResponseError} (error : r.error = some e) :
    r.concluded = .error (.server e.code e.message) := by
  simp [concluded,outcome,error,Except.mapError,CallError.ofResponse]

theorem concluded_fine (fine : r.error = none) : r.concluded = .ok (r.result.getD .null) := by
  simp [concluded,outcome,fine,Except.mapError]

theorem Refuses.legendIn {e : BridgeError} (refuses : r.Refuses e) :
    Session.legendIn r.concluded = .error e := by
  cases refuses with
  | failed error =>
    rw [concluded_error error]
    rfl
  | shapeless fine other fault =>
    rw [concluded_fine fine]
    simp only [Session.legendIn,fault]
  | undeclared fine spelled lacking =>
    have read := (Wire.InitializeResult.read_iff _ _).mpr spelled
    rw [concluded_fine fine]
    simp only [Session.legendIn,read,lacking]

theorem Declares.legendIn {legend : Wire.TokenLegend} (declares : r.Declares legend) :
    Session.legendIn r.concluded = .ok legend := by
  obtain ⟨result,spelled,declared⟩ := declares.declared
  have read := (Wire.InitializeResult.read_iff _ _).mpr spelled
  rw [concluded_fine declares.fine]
  simp only [Session.legendIn,read,declared]

end Response

namespace Moment

structure Hears (m : Moment) (i : Inboxes) (call : Call) (r : Response) : Prop where
  deed : m.deed = .go .hear
  admitted : m.before.admitted = some (i,.handshake call)
  ready : m.before.session.channel.pending.poll call.handle = .ready r

/-- A moment in the life of a session that never gets beyond its handshake: of all its strides only the
question has an effect. -/
structure Barren (m : Moment) : Prop where
  stage : m.after.session.stage ≠ .initialized ∧ m.after.session.stage ≠ .running
  legend : m.after.session.bridge.legend = none
  hooks : m.before.session.hooks <+: m.after.session.hooks
  still : ∀ stride, m.deed = .go stride → m.after = m.before ∨ ∃ number, m.Asks number
  silent : ¬m.Announces

theorem silent_of_still {m : Moment}
    (still : ∀ stride, m.deed = .go stride → m.after = m.before ∨ ∃ number, m.Asks number) :
    ¬m.Announces := by
  intro announces
  rcases still _ announces.deed with same | ⟨number,asks⟩
  · exact announces.sent (congrArg (·.session.channel.outbox) same)
  · cases announces.deed.symm.trans asks.deed

end Moment

structure Accepted (m : Moment) (future : List Moment) (i : Inboxes) (legend : Wire.TokenLegend) :
    Prop where
  greeted : m.after.admitted = some (i,.greeted)
  returned : m.after.returned = m.before.returned
  stage : m.after.session.stage = .initialized
  kept : ∀ n ∈ m :: future, n.after.session.bridge.legend = some legend
  announces : m.after.session.channel.outbox.abandoned = false →
    Moment.Announces ⟨m.after,.go .announce,m.after.step (.go .announce)⟩ ∧
    ∃ group, (m.after.go [.announce,.launch]).admitted = some (i,.hooks group) ∧
      group.Complete m.after.session.hooks.length

theorem Call.poll_ready {call : Call} {c : Channel} {r : Response}
    (ready : c.pending.poll call.handle = .ready r) (now : Nat) (fired : List String) :
    call.poll c now fired = (c.setPending (c.pending.collect call.handle),some r.concluded) := by
  cases result : r.outcome <;> simp [poll,ready,Response.concluded,result,Except.mapError]

namespace Attachment

variable {a b : Attachment} {d : Deed} {past : List Moment} {i : Inboxes} {call : Call} {r : Response}

def Early (a : Attachment) : Prop :=
  a.session.stage = .uninitialized ∨ a.session.stage = .initializing

theorem Standing.unset (standing : Standing past a) (early : a.Early) :
    a.session.bridge.legend = none := by
  cases admitted : a.admitted with
  | none =>
    rcases early with fresh | asking
    · exact (standing.unasked fresh).2.1
    · rcases standing.idle admitted with stage | stage <;> simp [stage] at asking
  | some entry =>
    have poised := standing.poised entry.1 entry.2 admitted
    have asking : entry.2.stage = .initializing := by
      rw [← poised.stage]
      exact early.resolve_left fun fresh => entry.2.begun (poised.stage.symm.trans fresh)
    simpa [asking] using poised.legend

/-- What leaves a session early found it early. -/
theorem Turn.early (turn : a.Turn d b) (standing : Standing past a) (early : b.Early) : a.Early := by
  have leads := turn.leads standing.stage
  unfold Early at early ⊢
  generalize a.session.stage = before at leads ⊢
  generalize b.session.stage = after at leads early
  cases leads <;> simp_all

structure Spent (a : Attachment) : Prop where
  idle : a.admitted = none
  stopped : a.session.stage = .stopped
  unset : a.session.bridge.legend = none

theorem Spent.turn (spent : a.Spent) (turn : a.Turn d b) : b.Spent ∧ Moment.Barren ⟨a,d,b⟩ := by
  have stays : b.admitted = none ∧ b.session.stage = .stopped ∧ b.session.bridge.legend = none ∧
      a.session.hooks <+: b.session.hooks := by
    cases d with
    | start =>
      cases turn with
      | refused => exact ⟨spent.idle,spent.stopped,spent.unset,List.prefix_rfl⟩
      | claimed fresh => cases spent.stopped.symm.trans fresh
      | aside other => cases other
    | _ =>
      obtain ⟨idle,_,spares⟩ := turn.of_idle spent.idle (by simp)
      exact ⟨idle,spares.keeps.stage.trans spent.stopped,spares.keeps.legend.trans spent.unset,
        spares.keeps.hooks⟩
  obtain ⟨idle,stopped,unset,hooks⟩ := stays
  have still : ∀ stride, d = .go stride → b = a ∨ ∃ number, Moment.Asks ⟨a,d,b⟩ number := by
    rintro stride rfl
    cases turn with
    | aside other => cases other
    | still => exact .inl rfl
    | failed _ _ admitted => cases spent.idle.symm.trans admitted
    | finished admitted => cases spent.idle.symm.trans admitted
    | _ => cases idle
  exact ⟨⟨idle,stopped,unset⟩,by simp [stopped],unset,hooks,still,Moment.silent_of_still still⟩

theorem Spent.chronicle (spent : a.Spent) (detached : a.client.Detached) (deeds : List Deed) :
    ∀ n ∈ a.chronicle deeds, n.Barren ∧ n.after.session.stage = .stopped := by
  induction deeds generalizing a with
  | nil => simp [Attachment.chronicle]
  | cons d deeds ih =>
    have turn := step_turn detached d
    obtain ⟨next,barren⟩ := spent.turn turn
    intro n member
    rcases List.mem_cons.mp member with rfl | later
    · exact ⟨barren,next.stopped⟩
    · exact ih next (turn.detached detached) n later

/-- A legend that was learned stays. -/
theorem Standing.keeps {legend : Wire.TokenLegend} (standing : Standing past a) (grounded : a.Grounded)
    (learned : a.session.bridge.legend = some legend) (deeds : List Deed) :
    ∀ n ∈ a.chronicle deeds, n.after.session.bridge.legend = some legend := by
  induction deeds generalizing past a with
  | nil => simp [chronicle]
  | cons d deeds ih =>
    have turn := step_turn grounded.detached d
    have kept : (a.step d).session.bridge.legend = some legend := by
      rcases standing.legend_turn turn with same | ⟨unset,_⟩
      · exact same.trans learned
      · cases unset.symm.trans learned
    intro n member
    rcases List.mem_cons.mp member with rfl | later
    · exact kept
    · exact ih (standing.turn grounded turn) (grounded.turn turn) kept n later

theorem hear_declared {legend : Wire.TokenLegend}
    (ready : a.session.channel.pending.poll call.handle = .ready r) (declares : r.Declares legend) :
    a.hear i call = a.proceed i { a.session with
      channel := a.session.channel.setPending (a.session.channel.pending.collect call.handle)
      bridge := a.session.bridge.setLegend legend
      stage := .initialized } .greeted := by
  simp only [hear,call.poll_ready ready,declares.legendIn]

/-- The server is told, and the hooks start, as long as anything can be sent. -/
theorem greeted_proceeds (greeted : a.admitted = some (i,.greeted))
    (taking : a.session.channel.outbox.abandoned = false) :
    Moment.Announces ⟨a,.go .announce,a.step (.go .announce)⟩ ∧
    ∃ group, (a.go [.announce,.launch]).admitted = some (i,.hooks group) ∧
      group.Complete a.session.hooks.length := by
  obtain ⟨gone,_⟩ | ⟨o,_,_,sent⟩ := a.session.channel.send_cases
    (.notification (.new Method.handshakeDone (some (.obj []))))
  · cases taking.symm.trans gone
  have told : a.step (.go .announce) = a.proceed i
      { a.session with channel := { a.session.channel with outbox := o } } .announced := by
    rw [step_go greeted]
    simp only [advance,announce,Channel.notify,sent]
  refine ⟨⟨rfl,?_⟩,?_⟩
  · rw [told]
    intro same
    have grown := congrArg (·.outbox.queue) (Channel.send_ok sent)
    simp [← same] at grown
  · rw [go,List.map_cons,run_cons,told,List.map_cons,run_cons,step_go (admitted_proceed _ _ _ _)]
    exact ⟨_,rfl,HookGroup.complete_start _ _ _ _⟩

theorem accepted {profile : Profile} {link : Option Link} {early late : List Deed}
    {legend : Wire.TokenLegend} (hears : Moment.Hears ⟨a,d,a.step d⟩ i call r)
    (run : a = (opening profile link).run early) (declares : r.Declares legend) :
    Accepted ⟨a,d,a.step d⟩ ((a.step d).chronicle late) i legend := by
  obtain ⟨grounded,standing⟩ := run_standing profile link early
  rw [← run] at grounded standing
  obtain rfl : d = .go .hear := hears.deed
  have admitted : a.admitted = some (i,.handshake call) := hears.admitted
  have turn := step_turn grounded.detached (.go .hear)
  have poised := standing.poised i _ admitted
  have heard := (step_go admitted .hear).trans (hear_declared hears.ready declares)
  have greeted : (a.step (.go .hear)).admitted = some (i,.greeted) := congrArg (·.admitted) heard
  have known : (a.step (.go .hear)).session.bridge.legend = some legend := by
    rw [heard]
    exact (poised.hears hears.ready declares.legendIn).2
  refine ⟨greeted,congrArg (·.returned) heard,congrArg (·.session.stage) heard,?_,
    greeted_proceeds greeted⟩
  intro n member
  rcases List.mem_cons.mp member with rfl | later
  · exact known
  · exact (standing.turn grounded turn).keeps (grounded.turn turn) known late n later

end Attachment

end LanguageBridge
