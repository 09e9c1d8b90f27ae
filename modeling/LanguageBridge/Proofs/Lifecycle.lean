import LanguageBridge.Proofs.Standing

/-! The life of a session: who is let in, where the legend comes from, when the server is told, when
hooks start, and when a start returns. -/
namespace LanguageBridge

structure Ordered (past : List Moment) (m : Moment) : Prop where
  forward : m.before.session.stage.Leads m.after.session.stage
  admitted : m.deed = .start → (∀ e ∈ past, e.deed ≠ .start) →
    m.before.session.stage = .uninitialized ∧ m.after.session.stage = .initializing ∧
      (∃ i, m.after.admitted = some (i,.claimed)) ∧ m.after.returned = m.before.returned
  refused : m.deed = .start → (∃ e ∈ past, e.deed = .start) →
    m.after = { m.before with
      returned := m.before.returned ++ [.error (.handshake "session already started")] }
  legend : m.after.session.bridge.legend = m.before.session.bridge.legend ∨
    m.before.session.bridge.legend = none ∧ m.deed = .go .hear ∧
      ∃ legend, m.after.session.bridge.legend = some legend ∧ Learned past legend
  known : m.after.session.stage = .initialized ∨ m.after.session.stage = .running →
    m.after.session.bridge.legend.isSome
  announced : m.Announces → (∀ e ∈ past, ¬e.Announces) ∧
    (∃ legend, m.before.session.bridge.legend = some legend ∧ Learned past legend) ∧
    m.after.session.channel.outbox.queue = m.before.session.channel.outbox.queue ++
      [(Message.notification (.new "initialized" (some (.obj [])))).encode]
  untold : m.deed.isOwn = true → ¬m.Announces → ∃ out : List Message,
    m.after.session.channel.outbox.queue =
      m.before.session.channel.outbox.queue ++ out.map Message.encode ∧
    ∀ n, .notification n ∈ out → n.method = "initialized" →
      .notify "initialized" n.params ∈ m.before.agenda
  hooks : m.before.session.hooks <+: m.after.session.hooks ∨
    m.deed = .go .launch ∧ ∃ e ∈ past, e.Announces
  tended : ∀ i group, m.before.admitted = some (i,.hooks group) → Launched past group
  running : m.before.session.stage ≠ .running → m.after.session.stage = .running →
    ∃ i group, m.before.admitted = some (i,.hooks group) ∧
      ∃ launch ∈ past, launch.deed = .go .launch ∧
        (∃ j started, launch.after.admitted = some (j,.hooks started) ∧
          Relation.ReflTransGen HookGroup.Tended started group) ∧
        group.members = launch.before.session.hooks.map fun _ => .finished
  returned : m.after.returned = m.before.returned ∨
    (∃ e, m.after.returned = m.before.returned ++ [.error e]) ∨
    m.after.returned = m.before.returned ++ [.ok ()] ∧ m.before.session.stage = .running ∧
      m.before.session.channel.inbound.requests.closed = true ∧
      m.before.session.channel.inbound.notifications.closed = true ∧
      m.before.session.channel.pending.closed = true

namespace Attachment

variable {a b : Attachment} {d : Deed} {past : List Moment}

/-- A legend comes from an answer to the handshake only. -/
theorem Standing.legend_turn (standing : Standing past a) (turn : a.Turn d b) :
    b.session.bridge.legend = a.session.bridge.legend ∨
    a.session.bridge.legend = none ∧ d = .go .hear ∧
      ∃ legend, b.session.bridge.legend = some legend ∧ Learned past legend := by
  cases turn with
  | aside _ _ _ spares => exact .inl spares.keeps.legend
  | heard admitted ready read =>
    have poised := standing.poised _ _ admitted
    have unset : a.session.bridge.legend = none := by
      simpa [Point.stage] using poised.legend
    obtain ⟨learned,kept⟩ := poised.hears ready read
    exact .inr ⟨unset,rfl,_,kept,learned⟩
  | @noticed i reply admitted =>
    exact .inl (congrArg Bridge.legend (a.session.takeNotifications_alike i.notifications).bridge)
  | @served i reply admitted => exact .inl (congrArg Bridge.legend (a.serve_alike i reply).bridge)
  | _ => exact .inl rfl

/-- Nothing but the announcement says that the handshake is done, unless a hook itself does. -/
theorem Turn.untold (turn : a.Turn d b) (own : d.isOwn = true) (other : ¬Moment.Announces ⟨a,d,b⟩) :
    ∃ out : List Message,
      b.session.channel.outbox.queue = a.session.channel.outbox.queue ++ out.map Message.encode ∧
      ∀ n, .notification n ∈ out → n.method = "initialized" →
        .notify "initialized" n.params ∈ a.agenda := by
  by_cases same : b.session.channel.outbox = a.session.channel.outbox
  · exact ⟨[],by simp [same],by simp⟩
  cases d with
  | start =>
    cases turn with
    | aside other => cases other
    | _ => exact absurd rfl same
  | go stride =>
    by_cases serving : stride = .requests
    · subst serving
      obtain ⟨out,responses,queue⟩ := turn.responds
      refine ⟨out,queue,fun n member _ => ?_⟩
      obtain ⟨r,response⟩ := responses _ member
      cases response
    · obtain ⟨out,tells,queue⟩ := turn.tells serving
      refine ⟨out,queue,fun n member named => ?_⟩
      rcases tells _ member with ⟨announce,_⟩ | gives | ⟨method,params,rfl,step⟩
      · exact absurd ⟨congrArg Deed.go announce,same⟩ other
      · exact absurd (gives.symm.trans named) (by decide)
      · obtain rfl : method = "initialized" := named
        exact step
  | _ => cases own

theorem Standing.hooks_turn (standing : Standing past a) (turn : a.Turn d b) :
    a.session.hooks <+: b.session.hooks ∨ d = .go .launch ∧ ∃ e ∈ past, e.Announces := by
  cases turn with
  | aside _ _ _ spares => exact .inl spares.keeps.hooks
  | launched admitted => exact .inr ⟨rfl,(standing.poised _ _ admitted).told.mpr rfl⟩
  | @noticed i reply admitted =>
    exact .inl ((a.session.takeNotifications_alike i.notifications).hooks ▸ List.prefix_rfl)
  | @served i reply admitted => exact .inl ((a.serve_alike i reply).hooks ▸ List.prefix_rfl)
  | _ => exact .inl List.prefix_rfl

/-- A session runs when all its hooks have finished. -/
theorem Standing.running_turn (standing : Standing past a) (turn : a.Turn d b)
    (before : a.session.stage ≠ .running) (after : b.session.stage = .running) :
    ∃ i group, a.admitted = some (i,.hooks group) ∧
      ∃ launch ∈ past, launch.deed = .go .launch ∧
        (∃ j started, launch.after.admitted = some (j,.hooks started) ∧
          Relation.ReflTransGen HookGroup.Tended started group) ∧
        group.members = launch.before.session.hooks.map fun _ => .finished := by
  cases turn with
  | judged admitted passed =>
    obtain ⟨told,launch,order,_,deed,complete,lineage⟩ :=
      (standing.poised _ _ admitted).launched _ rfl
    have member : launch ∈ past := order.subset (by simp)
    exact ⟨_,_,admitted,launch,member,deed,lineage,complete.finished passed⟩
  | aside _ _ _ spares => exact absurd (spares.keeps.stage.symm.trans after) before
  | @noticed i reply admitted =>
    exact absurd ((a.session.takeNotifications_alike i.notifications).stage.symm.trans after) before
  | @served i reply admitted => exact absurd ((a.serve_alike i reply).stage.symm.trans after) before
  | claimed => cases after
  | heard => cases after
  | failed => cases after
  | finished => cases after
  | _ => exact absurd after before

/-- A start returns well when it was running and nothing can come in any more. -/
theorem Standing.returned_turn (standing : Standing past a) (grounded : a.Grounded)
    (turn : a.Turn d b) : b.returned = a.returned ∨
      (∃ e, b.returned = a.returned ++ [.error e]) ∨
      b.returned = a.returned ++ [.ok ()] ∧ a.session.stage = .running ∧
        a.session.channel.inbound.requests.closed = true ∧
        a.session.channel.inbound.notifications.closed = true ∧
        a.session.channel.pending.closed = true := by
  cases turn with
  | refused => exact .inr (.inl ⟨_,rfl⟩)
  | aside _ _ returned _ => exact .inl returned
  | failed => exact .inr (.inl ⟨_,rfl⟩)
  | @finished i reply admitted drained =>
    have poised := standing.poised _ _ admitted
    have ended : a.session.channel.inbound.notifications.isOver i.notifications = true := by
      simp only [Session.drained,Fanout.isSpent,Bool.and_eq_true] at drained
      exact drained.1.1.1
    have shut : a.session.channel.inbound.notifications.closed = true := by
      rcases poised.tuned with subscribed | shut
      · exact Fanout.closed_of_isOver subscribed ended
      · exact shut
    have requests : a.session.channel.inbound.requests.closed = true :=
      grounded.together.notifications.symm.trans shut
    exact .inr (.inr ⟨rfl,poised.stage,requests,shut,grounded.together.pending.trans requests⟩)
  | _ => exact .inl rfl

theorem Standing.known (standing : Standing past a)
    (late : a.session.stage = .initialized ∨ a.session.stage = .running) :
    a.session.bridge.legend.isSome = true := by
  cases admitted : a.admitted with
  | none => rcases standing.idle admitted with stage | stage <;> simp [stage] at late
  | some entry =>
    have poised := standing.poised entry.1 entry.2 admitted
    rw [poised.legend,← poised.stage]
    rcases late with stage | stage <;> simp [stage]

theorem Standing.ordered (standing : Standing past a) (grounded : a.Grounded) (turn : a.Turn d b) :
    Ordered past ⟨a,d,b⟩ where
  forward := turn.leads standing.stage
  admitted := by
    rintro rfl first
    have fresh := standing.fresh.mpr first
    cases turn with
    | refused begun => exact absurd fresh begun
    | claimed => exact ⟨fresh,rfl,⟨_,rfl⟩,rfl⟩
    | aside other => cases other
  refused := by
    rintro rfl ⟨e,member,start⟩
    cases turn with
    | refused => rfl
    | claimed fresh => exact absurd start (standing.fresh.mp fresh e member)
    | aside other => cases other
  legend := standing.legend_turn turn
  known := (standing.turn grounded turn).known
  announced := by
    intro announces
    obtain ⟨i,channel,admitted,sent,rfl⟩ := turn.announces announces
    have poised := standing.poised _ _ admitted
    obtain ⟨legend,known⟩ := Option.isSome_iff_exists.mp poised.legend
    refine ⟨fun e member earlier => ?_,⟨legend,known,poised.learned legend known⟩,
      by rw [Channel.send_ok sent]; rfl⟩
    cases poised.told.mp ⟨e,member,earlier⟩
  untold := turn.untold
  hooks := standing.hooks_turn turn
  tended i group admitted := (standing.poised i _ admitted).launched group rfl
  running := standing.running_turn turn
  returned := standing.returned_turn grounded turn

end Attachment

/-- The life of a session in a run: it begins with nothing, every moment is in order, and starting it
or looking after it in one go is a course of its strides. -/
structure Orderly (start : Attachment) (deeds : List Deed) : Prop where
  opening : start.session.stage = .uninitialized ∧ start.session.bridge.legend = none ∧
    start.returned = []
  moments : ∀ past m future, start.chronicle deeds = past ++ m :: future → Ordered past m
  entered : (start.run deeds).enter = (start.run deeds).run
    (if (start.run deeds).session.stage = .uninitialized then [.start,.go .ask] else [.start])
  looked : ∀ i phase, (start.run deeds).admitted = some (i,.ofPhase phase) →
    (start.run deeds).look ⟨i,phase⟩ = (start.run deeds).go phase.course

/-- Every run of a session is in order, with any starts, hooks and traffic. -/
theorem Attachment.run_orderly (profile : Profile) (link : Option Link) (deeds : List Deed) :
    Orderly (opening profile link) deeds where
  opening := ⟨rfl,rfl,rfl⟩
  moments := by
    intro past m future split
    obtain ⟨early,d,rfl,rfl⟩ := chronicle_split split
    obtain ⟨grounded,standing⟩ := run_standing profile link early
    exact standing.ordered grounded (step_turn grounded.detached d)
  entered := by
    obtain ⟨_,standing⟩ := run_standing profile link deeds
    split
    next fresh => exact enter_claims fresh (standing.unasked fresh).1
    next begun => exact enter_refused begun
  looked _ _ := look_eq

end LanguageBridge
