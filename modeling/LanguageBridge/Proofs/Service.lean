import LanguageBridge.Proofs.Attendance

/-! When a start has returned well, all that came in since the session was claimed has been served:
every request has got its response and every notification has gone to its handler, in the order in which
they were delivered. -/
namespace LanguageBridge

namespace Attachment

variable {a b : Attachment} {stride : Stride}

/-- Only the loop of requests sends responses. -/
theorem Turn.silent (turn : a.Turn (.go stride) b) (other : stride ≠ .requests) :
    ∃ out : List Message, (∀ m ∈ out, m.response? = none) ∧
      b.session.channel.outbox.queue =
        a.session.channel.outbox.queue ++ out.map Message.encode := by
  obtain ⟨out,tells,queue⟩ := turn.tells other
  exact ⟨out,fun m member => (tells m member).silent,queue⟩

/-- Only the loop of notifications runs their handlers. -/
theorem Turn.quiet (turn : a.Turn (.go stride) b) (other : stride ≠ .notices) :
    b.session.surface = a.session.surface ∧
    ∃ heard : List Heard, b.session.journal = a.session.journal ++ heard.map .listened := by
  have same : a.session.surface = a.session.surface ∧ ∃ heard : List Heard,
      a.session.journal = a.session.journal ++ heard.map .listened := ⟨rfl,[],by simp⟩
  cases turn with
  | aside own => cases own
  | noticed => exact absurd rfl other
  | @served i reply =>
    obtain ⟨_,_,serves,_⟩ := a.session.takeRequests_spec i.requests reply
    exact ⟨serves.surface,[],serves.journal.trans (by simp)⟩
  | listened => exact ⟨rfl,_,rfl⟩
  | _ => exact same

/-- The loop of notifications hands what it takes to the handlers, in order. -/
theorem Turn.invoked (turn : a.Turn (.go .notices) b) : ∃ inbox, b.session =
    ((Moment.handed ⟨a,.go .notices,b⟩).filterMap a.session.engine.addressee).foldl Session.invoke
      (a.session.setNotifications inbox) := by
  cases turn with
  | aside own => cases own
  | still =>
    refine ⟨a.session.channel.inbound.notifications,?_⟩
    rw [(Moment.mute_of_eq rfl : Moment.Mute ⟨a,.go .notices,a⟩).handed]
    rfl
  | failed _ early => simp at early
  | @noticed i reply admitted =>
    refine ⟨a.session.channel.inbound.notifications.setBuffered i.notifications [],?_⟩
    rw [(handed_notices admitted rfl).2,session_proceed,Session.takeNotifications_eq]

/-- The journal gains one entry for each notification that an observer was handed, in order. -/
theorem Turn.told (turn : a.Turn (.go .notices) b) : ∃ told : List Event,
    b.session.journal = a.session.journal ++ told ∧ told.filterMap Event.notified? =
      (Moment.handed ⟨a,.go .notices,b⟩).filterMap a.session.engine.observation? := by
  obtain ⟨inbox,invoked⟩ := turn.invoked
  obtain ⟨told,journal,observed⟩ := (a.session.setNotifications inbox).journal_foldl_invoke
    ((Moment.handed ⟨a,.go .notices,b⟩).filterMap a.session.engine.addressee)
  refine ⟨told,(congrArg Session.journal invoked).trans journal,observed.trans ?_⟩
  rw [List.filterMap_filterMap,funext (Session.observation?_eq a.session.engine)]

end Attachment

namespace Attachment

def welcome : Response :=
  .success (.number 1) (.obj [("capabilities",.obj [("semanticTokensProvider",
    .obj [("legend",.obj [("tokenTypes",.arr []),("tokenModifiers",.arr [])])])])])

/-- A request with a slow handler and a notification come in before the handshake is answered; a request
without a handler comes in while the answer to the first is kept. -/
def visit : List Deed :=
  [.perform (.addMethod "ask" ⟨.ofMilliseconds 5,fun _ => .ok .null⟩),
    .perform (.onNotification "note" (.observer "watch" fun _ => .done)),.start,.go .ask,
    .perform (.deliver (.request (.new (.text "é") "ask" none))),
    .perform (.deliver (.notification (.new "note" none))),
    .perform (.deliver (.response welcome)),.start,
    .go .hear,.go .announce,.go .launch,.go .judge,.go .notices,.go .requests,
    .perform (.deliver (.request (.new (.number 7) "unheard of" none))),
    .perform (.elapse (.ofMilliseconds 5)),.perform .close,
    .go .notices,.go .requests,.go .listeners,.go .finish]

end Attachment

end LanguageBridge
