import LanguageBridge.Proofs.Arrangement
import LanguageBridge.Proofs.Refusal

/-! What a result does to a client. It ends its own query in the way of the capability that was asked,
readable or not, and nothing else of the client changes. -/
namespace LanguageBridge

@[simp] theorem Reads.bool_ok {j : Json} {b : Bool} : bool j = .ok b ↔ j = .bool b := by
  cases j <;> simp [bool]

/-- What holds of something, but of nothing else than `a`, holds of `a`. -/
theorem iff_of_unique {α : Type} {p : α → Prop} {a : α} (sound : ∀ {b}, p b → a = b) (total : ∃ b, p b)
    {b : α} : p b ↔ a = b := by
  obtain ⟨c,held⟩ := total
  exact ⟨sound,fun same => same ▸ sound held ▸ held⟩

namespace Query

/-- A capability that passes a result on: null stands for nothing, what can be read is shown, and the
rest is an error in the name of the capability. -/
inductive Passed {α : Type} (tag : String) (read : Reads α) (shown : Option α → Answer) :
    Json → Except BridgeError Answer → Prop where
  | null : Passed tag read shown .null (.ok (shown none))
  | readable {v : Json} {a : α} (own : read v = .ok a) : Passed tag read shown v (.ok (shown (some a)))
  | unreadable {v : Json} {e : ReadError} (solid : v ≠ .null) (failed : read v = .error e) :
      Passed tag read shown v (.error (.conversion tag e.message))

inductive Completed : Json → Editor.CompletionList → Prop where
  | null : Completed .null ⟨false,[]⟩
  | items {v : Json} {items : List Wire.CompletionItem}
      (own : Reads.list Wire.CompletionItem.read v = .ok items) :
      Completed v ⟨false,items.map Wire.CompletionItem.toEditor⟩
  | list {v : Json} {l : Wire.CompletionList} (own : Wire.CompletionList.read v = .ok l) :
      Completed v ⟨l.incomplete,l.items.map Wire.CompletionItem.toEditor⟩
  | other {v : Json} (solid : v ≠ .null) (unlisted : Reads.Refuses (.list Wire.CompletionItem.read) v)
      (unread : Reads.Refuses Wire.CompletionList.read v) : Completed v ⟨false,[]⟩

@[mk_iff] structure Suggests (v : Json) (range : Wire.Range) (text : String) : Prop where
  range : ∃ j, v.get? "range" = some j ∧ Wire.Range.read j = .ok range
  placeholder : v.get? "placeholder" = some (.str text)

def Defers (v : Json) : Prop := ∃ b, v.get? "defaultBehavior" = some (.bool b)

inductive Prepared (v : Json) : Editor.RenameLocation → Prop where
  | placeholder {range : Wire.Range} {text : String} (own : Suggests v range text) :
      Prepared v (.accepted text range.toEditor)
  | bare {range : Wire.Range} (own : Wire.Range.read v = .ok range)
      (plain : ∀ other text, ¬Suggests v other text) (decided : ¬Defers v) :
      Prepared v (.accepted "" range.toEditor)
  | other (plain : ∀ other text, ¬Suggests v other text)
      (unusable : Defers v ∨ Reads.Refuses Wire.Range.read v) : Prepared v .rejected

/-- What an editor gets to know when a query is answered. An error of the server reaches it, unless it
asked what to rename. -/
inductive Concludes : Query → Except ResponseError Json → Except BridgeError Answer → Prop where
  | documentSymbols {d : Editor.Document} {v : Json} {result : Except BridgeError Answer}
      (passed : Passed "documentSymbol" Wire.DocumentSymbols.read
        (fun r => .documentSymbols ((r.map Wire.DocumentSymbols.toEditor).getD [])) v result) :
      Concludes (.documentSymbols d) (.ok v) result
  | formatting {d : Editor.Document} {options : Wire.FormattingOptions} {v : Json}
      {result : Except BridgeError Answer}
      (passed : Passed "formatting" (.list Wire.TextEdit.read)
        (fun r => .formatting ((r.getD []).map Wire.TextEdit.toEditor)) v result) :
      Concludes (.formatting d options) (.ok v) result
  | rename {d : Editor.Document} {p : Editor.Position} {newName : String} {v : Json}
      {result : Except BridgeError Answer}
      (passed : Passed "rename" Wire.WorkspaceEdit.read
        (fun r => .rename ((r.map Wire.WorkspaceEdit.toEditor).getD ⟨[]⟩)) v result) :
      Concludes (.rename d p newName) (.ok v) result
  | hover {d : Editor.Document} {p : Editor.Position} {v : Json} {result : Except BridgeError Answer}
      (passed : Passed "hover" Wire.Hover.read (fun r => .hover (r.map Wire.Hover.toEditor)) v result) :
      Concludes (.hover d p) (.ok v) result
  | semanticTokens {d : Editor.Document} {v : Json} {result : Except BridgeError Answer}
      (passed : Passed "semanticTokens" Wire.Tokens.read
        (fun r => .semanticTokens ((r.map Wire.Tokens.toEditor).getD ⟨none,[]⟩)) v result) :
      Concludes (.semanticTokens d) (.ok v) result
  | completion {d : Editor.Document} {p : Editor.Position} {v : Json} {list : Editor.CompletionList}
      (completed : Completed v list) : Concludes (.completion d p) (.ok v) (.ok (.completion list))
  | prepareRename {d : Editor.Document} {p : Editor.Position} {v : Json} {location : Editor.RenameLocation}
      (prepared : Prepared v location) : Concludes (.prepareRename d p) (.ok v) (.ok (.prepareRename location))
  | refused {d : Editor.Document} {p : Editor.Position} {e : ResponseError} :
      Concludes (.prepareRename d p) (.error e) (.ok (.prepareRename .rejected))
  | failed {q : Query} {e : ResponseError} (other : ∀ d p, q ≠ .prepareRename d p) :
      Concludes q (.error e) (.error (.call (.server e.code e.message)))

theorem passed_iff {α : Type} {tag : String} {read : Reads α} {shown : Option α → Answer} {v : Json}
    {result : Except BridgeError Answer} (refuses : Reads.Refuses read .null) :
    Passed tag read shown v result ↔ (readResult tag read v).map shown = result := by
  have sound : ∀ {result}, Passed tag read shown v result → (readResult tag read v).map shown = result := by
    intro result passed
    cases passed with
    | null => rfl
    | readable own => simp [readResult,Reads.nullable_some refuses own,Except.map]
    | unreadable solid failed => simp [readResult,Reads.nullable_of_ne solid,failed,Except.map]
  have total : ∃ result, Passed tag read shown v result := by
    by_cases null : v = .null
    · subst null
      exact ⟨_,.null⟩
    · cases given : read v with
      | ok a => exact ⟨_,.readable given⟩
      | error e => exact ⟨_,.unreadable null given⟩
  exact iff_of_unique sound total

/-- The first item of an array that is a list of completions is a truth value. -/
theorem items_refused {v : Json} {l : Wire.CompletionList} (own : Wire.CompletionList.read v = .ok l) :
    Reads.Refuses (.list Wire.CompletionItem.read) v := by
  intro items listed
  cases v with
  | arr js =>
    obtain ⟨b,rest,rfl⟩ : ∃ b rest, js = .bool b :: rest := by
      rw [Wire.CompletionList.read,Reads.record_arr] at own
      simp only [Wire.CompletionList.fields,Fields.ofItems_seq,Fields.ofItems_map,
        Fields.ofItems_required,Reads.bool_ok] at own
      obtain ⟨_,rest,⟨b,⟨_,items,rfl⟩,_⟩,_⟩ := own
      exact ⟨b,rest,items⟩
    have each : (Json.bool b :: rest).map Wire.CompletionItem.read = items.map .ok := Reads.mapM_ok.mp listed
    cases items with
    | nil => cases each
    | cons item items => exact absurd (List.cons.inj each).1 (by simp [Wire.CompletionItem.read,Reads.record])
  | _ => cases listed

theorem completions_of_read {v : Json} {c : Wire.Completions} (given : Wire.Completions.read v = .ok c) :
    completions v = c.toEditor := by
  simp [completions,Reads.nullable_some (Reads.refuses_of_error rfl) given]

theorem completions_of_refused {v : Json} (refused : Reads.Refuses Wire.Completions.read v) :
    completions v = ⟨false,[]⟩ := by
  rw [completions]
  split
  next c given => exact absurd (Reads.nullable_ok_some.mp given).2 (refused c)
  next => rfl

theorem completed_iff {v : Json} {list : Editor.CompletionList} :
    Completed v list ↔ completions v = list := by
  have sound : ∀ {list}, Completed v list → completions v = list := by
    intro list completed
    cases completed with
    | null => rfl
    | @items _ items own =>
      have given : Wire.Completions.read v = .ok (.items items) := by simp [Wire.Completions.read,own]
      exact completions_of_read given
    | @list _ l own =>
      have given : Wire.Completions.read v = .ok (.list l) := by
        simp [Wire.Completions.read,items_refused own,own]
      exact completions_of_read given
    | other solid unlisted unread =>
      apply completions_of_refused
      simp [Wire.Completions.read,unlisted,unread]
  have total : ∃ list, Completed v list := by
    by_cases null : v = .null
    · subst null
      exact ⟨_,.null⟩
    · cases listed : Reads.list Wire.CompletionItem.read v with
      | ok items => exact ⟨_,.items listed⟩
      | error e =>
        cases read : Wire.CompletionList.read v with
        | ok l => exact ⟨_,.list read⟩
        | error f => exact ⟨_,.other null (Reads.refuses_of_error listed) (Reads.refuses_of_error read)⟩
  exact iff_of_unique sound total

theorem placeholder_ok {v : Json} {r : Wire.RenamePreparation} :
    Reads.named "PrepareRenameResponse" Wire.RenamePreparation.placeholderFields v = .ok r ↔
      ∃ range text, Suggests v range text ∧ r = .placeholder range text := by
  cases v with
  | obj members =>
    simp only [Reads.named,Fields.readMembers_ok,Wire.RenamePreparation.placeholderFields,
      Fields.ofMembers_seq,Fields.ofMembers_map,Fields.ofMembers_required,Reads.string_ok,suggests_iff,
      Json.get?]
    constructor
    · rintro ⟨_,text,⟨range,found,rfl⟩,⟨_,placed,rfl⟩,rfl⟩
      exact ⟨range,text,⟨found,placed⟩,rfl⟩
    · rintro ⟨range,text,⟨found,placed⟩,rfl⟩
      exact ⟨_,text,⟨range,found,rfl⟩,⟨_,placed,rfl⟩,rfl⟩
  | _ => simp [Reads.named,suggests_iff,Json.get?]

theorem standard_ok {v : Json} {r : Wire.RenamePreparation} :
    Reads.named "PrepareRenameResponse" Wire.RenamePreparation.standardFields v = .ok r ↔
      ∃ b, v.get? "defaultBehavior" = some (.bool b) ∧ r = .standard b := by
  cases v <;> simp [Reads.named,Wire.RenamePreparation.standardFields,Json.get?]

theorem placeholder_refused {v : Json} (plain : ∀ range text, ¬Suggests v range text) : Reads.Refuses
    (.named "PrepareRenameResponse" Wire.RenamePreparation.placeholderFields) v := by
  intro r given
  obtain ⟨range,text,own,_⟩ := placeholder_ok.mp given
  exact plain range text own

theorem standard_refused {v : Json} (decided : ¬Defers v) : Reads.Refuses
    (.named "PrepareRenameResponse" Wire.RenamePreparation.standardFields) v := by
  intro r given
  obtain ⟨b,own,_⟩ := standard_ok.mp given
  exact decided ⟨b,own⟩

theorem renameLocation_of_read {v : Json} {r : Wire.RenamePreparation}
    (given : Wire.RenamePreparation.read v = .ok r) : renameLocation v = r.toEditor := by
  simp [renameLocation,Reads.nullable_some (Reads.refuses_of_error rfl) given]

theorem renameLocation_of_refused {v : Json} (refused : Reads.Refuses Wire.RenamePreparation.read v) :
    renameLocation v = .rejected := by
  rw [renameLocation]
  split
  next r given => exact absurd (Reads.nullable_ok_some.mp given).2 (refused r)
  next => rfl

theorem prepared_iff {v : Json} {location : Editor.RenameLocation} :
    Prepared v location ↔ renameLocation v = location := by
  have sound : ∀ {location}, Prepared v location → renameLocation v = location := by
    intro location prepared
    cases prepared with
    | @placeholder range text own =>
      have given : Wire.RenamePreparation.read v = .ok (.placeholder range text) :=
        Reads.choice_ok.mpr (.inl (placeholder_ok.mpr ⟨range,text,own,rfl⟩))
      exact renameLocation_of_read given
    | @bare range own plain decided =>
      have given : Wire.RenamePreparation.read v = .ok (.bare range) := by
        simp [Wire.RenamePreparation.read,placeholder_refused plain,standard_refused decided,own]
      exact renameLocation_of_read given
    | other plain unusable =>
      by_cases defers : Defers v
      · obtain ⟨b,own⟩ := defers
        have given : Wire.RenamePreparation.read v = .ok (.standard b) := by
          simp [Wire.RenamePreparation.read,placeholder_refused plain,standard_ok,own]
        exact renameLocation_of_read given
      · have ranged := unusable.resolve_left defers
        apply renameLocation_of_refused
        simp [Wire.RenamePreparation.read,placeholder_refused plain,standard_refused defers,ranged]
  have total : ∃ location, Prepared v location := by
    by_cases suggests : ∃ range text, Suggests v range text
    · obtain ⟨range,text,own⟩ := suggests
      exact ⟨_,.placeholder own⟩
    simp only [not_exists] at suggests
    by_cases defers : Defers v
    · exact ⟨_,.other suggests (.inl defers)⟩
    cases given : Wire.Range.read v with
    | ok range => exact ⟨_,.bare given suggests defers⟩
    | error e => exact ⟨_,.other suggests (.inr (Reads.refuses_of_error given))⟩
  exact iff_of_unique sound total

/-- Every query is concluded in exactly one way, and this is how. -/
theorem concludes_iff {q : Query} {outcome : Except ResponseError Json}
    {result : Except BridgeError Answer} :
    q.Concludes outcome result ↔ q.conclude (outcome.mapError .ofResponse) = result := by
  constructor
  · intro concludes
    cases concludes with
    | documentSymbols passed => exact (passed_iff (Reads.refuses_of_error rfl)).mp passed
    | formatting passed => exact (passed_iff (Reads.refuses_of_error rfl)).mp passed
    | rename passed => exact (passed_iff (Reads.refuses_of_error rfl)).mp passed
    | hover passed => exact (passed_iff (Reads.refuses_of_error rfl)).mp passed
    | semanticTokens passed => exact (passed_iff (Reads.refuses_of_error rfl)).mp passed
    | completion completed => exact congrArg (Except.ok ∘ Answer.completion) (completed_iff.mp completed)
    | prepareRename prepared => exact congrArg (Except.ok ∘ Answer.prepareRename) (prepared_iff.mp prepared)
    | refused => rfl
    | failed other =>
      cases q with
      | prepareRename d p => exact absurd rfl (other d p)
      | _ => rfl
  · rintro rfl
    cases outcome with
    | ok v =>
      cases q with
      | documentSymbols d => exact .documentSymbols ((passed_iff (Reads.refuses_of_error rfl)).mpr rfl)
      | formatting d options => exact .formatting ((passed_iff (Reads.refuses_of_error rfl)).mpr rfl)
      | rename d p newName => exact .rename ((passed_iff (Reads.refuses_of_error rfl)).mpr rfl)
      | hover d p => exact .hover ((passed_iff (Reads.refuses_of_error rfl)).mpr rfl)
      | semanticTokens d => exact .semanticTokens ((passed_iff (Reads.refuses_of_error rfl)).mpr rfl)
      | completion d p => exact .completion (completed_iff.mpr rfl)
      | prepareRename d p => exact .prepareRename (prepared_iff.mpr rfl)
    | error e =>
      cases q with
      | prepareRename d p => exact .refused
      | _ => exact .failed (by simp)

end Query

namespace Pending.Sound

variable {p : Pending} {live : Set Handle} {h : Handle} {r : Response}

/-- A response that was collected leaves no trace but that its id is free again. -/
theorem collect_resolve (sound : p.Sound live) (held : h ∈ live) (waiting : p.poll h = .waiting)
    (target : r.id.bind p.target? = some h.id) : (p.resolve r).2.collect h = p.forget h.id := by
  have own := (sound.poll_waiting_iff held).mp waiting
  obtain ⟨missed,_⟩ | ⟨id,ticket,found,member,matched⟩ := resolve_cases p r
  · rw [missed] at target
    cases target
  obtain rfl : id = h.id := Option.some.inj (found.symm.trans target)
  have first := Lookup.lookup_of_mem sound.keys own
  obtain rfl : h.ticket = ticket :=
    Option.some.inj (first.symm.trans (Lookup.lookup_of_mem sound.keys member))
  have kept : p.mail.filter (·.1 ≠ h.ticket) = p.mail := by
    rw [List.filter_eq_self]
    intro m mailed
    simpa using sound.apart m mailed _ own
  rw [matched]
  simp only [Pending.collect,Pending.forget,List.filter_cons]
  simpa using kept

theorem target?_own (sound : p.Sound live) (held : h ∈ live) (waiting : p.poll h = .waiting) :
    p.target? h.id = some h.id := by
  simp [target?,sound.isPending_of_waiting held waiting]

theorem ready_resolve (sound : p.Sound live) (held : h ∈ live) (waiting : p.poll h = .waiting)
    (target : r.id.bind p.target? = some h.id) : (p.resolve r).2.poll h = .ready r := by
  rw [sound.poll_resolve r held,if_pos ⟨waiting,target⟩]

/-- No other handle waits for the same id. -/
theorem poll_forget_other (sound : p.Sound live) (held : h ∈ live) (waiting : p.poll h = .waiting)
    {g : Handle} (other : g ∈ live) (ne : g ≠ h) : (p.forget h.id).poll g = p.poll g := by
  rw [sound.poll_forget h.id other,if_neg]
  rintro ⟨waits,same⟩
  exact ne (sound.waiting_unique other held waits waiting same)

end Pending.Sound

namespace Client

structure CanCall (c : Client) : Prop where
  channel : c.channel.pending.closed = false
  peer : c.channel.outbox.abandoned = false
  unused : c.channel.pending.isPending (.number c.session.engine.nextId) = false

structure Asks (c : Client) (live : Set Handle) (name : String) (query : Query) (call : Call)
    (d : Client) : Prop where
  tasks : d.tasks = c.tasks ++ [(name,.provide call query)]
  finished : d.finished = c.finished
  bridge : d.session.bridge = c.session.bridge
  sound : d.channel.pending.Sound (insert call.handle live)
  waiting : d.channel.pending.poll call.handle = .waiting
  others : ∀ g ∈ live, d.channel.pending.poll g = c.channel.pending.poll g

/-- What the response to a query does: the query is concluded, its id is free again, and the client is
as it was. -/
structure Settles (c : Client) (live : Set Handle) (query : Query) (call : Call) (r : Response) : Prop where
  concluded : ∃ result, (∀ other, query.Concludes r.outcome other ↔ other = result) ∧
    (c.perform (.deliver (.response r))).1.pollTask (.provide call query) =
      (c.setChannel (c.channel.setPending (c.channel.pending.forget call.handle.id)),
        .finished (Outcome.ofBridge .answer result))
  others : ∀ g ∈ live, g ≠ call.handle →
    (c.channel.pending.forget call.handle.id).poll g = c.channel.pending.poll g

theorem asks_provide {c : Client} {live : Set Handle} (sound : c.channel.pending.Sound live)
    (free : c.CanCall) {language : String} (registered : c.session.bridge.isRegistered language)
    (name : String) (query : Query) (cancellable : Bool) :
    ∃ call, c.Asks live name query call (c.perform (.provide name language query cancellable)).1 := by
  obtain ⟨error,failed,_⟩ | ⟨h,p,ok,sent⟩ := c.session.engine.call_cases c.channel c.session.clock
    query.method (some query.params) (if cancellable then some name else none)
  · simp [Pending.register,free.channel,free.unused] at failed
  obtain ⟨gone,_⟩ | ⟨o,_,called⟩ := sent
  · simp [free.peer] at gone
  rw [perform,provide,if_pos registered,startCall]
  dsimp only
  rw [called]
  exact ⟨_,rfl,rfl,rfl,sound.register ok,sound.poll_register_self ok,fun g held => sound.poll_register ok held⟩

theorem pollTask_provide {c : Client} {call : Call} {channel : Channel} {result : Except CallError Json}
    {query : Query} (looked : call.poll c.channel c.session.clock c.fired = (channel,some result)) :
    c.pollTask (.provide call query) =
      (c.setChannel channel,.finished (Outcome.ofBridge .answer (query.conclude result))) := by
  rw [pollTask,looked]

theorem settles_provide {c : Client} {live : Set Handle} (sound : c.channel.pending.Sound live)
    {call : Call} (held : call.handle ∈ live) (waiting : c.channel.pending.poll call.handle = .waiting)
    {r : Response} (target : r.id.bind c.channel.pending.target? = some call.handle.id) (query : Query) :
    c.Settles live query call r := by
  refine ⟨⟨query.conclude r.concluded,fun other => ?_,?_⟩,fun g other ne => ?_⟩
  · rw [Query.concludes_iff,eq_comm]
    rfl
  · have ready : (c.channel.deliver (.response r)).pending.poll call.handle = .ready r :=
      sound.ready_resolve held waiting target
    refine pollTask_provide (c := c.setChannel (c.channel.deliver (.response r))) ?_
    refine (Call.poll_ready ready c.session.clock c.fired).trans ?_
    rw [Channel.pending_deliver_response,sound.collect_resolve held waiting target]
    rfl
  · exact sound.poll_forget_other held waiting other ne

/-- Whatever a server answers to a query of a registered language, the query is concluded in the way of
its capability, and neither another request nor the languages, the documents and the legend change. -/
theorem results_contained {c : Client} {live : Set Handle} (sound : c.channel.pending.Sound live)
    (free : c.CanCall) {language : String} (registered : c.session.bridge.isRegistered language)
    (name : String) (query : Query) (cancellable : Bool) :
    ∃ call, c.Asks live name query call (c.perform (.provide name language query cancellable)).1 ∧
      ∀ (d : Client) (held : Set Handle) (r : Response), d.channel.pending.Sound held →
        call.handle ∈ held → d.channel.pending.poll call.handle = .waiting →
        r.id.bind d.channel.pending.target? = some call.handle.id → d.Settles held query call r := by
  obtain ⟨call,asks⟩ := asks_provide sound free registered name query cancellable
  refine ⟨call,asks,fun d held r later own waiting target => ?_⟩
  exact settles_provide later own waiting target query

def idle : Client :=
  ((Client.new ⟨.ofSeconds 30,"idle",none,"lsp"⟩ none).perform (.addLanguage ⟨"ttl",[],[],[]⟩)).1

def pointed : Query := .hover ⟨1,"file:///a"⟩ ⟨1,1⟩

/-- A truth value is no hover; the editor is told so, and the language stays. -/
theorem garbled_hover_contained : ∃ call asked later, idle.Asks ∅ "hover" pointed call asked ∧
    (asked.perform (.deliver (.response (.success call.handle.id (.bool true))))).1.pollTask
      (.provide call pointed) = (later,.finished (.failed
        (.conversion "hover" "invalid type: boolean `true`, expected struct Hover"))) ∧
    later.session.bridge.isRegistered "ttl" := by
  have registered : idle.session.bridge.isRegistered "ttl" := rfl
  obtain ⟨call,asks,settles⟩ :=
    results_contained (c := idle) Pending.sound_empty ⟨rfl,rfl,rfl⟩ registered "hover" pointed false
  have held : call.handle ∈ insert call.handle (∅ : Set Handle) := Set.mem_insert _ _
  have own := asks.sound.target?_own held asks.waiting
  obtain ⟨⟨result,concludes,polled⟩,_⟩ :=
    settles _ _ (.success call.handle.id (.bool true)) asks.sound held asks.waiting own
  have garbled : Wire.Hover.read (.bool true) = .error (.wrongType (.bool true) "struct Hover") := rfl
  have unread : pointed.Concludes (.ok (.bool true)) (.error
      (.conversion "hover" "invalid type: boolean `true`, expected struct Hover")) :=
    .hover (.unreadable (by simp) garbled)
  obtain rfl := (concludes _).mp unread
  exact ⟨call,_,_,asks,polled,asks.bridge ▸ registered⟩

end Client

end LanguageBridge
