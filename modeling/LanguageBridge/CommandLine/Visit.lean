import LanguageBridge.Client.Command
import LanguageBridge.CommandLine.Errand
import LanguageBridge.FileUri

/-! An errand carried out: a session with the server is started, the file is opened, and what the
job asks for is asked and printed. The visit moves on by what comes from the server and by time. -/
namespace LanguageBridge

/-- How far a visit has come. -/
inductive VisitStage where
  | starting
  | asking
  | preparing
  | renaming (target : Editor.RenameLocation)
  | watching (due : Nat)
  deriving DecidableEq

structure Visit where
  errand : Errand
  client : Client
  stage : VisitStage

/-- What happens to a visit. -/
inductive VisitEvent where
  | bytes (bytes : List UInt8)
  | disconnected
  | elapsed (d : Duration)

/-- A visit with the bytes it sends, and its ending once it is over. -/
structure VisitStep where
  visit : Visit
  sent : List UInt8
  ending : Option Ending

namespace Errand

def uri (e : Errand) : String := FileUri.ofPath e.directory e.file

def document (e : Errand) : Editor.Document := ⟨1, e.uri⟩

/-- The language of the file, with its extension. -/
def language (e : Errand) : Editor.Language :=
  let language := Editor.Language.named (Path.language e.file)
  match Path.extension? e.file with
  | some ext => { language with extensions := ["." ++ ext] }
  | none => language

/-- The file as a session opens it. -/
def item (e : Errand) : Wire.DocumentItem := ⟨e.uri, e.language.id, 1, e.text⟩

/-- The file opens once the handshake is over. -/
def openHook (e : Errand) : Hook :=
  [.notify Method.didOpen (some (.obj [("textDocument", e.item.toJson.sorted)]))]

def shownFile (e : Errand) : String := Path.relativeTo e.directory e.file

def shownPlace (e : Errand) (place : Location) : Json :=
  .record [.always "file" (.str e.shownFile), .always "line" (.ofWord32 place.line),
    .always "column" (.ofWord32 place.column)]

def unreachable (e : Errand) (reason : String) : Ending :=
  .raised ("Failed to connect to language server at " ++ e.address ++ ": " ++ reason)

/-- An answer to some other question. -/
def unexpected (expected : String) (got : Answer) : Ending :=
  .raised ("Expected " ++ expected ++ " result, got '" ++ got.name ++ "'")

def hoverEnding (e : Errand) (place : Location) : Option Editor.Hover → Ending
  | none => .printed (.record [.always "location" (e.shownPlace place),
    .always "message" (.str "No hover information available")])
  | some hover => .printed (.record [.always "location" (e.shownPlace place),
    .always "contents" (.list Editor.Markdown.toJson hover.contents),
    .whenSome "range" Editor.Range.toJson hover.range])

/-- Only what stands at the top is kept if that is asked for. -/
def symbolsEnding (e : Errand) (flat : Bool) (symbols : List Editor.DocumentSymbol) : Ending :=
  let symbols := if flat then symbols.map Editor.DocumentSymbol.leaf else symbols
  .printed (.record [.always "file" (.str e.shownFile),
    .always "count" (.ofNat (Editor.DocumentSymbol.forestSize symbols)),
    .always "symbols" (.arr (Editor.DocumentSymbol.forestToJson symbols))])

def formatEnding (e : Errand) (options : Wire.FormattingOptions) (edits : List Editor.TextEdit) :
    Ending :=
  .printed (.record [.always "file" (.str e.shownFile),
    .always "tab_size" (.ofWord32 options.tabSize),
    .always "insert_spaces" (.bool options.insertSpaces), .always "count" (.ofNat edits.length),
    .always "edits" (.list Editor.TextEdit.toJson edits)])

/-- All suggestions count, also those beyond the limit; a list that was cut is not complete. -/
def completionEnding (e : Errand) (place : Location) (limit : Option UInt64)
    (list : Editor.CompletionList) : Ending :=
  let count := list.suggestions.length
  let shown := match limit with
    | some n => list.suggestions.take n.toNat
    | none => list.suggestions
  .printed (.record [.always "location" (e.shownPlace place),
    .always "incomplete" (.bool (list.incomplete || shown.length < count)),
    .always "count" (.ofNat count), .always "suggestions" (.list Editor.Suggestion.toJson shown)])

def renameEnding (e : Errand) (place : Location) (newName : String)
    (target : Editor.RenameLocation) (edit : Editor.WorkspaceEdit) : Ending :=
  .printed (.record [.always "location" (e.shownPlace place), .always "old_name" (.str target.text),
    .always "new_name" (.str newName), .always "range" target.range.toJson,
    .always "files_changed" (.ofNat (edit.edits.map (·.resource)).eraseDups.length),
    .always "total_changes" (.ofNat edit.edits.length),
    .always "edits" (.list Editor.ResourceEdit.toJson edit.edits)])

/-- A token takes five numbers. -/
def tokensEnding (e : Errand) (legend : Option Wire.TokenLegend) (tokens : Editor.Tokens) : Ending :=
  .printed (.record [.always "file" (.str e.shownFile),
    .always "token_types" (.list .str ((legend.map (·.types)).getD [])),
    .always "token_modifiers" (.list .str ((legend.map (·.modifiers)).getD [])),
    .whenSome "result_id" .str tokens.resultId, .always "count" (.ofNat (tokens.data.length / 5)),
    .always "data" (.list .ofWord32 tokens.data)])

def diagnosticsEnding (e : Errand) (only : Option (List Severity))
    (published : Option (List Editor.Marker)) : Ending :=
  let markers := (published.getD []).filter fun m =>
    match only with
    | some severities => severities.contains m.severity
    | none => true
  .printed (.record [.always "file" (.str e.shownFile),
    .always "owner" (.str e.settings.diagnostics.owner),
    .always "published" (.bool published.isSome), .always "count" (.ofNat markers.length),
    .always "markers" (.list Editor.Marker.toJson markers)])

/-- The first question of a job, with the stage while it is open. -/
def question? (e : Errand) : Option (Query × VisitStage) :=
  match e.job with
  | .hover place => some (.hover e.document place.position, .asking)
  | .symbols _ => some (.documentSymbols e.document, .asking)
  | .format options => some (.formatting e.document options, .asking)
  | .complete place _ => some (.completion e.document place.position, .asking)
  | .rename place _ => some (.prepareRename e.document place.position, .preparing)
  | .tokens => some (.semanticTokens e.document, .asking)
  | .diagnostics _ _ => none

/-- The ending for the answer to the only question of a job. -/
def answered (e : Errand) (legend : Option Wire.TokenLegend) (a : Answer) : Ending :=
  match e.job, a with
  | .hover place, .hover h => e.hoverEnding place h
  | .hover _, a => unexpected "hover" a
  | .symbols flat, .documentSymbols symbols => e.symbolsEnding flat symbols
  | .symbols _, a => unexpected "documentSymbols" a
  | .format options, .formatting edits => e.formatEnding options edits
  | .format _, a => unexpected "formatting" a
  | .complete place limit, .completion list => e.completionEnding place limit list
  | .complete _ _, a => unexpected "completion" a
  | .tokens, .semanticTokens tokens => e.tokensEnding legend tokens
  | .tokens, a => unexpected "semanticTokens" a
  | .rename _ _, a => unexpected "rename" a
  | .diagnostics _ _, a => unexpected "diagnostics" a

end Errand

namespace Visit

def sessionTask : String := "session"

def startTask : String := "running"

def questionTask : String := "question"

/-- The session failed before it was running. -/
def notStarted (finished : List (String × Outcome)) : Ending :=
  let reason := match finished.lookup sessionTask with
    | some (.failed e) => e.message
    | _ => "server closed the connection"
  .raised ("Session failed to start: " ++ reason)

/-- Asks a question, which stays open for a stage. -/
def ask (v : Visit) (query : Query) (stage : VisitStage) : Visit × Report :=
  let (client, report) :=
    v.client.step (.provide questionTask v.errand.language.id query false)
  ({ v with client := client, stage := stage }, report)

/-- The session is running: the first question is asked, or the time to watch begins. -/
def started (v : Visit) : Visit × Option Report :=
  match v.errand.job, v.errand.question? with
  | .diagnostics wait _, _ =>
    ({ v with stage := .watching (v.client.session.clock + wait.nanoseconds) }, none)
  | _, some (query, stage) =>
    let (v, report) := v.ask query stage
    (v, some report)
  | _, none => (v, none)

/-- The answer that a question ended with. -/
def answerOf : Outcome → Except BridgeError Answer
  | .answer a => .ok a
  | .failed e => .error e
  | _ => .error (.call .channelClosed)

/-- Whether something can be renamed was answered: the ending, or what is renamed. -/
def prepared : Except BridgeError Answer → Except Ending Editor.RenameLocation
  | .error e => .error (.reported e.message)
  | .ok (.prepareRename target) =>
    match target.rejectReason with
    | some reason => .error (.reported reason)
    | none => .ok target
  | .ok other => .error (Errand.unexpected "prepareRename" other)

/-- The ending of a question that does not lead to another. -/
def concluded (v : Visit) : Except BridgeError Answer → Ending
  | .error e => .reported e.message
  | .ok a =>
    match v.stage, v.errand.job, a with
    | .renaming target, .rename place newName, .rename edit =>
      v.errand.renameEnding place newName target edit
    | _, _, a => v.errand.answered v.client.session.bridge.legend a

/-- Moves on by what finished; at most two questions follow each other, which `fuel` counts. -/
def advance : (fuel : Nat) → Visit → Report → VisitStep
  | 0, v, report => ⟨v, report.sent.bytes, none⟩
  | fuel + 1, v, report =>
    let sent := report.sent.bytes
    let continued (next : VisitStep) : VisitStep := { next with sent := sent ++ next.sent }
    match v.stage with
    | .starting =>
      match report.finished.lookup startTask with
      | some (.reached .running) =>
        match v.started with
        | (v, some report) => continued (advance fuel v report)
        | (v, none) => ⟨v, sent, none⟩
      | some _ => ⟨v, sent, some (notStarted report.finished)⟩
      | none => ⟨v, sent, none⟩
    | .preparing =>
      match report.finished.lookup questionTask, v.errand.job with
      | some outcome, .rename place newName =>
        match prepared (answerOf outcome) with
        | .error ending => ⟨v, sent, some ending⟩
        | .ok target =>
          let query := .rename v.errand.document place.position newName
          let (v, report) := v.ask query (.renaming target)
          continued (advance fuel v report)
      | _, _ => ⟨v, sent, none⟩
    | .asking | .renaming _ =>
      match report.finished.lookup questionTask with
      | some outcome => ⟨v, sent, some (v.concluded (answerOf outcome))⟩
      | none => ⟨v, sent, none⟩
    | .watching due =>
      match v.errand.job with
      | .diagnostics _ only =>
        if due ≤ v.client.session.clock then
          ⟨v, sent, some (v.errand.diagnosticsEnding only
            (v.client.session.surface.markers? v.errand.uri))⟩
        else ⟨v, sent, none⟩
      | _ => ⟨v, sent, none⟩

def moveOn (v : Visit) (report : Report) : VisitStep := advance 4 v report

/-- Performs a command and moves on. -/
def perform (v : Visit) (command : Command) : VisitStep :=
  let (client, report) := v.client.step command
  { v with client := client }.moveOn report

/-- A connection was made: the session starts. -/
def start (e : Errand) : VisitStep :=
  let client := Client.new (.ofSettings e.settings) (some .fresh)
  let (client, _) := client.run [.addLanguage e.language, .openDocument e.document,
    .pushHook e.openHook, .listen "server" fun _ => .done, .wait startTask .running]
  Visit.perform ⟨e, client, .starting⟩ (.start sessionTask)

def handle (v : Visit) : VisitEvent → VisitStep
  | .bytes bytes => v.perform (.peerBytes bytes)
  | .disconnected => v.perform .losePeer
  | .elapsed d => v.perform (.elapse d)

end Visit

/-- What happens next, unless the visit is over. -/
def VisitStep.andThen (step : VisitStep) (event : VisitEvent) : VisitStep :=
  match step.ending with
  | some _ => step
  | none =>
    let next := step.visit.handle event
    { next with sent := step.sent ++ next.sent }

namespace Visit

/-- How long to wait when nothing comes: until the watch is over or every deadline is past. -/
def patience (v : Visit) : Duration :=
  match v.errand.job, v.stage with
  | .diagnostics wait _, .watching _ => wait
  | _, _ => (Profile.ofSettings v.errand.settings).deadline Method.rename

end Visit

end LanguageBridge
