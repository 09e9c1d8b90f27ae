import LanguageBridge.Conversion.Completion
import LanguageBridge.Conversion.Edit
import LanguageBridge.Conversion.Hover
import LanguageBridge.Conversion.Symbol
import LanguageBridge.Conversion.Token
import LanguageBridge.Error
import LanguageBridge.Method

/-! What an editor can ask for: each query becomes one request to the server, and the result of the
request becomes the editor's answer. -/
namespace LanguageBridge

inductive Capability where
  | documentSymbols
  | formatting
  | rename
  | hover
  | completion
  | semanticTokens
  deriving DecidableEq, Repr

namespace Capability

/-- The capabilities that every language is registered with. -/
def all : List Capability :=
  [documentSymbols, formatting, rename, hover, completion, semanticTokens]

def name : Capability → String
  | documentSymbols => "documentSymbols"
  | formatting => "formatting"
  | rename => "rename"
  | hover => "hover"
  | completion => "completion"
  | semanticTokens => "semanticTokens"

end Capability

inductive Query where
  | documentSymbols (d : Editor.Document)
  | formatting (d : Editor.Document) (options : Wire.FormattingOptions)
  | prepareRename (d : Editor.Document) (p : Editor.Position)
  | rename (d : Editor.Document) (p : Editor.Position) (newName : String)
  | hover (d : Editor.Document) (p : Editor.Position)
  | completion (d : Editor.Document) (p : Editor.Position)
  | semanticTokens (d : Editor.Document)
  deriving DecidableEq, Repr

inductive Answer where
  | documentSymbols (symbols : List Editor.DocumentSymbol)
  | formatting (edits : List Editor.TextEdit)
  | prepareRename (location : Editor.RenameLocation)
  | rename (edit : Editor.WorkspaceEdit)
  | hover (hover : Option Editor.Hover)
  | completion (list : Editor.CompletionList)
  | semanticTokens (tokens : Editor.Tokens)

namespace Answer

def name : Answer → String
  | .documentSymbols _ => "documentSymbols"
  | .formatting _ => "formatting"
  | .prepareRename _ => "prepareRename"
  | .rename _ => "rename"
  | .hover _ => "hover"
  | .completion _ => "completion"
  | .semanticTokens _ => "semanticTokens"

def resultJson : Answer → Json
  | .documentSymbols symbols => .arr (Editor.DocumentSymbol.forestToJson symbols)
  | .formatting edits => .list Editor.TextEdit.toJson edits
  | .prepareRename location => location.toJson
  | .rename edit => edit.toJson
  | .hover h => .nullable Editor.Hover.toJson h
  | .completion list => list.toJson
  | .semanticTokens tokens => tokens.toJson

def toJson (a : Answer) : Json :=
  .record [.always "capability" (.str a.name), .always "result" a.resultJson]

end Answer

namespace Query

def capability : Query → Capability
  | .documentSymbols _ => .documentSymbols
  | .formatting _ _ => .formatting
  | .prepareRename _ _ => .rename
  | .rename _ _ _ => .rename
  | .hover _ _ => .hover
  | .completion _ _ => .completion
  | .semanticTokens _ => .semanticTokens

def method : Query → String
  | .documentSymbols _ => Method.documentSymbol
  | .formatting _ _ => Method.formatting
  | .prepareRename _ _ => Method.prepareRename
  | .rename _ _ _ => Method.rename
  | .hover _ _ => Method.hover
  | .completion _ _ => Method.completion
  | .semanticTokens _ => Method.semanticTokens

def wirePosition (p : Editor.Position) : Wire.Position := .ofEditor p.lineNumber p.column

def positionParams (d : Editor.Document) (p : Editor.Position) : Json :=
  (Wire.DocumentPosition.mk ⟨d.uri⟩ (wirePosition p)).toJson.sorted

def documentParams (d : Editor.Document) : Json :=
  .record [.always "textDocument" (Wire.DocumentId.mk d.uri).toJson]

def params : Query → Json
  | .documentSymbols d => documentParams d
  | .formatting d options => (Wire.FormattingParams.mk ⟨d.uri⟩ options).toJson.sorted
  | .prepareRename d p => positionParams d p
  | .rename d p newName => (Wire.RenameParams.mk ⟨d.uri⟩ (wirePosition p) newName).toJson.sorted
  | .hover d p => positionParams d p
  | .completion d p => positionParams d p
  | .semanticTokens d => documentParams d

/-- Reads a result that may be null, on behalf of the named capability. -/
def readResult {α : Type} (capability : String) (read : Reads α) (j : Json) :
    Except BridgeError (Option α) :=
  match Reads.nullable read j with
  | .ok a => .ok a
  | .error e => .error (.conversion capability e.message)

/-- A server that refuses, or says something unreadable, has nothing to rename. -/
def renameLocation (j : Json) : Editor.RenameLocation :=
  match Reads.nullable Wire.RenamePreparation.read j with
  | .ok (some r) => r.toEditor
  | _ => .rejected

/-- Unreadable completions are no completions. -/
def completions (j : Json) : Editor.CompletionList :=
  match Reads.nullable Wire.Completions.read j with
  | .ok (some c) => c.toEditor
  | _ => .empty

/-- The answer that a result stands for. -/
def answer (q : Query) (result : Json) : Except BridgeError Answer :=
  match q with
  | .documentSymbols _ =>
    (readResult "documentSymbol" Wire.DocumentSymbols.read result).map fun r =>
      .documentSymbols ((r.map Wire.DocumentSymbols.toEditor).getD [])
  | .formatting _ _ =>
    (readResult "formatting" (.list Wire.TextEdit.read) result).map fun r =>
      .formatting ((r.getD []).map Wire.TextEdit.toEditor)
  | .prepareRename _ _ => .ok (.prepareRename (renameLocation result))
  | .rename _ _ _ =>
    (readResult "rename" Wire.WorkspaceEdit.read result).map fun r =>
      .rename ((r.map Wire.WorkspaceEdit.toEditor).getD ⟨[]⟩)
  | .hover _ _ =>
    (readResult "hover" Wire.Hover.read result).map fun r => .hover (r.map Wire.Hover.toEditor)
  | .completion _ _ => .ok (.completion (completions result))
  | .semanticTokens _ =>
    (readResult "semanticTokens" Wire.Tokens.read result).map fun r =>
      .semanticTokens ((r.map Wire.Tokens.toEditor).getD ⟨none, []⟩)

/-- The answer to a call that came to an end. -/
def conclude (q : Query) : Except CallError Json → Except BridgeError Answer
  | .ok result => q.answer result
  | .error e =>
    match q, e with
    | .prepareRename _ _, .server _ _ => .ok (.prepareRename .rejected)
    | _, e => .error (.call e)

end Query

end LanguageBridge
