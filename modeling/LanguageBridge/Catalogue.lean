import LanguageBridge.Editor.Completion
import LanguageBridge.Editor.Edit
import LanguageBridge.Editor.Marker
import LanguageBridge.Editor.Symbol
import LanguageBridge.Editor.Token
import LanguageBridge.Message.Basic
import LanguageBridge.Settings.Basic
import LanguageBridge.Wire.Completion
import LanguageBridge.Wire.Diagnostic
import LanguageBridge.Wire.Handshake
import LanguageBridge.Wire.Symbol

/-! The types that have a JSON form, by name. -/
namespace LanguageBridge.Catalogue

/-- A value in the form in which its type is written. -/
abbrev Normalize := Json → Except ReadError Json

def normalize {α : Type} (read : Reads α) (write : α → Json) : Normalize :=
  fun j => (read j).map write

/-- What the server and the bridge exchange. -/
def wire : List (String × Normalize) := [
  ("Position", normalize Wire.Position.read Wire.Position.toJson),
  ("Range", normalize Wire.Range.read Wire.Range.toJson),
  ("Location", normalize Wire.Location.read Wire.Location.toJson),
  ("TextDocumentIdentifier", normalize Wire.DocumentId.read Wire.DocumentId.toJson),
  ("TextDocumentPositionParams", normalize Wire.DocumentPosition.read Wire.DocumentPosition.toJson),
  ("TextDocumentItem", normalize Wire.DocumentItem.read Wire.DocumentItem.toJson),
  ("TextEdit", normalize Wire.TextEdit.read Wire.TextEdit.toJson),
  ("VersionedTextDocumentIdentifier",
    normalize Wire.VersionedDocument.read Wire.VersionedDocument.toJson),
  ("TextDocumentEdit", normalize Wire.DocumentEdit.read Wire.DocumentEdit.toJson),
  ("DocumentChange", normalize Wire.DocumentChange.read Wire.DocumentChange.toJson),
  ("WorkspaceEdit", normalize Wire.WorkspaceEdit.read Wire.WorkspaceEdit.toJson),
  ("FormattingOptions", normalize Wire.FormattingOptions.read Wire.FormattingOptions.toJson),
  ("DocumentFormattingParams", normalize Wire.FormattingParams.read Wire.FormattingParams.toJson),
  ("RenameParams", normalize Wire.RenameParams.read Wire.RenameParams.toJson),
  ("PrepareRenameResponse", normalize Wire.RenamePreparation.read Wire.RenamePreparation.toJson),
  ("DocumentSymbol", normalize Wire.DocumentSymbol.read Wire.DocumentSymbol.toJson),
  ("SymbolInformation", normalize Wire.SymbolInformation.read Wire.SymbolInformation.toJson),
  ("DocumentSymbolResponse", normalize Wire.DocumentSymbols.read Wire.DocumentSymbols.toJson),
  ("Hover", normalize Wire.Hover.read Wire.Hover.toJson),
  ("HoverContents", normalize Wire.HoverContents.read Wire.HoverContents.toJson),
  ("MarkupContent", normalize Wire.Markup.read Wire.Markup.toJson),
  ("MarkedString", normalize Wire.MarkedString.read Wire.MarkedString.toJson),
  ("Documentation", normalize Wire.Documentation.read Wire.Documentation.toJson),
  ("InsertReplaceEdit", normalize Wire.InsertReplaceEdit.read Wire.InsertReplaceEdit.toJson),
  ("CompletionTextEdit", normalize Wire.CompletionEdit.read Wire.CompletionEdit.toJson),
  ("CompletionItem", normalize Wire.CompletionItem.read Wire.CompletionItem.toJson),
  ("CompletionList", normalize Wire.CompletionList.read Wire.CompletionList.toJson),
  ("CompletionResponse", normalize Wire.Completions.read Wire.Completions.toJson),
  ("SemanticTokensLegend", normalize Wire.TokenLegend.read Wire.TokenLegend.toJson),
  ("SemanticTokens", normalize Wire.Tokens.read Wire.Tokens.toJson),
  ("LspDiagnostic", normalize Wire.Diagnostic.read Wire.Diagnostic.toJson),
  ("LspDiagnosticRelatedInformation",
    normalize Wire.RelatedInformation.read Wire.RelatedInformation.toJson),
  ("PublishDiagnosticsParams", normalize Wire.Publication.read Wire.Publication.toJson),
  ("ClientInfo", normalize Wire.ClientInfo.read Wire.ClientInfo.toJson),
  ("InitializeParams", normalize Wire.InitializeParams.read Wire.InitializeParams.toJson),
  ("SemanticTokensOptions", normalize Wire.TokenOptions.read Wire.TokenOptions.toJson),
  ("ServerCapabilities", normalize Wire.ServerCapabilities.read Wire.ServerCapabilities.toJson),
  ("InitializeResult", normalize Wire.InitializeResult.read Wire.InitializeResult.toJson),
  ("ServerInfo", normalize Wire.ServerInfo.read Wire.ServerInfo.toJson)]

/-- What the editor and the bridge exchange. -/
def editor : List (String × Normalize) := [
  ("EditorPosition", normalize Editor.Position.read Editor.Position.toJson),
  ("EditorRange", normalize Editor.Range.read Editor.Range.toJson),
  ("ModelHandle", normalize Editor.Document.read Editor.Document.toJson),
  ("LanguageExtensionPoint", normalize Editor.Language.read Editor.Language.toJson),
  ("EditorDocumentSymbol", normalize Editor.DocumentSymbol.read Editor.DocumentSymbol.toJson),
  ("EditorTextEdit", normalize Editor.TextEdit.read Editor.TextEdit.toJson),
  ("ResourceTextEdit", normalize Editor.ResourceEdit.read Editor.ResourceEdit.toJson),
  ("EditorWorkspaceEdit", normalize Editor.WorkspaceEdit.read Editor.WorkspaceEdit.toJson),
  ("RenameLocation", normalize Editor.RenameLocation.read Editor.RenameLocation.toJson),
  ("MarkdownString", normalize Editor.Markdown.read Editor.Markdown.toJson),
  ("EditorHover", normalize Editor.Hover.read Editor.Hover.toJson),
  ("CompletionItemKind", normalize Editor.CompletionKind.read Editor.CompletionKind.toJson),
  ("CompletionSuggestion", normalize Editor.Suggestion.read Editor.Suggestion.toJson),
  ("EditorCompletionList", normalize Editor.CompletionList.read Editor.CompletionList.toJson),
  ("EditorSemanticTokens", normalize Editor.Tokens.read Editor.Tokens.toJson),
  ("RelatedInformation", normalize Editor.RelatedInformation.read Editor.RelatedInformation.toJson),
  ("Marker", normalize Editor.Marker.read Editor.Marker.toJson)]

/-- Messages and settings. -/
def other : List (String × Normalize) := [
  ("LspSymbolKind", normalize SymbolKind.readWire SymbolKind.toWire),
  ("LspDiagnosticSeverity", normalize Severity.readWire Severity.toWire),
  ("LspDiagnosticTag", normalize DiagnosticTag.read DiagnosticTag.toJson),
  ("SymbolKind", normalize SymbolKind.readEditor SymbolKind.toEditor),
  ("MarkerSeverity", normalize Severity.readEditor Severity.toEditor),
  ("MarkerTag", normalize DiagnosticTag.read DiagnosticTag.toJson),
  ("BridgeConfig", normalize Settings.read Settings.toJson),
  ("ClientConfig", normalize ClientSettings.read ClientSettings.toJson),
  ("RpcConfig", normalize DeadlineSettings.read DeadlineSettings.toJson),
  ("DiagnosticsConfig", normalize DiagnosticSettings.read DiagnosticSettings.toJson),
  ("ConnectionConfig", normalize ConnectionSettings.read ConnectionSettings.toJson),
  ("RequestId", normalize RequestId.read RequestId.toJson),
  ("ResponseError", normalize ResponseError.read ResponseError.toJson),
  ("Request", normalize Request.read Request.toJson),
  ("Response", normalize Response.read Response.toJson),
  ("Notification", normalize Notification.read Notification.toJson)]

def find? (name : String) : Option Normalize := (wire ++ editor ++ other).lookup name

end LanguageBridge.Catalogue
