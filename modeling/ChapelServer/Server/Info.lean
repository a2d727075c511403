import ChapelServer.Server.State

/-!
# What the server says about itself

Its name and version, the methods that it answers to, how documents are kept in step, and what it
logs when it starts.
-/

namespace ChapelServer

/-- The method of a request, as clients name it. A hover has one whether it is bare or not. -/
def Request.method : Request → String
  | .handshake _ _ => "initialize"
  | .ready _ => "initialized"
  | .shutdown => "shutdown"
  | .configure _ _ => "workspace/didChangeConfiguration"
  | .folders => "workspace/didChangeWorkspaceFolders"
  | .watched _ => "workspace/didChangeWatchedFiles"
  | .didOpen _ => "textDocument/didOpen"
  | .didChange _ _ _ => "textDocument/didChange"
  | .didClose _ => "textDocument/didClose"
  | .completion => "textDocument/completion"
  | .resolveItem _ => "completionItem/resolve"
  | .hover _ _ _ => "textDocument/hover"

/-- How the client sends the changes of a document (`TextDocumentSyncKind`). -/
inductive SyncKind
  | whole
  | incremental
  deriving DecidableEq, Repr

/-- The number of a kind. -/
def SyncKind.number : SyncKind → Nat
  | .whole => 1
  | .incremental => 2

/-- What messages come in and go out by (`start_io`). -/
inductive Transport
  | standardStreams
  deriving DecidableEq, Repr

/-- What the server says about itself. -/
structure ServerInfo where
  name : String
  version : String
  sync : SyncKind
  methods : List String
  transport : Transport
  deriving DecidableEq, Repr

/-- The release of this server. -/
def ServerInfo.release : String := "0.1.0"

/-- This server. -/
def ServerInfo.current : ServerInfo where
  name := "chapel-lsp"
  version := "v" ++ ServerInfo.release
  sync := .whole
  methods := [
    "completionItem/resolve", "initialize", "initialized", "shutdown", "textDocument/completion",
    "textDocument/didChange", "textDocument/didClose", "textDocument/didOpen",
    "textDocument/hover", "workspace/didChangeConfiguration", "workspace/didChangeWatchedFiles",
    "workspace/didChangeWorkspaceFolders"]
  transport := .standardStreams

/-- What is logged when the server starts (`main`). -/
def ServerInfo.greeting : List Notice :=
  [.starting, .version ServerInfo.release]

end ChapelServer
