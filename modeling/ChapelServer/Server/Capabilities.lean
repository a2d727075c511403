/-!
# Capabilities of the client

What the client says it can do, as far as the server uses it. Everything in the message may be
left out.
-/

namespace ChapelServer

/-- The workspace part of the client's message. -/
structure WorkspaceSupport where
  configuration : Option Bool := none
  workspaceFolders : Option Bool := none
  deriving DecidableEq, Repr

/-- The diagnostics part of the client's message. -/
structure DiagnosticSupport where
  relatedInformation : Option Bool := none
  deriving DecidableEq, Repr

/-- The text document part of the client's message. -/
structure TextDocumentSupport where
  publishDiagnostics : Option DiagnosticSupport := none
  deriving DecidableEq, Repr

/-- The client's message. -/
structure ClientMessage where
  workspace : Option WorkspaceSupport := none
  textDocument : Option TextDocumentSupport := none
  deriving DecidableEq, Repr

/-- What the client can do (`ClientCapabilityFlags`). -/
structure Capabilities where
  configuration : Bool := false
  workspaceFolders : Bool := false
  relatedInformation : Bool := false
  deriving DecidableEq, Repr

namespace Capabilities

/-- What a client's message says it can do (`from_capabilities`): nothing that it leaves out. -/
def ofMessage (message : Option ClientMessage) : Capabilities :=
  let workspace := message.bind (·.workspace)
  let diagnostics := (message.bind (·.textDocument)).bind (·.publishDiagnostics)
  {
    configuration := (workspace.bind (·.configuration)).getD false
    workspaceFolders := (workspace.bind (·.workspaceFolders)).getD false
    relatedInformation := (diagnostics.bind (·.relatedInformation)).getD false }

/-- A truth value as a literal. -/
def truth (b : Bool) : String :=
  if b then "True" else "False"

/-- The capabilities as a record prints them. -/
def describe (c : Capabilities) : String :=
  "ClientCapabilityFlags(configuration=" ++ truth c.configuration ++
    ", workspace_folders=" ++ truth c.workspaceFolders ++
    ", diagnostic_related_information=" ++ truth c.relatedInformation ++ ")"

end Capabilities

end ChapelServer
