import ChapelServer.Server.Request

/-!
# The state of the server

What the server keeps between messages, and how each message other than a hover changes it. These
messages are handled in one go; hovers, which wait for the compiler, are started from the state
that they find.
-/

namespace ChapelServer

/-- The phases of a server's life (`Phase`). -/
inductive Phase
  | uninitialized
  | initialized
  | shutdown
  deriving DecidableEq, Repr

/-- The name of a phase. -/
def Phase.name : Phase → String
  | .uninitialized => "uninitialized"
  | .initialized => "initialized"
  | .shutdown => "shutdown"

/-- The settings as the hovers use them: those of `HoverResolver`, which choose the symbol, and
those of its `CompilerBridge`, which the compiler is called with. -/
structure Pipeline where
  symbolSettings : Settings := {}
  compilerSettings : Settings := {}
  deriving DecidableEq, Repr

/-- The state of the server (`ServerState`), with the resolver of its hovers. -/
structure Server where
  phase : Phase := .uninitialized
  capabilities : Capabilities := {}
  settings : Settings := {}
  pipeline : Pipeline := {}
  documents : Documents := {}
  /-- How many characters there is room for when a text is laid out. -/
  room : Nat := Template.maxNumber
  deriving DecidableEq, Repr

/-- The server after a message, what happened on the way, and what came of it. -/
structure Handled where
  server : Server
  events : List Event := []
  outcome : Outcome := .nothing

namespace Server

/-- The server answers requests (`initialized`). -/
def isInitialized (s : Server) : Bool :=
  s.phase = .initialized

/-- The settings of the state, of the symbol and of the compiler are the same. -/
def settingsShared (s : Server) : Bool :=
  s.pipeline.symbolSettings = s.settings && s.pipeline.compilerSettings = s.settings

/-- The server with new settings in force everywhere (`apply_settings`, `configure`). -/
def withSettings (s : Server) (settings : Settings) : Server :=
  { s with settings, pipeline := ⟨settings, settings⟩ }

/-- The settings of a client's value (`from_lsp_settings`) put in force, unless reading them meets
an obstacle. -/
def applySettings (s : Server) (value : Value) : Handled :=
  let (read, warnings) := Settings.ofValue s.room value
  let warned := warnings.map fun w => Event.notice (.settingsWarning w)
  match read with
  | .ok settings =>
    { server := s.withSettings settings
      events := warned ++ [.notice (.settingsApplied settings)] }
  | .error obstacle =>
    { server := s, events := warned, outcome := .faulted (.settings obstacle) }

/-- The handshake (`initialize`): the client's capabilities are noted, the server starts to answer,
and the settings that came along are put in force. -/
def handshake (s : Server) (client : Option ClientMessage) (options : Value) : Handled :=
  let capabilities := Capabilities.ofMessage client
  let s := { s with capabilities, phase := .initialized }
  let noted := Event.notice (.ready capabilities)
  if options.isGiven then
    let handled := s.applySettings options
    { handled with events := noted :: handled.events }
  else { server := s, events := [noted] }

/-- The client is ready (`initialized`): the server registers for configuration changes, if the
client can be asked for its configuration. -/
def ready (s : Server) (refusal : Option String) : Handled :=
  if s.capabilities.configuration then
    let answer := match refusal with
      | none => Notice.registered
      | some reason => Notice.registrationFailed reason
    { server := s
      events := [.register ["workspace/didChangeConfiguration"], .notice answer] }
  else { server := s }

/-- The value sent holds the section of the server (`_has_section`). -/
def hasSection : Value → Bool
  | .record fields =>
    match fields.lookup ("chapel" : Text) with
    | some (.record _) => true
    | _ => false
  | _ => false

/-- The first item of what the client answered, null if it is empty. -/
def firstItem : Value → Except String Value
  | .list (item :: _) => .ok item
  | .list [] | .null | .bool false | .int 0 | .float (.finite _ 0 _) | .record [] => .ok .null
  | .text [] => .ok .null
  | .text (c :: _) => .ok (.text [c])
  | .record (_ :: _) => .error "0"
  | .bool true => .error "'bool' object is not subscriptable"
  | .int _ => .error "'int' object is not subscriptable"
  | .float _ => .error "'float' object is not subscriptable"

/-- A change of configuration (`did_change_configuration`): what was sent is put in force if it
holds the server's section. Otherwise the client is asked, if it can be, and what was sent is used
only if that fails. -/
def configure (s : Server) (settings : Value) (reply : ClientReply) : Handled :=
  if !hasSection settings && s.capabilities.configuration then
    let answer := match reply with
      | .items value => firstItem value
      | .refusal reason => .error reason
    let (events, value) := match answer with
      | .ok value => ([], value)
      | .error reason => ([Event.notice (.configurationFailed reason)], settings)
    let handled := s.applySettings value
    { handled with events := .pull ["chapel"] :: events ++ handled.events }
  else s.applySettings settings

/-- The client's folders have changed (`did_change_workspace_folders`), which is logged if the
client knows of folders. -/
def foldersChanged (s : Server) : Handled :=
  { server := s
    events := if s.capabilities.workspaceFolders then [.notice .foldersChanged] else [] }

/-- Files that the client watches have changed (`did_change_watched_files`), which is logged one by
one. -/
def filesChanged (s : Server) (changes : List (String × FileChange)) : Handled :=
  { server := s
    events := changes.map fun (uri, change) => .notice (.fileChanged uri change) }

/-- A document is opened (`did_open`), unless the server does not answer yet or any more. -/
def didOpen (s : Server) (document : Document) : Handled :=
  if s.isInitialized then
    { server := { s with documents := s.documents.put document }
      events := [.notice (.opened document.uri)] }
  else { server := s, events := [.notice (.openIgnored document.uri)] }

/-- The documents after changes of one of them: the last change counts, and has to be of the whole
text. -/
def lastChange (documents : Documents) (uri : String) (version : Int) (last : ContentChange) :
    Except Failure Documents :=
  match last.range with
  | some _ => .error (.incrementalChangeRejected uri)
  | none => documents.change uri version last.text

/-- A document is changed (`did_change`). -/
def didChange (s : Server) (uri : String) (version : Int) (changes : List ContentChange) :
    Handled :=
  if s.isInitialized then
    match changes.getLast? with
    | none => { server := s }
    | some last =>
      match lastChange s.documents uri version last with
      | .ok documents =>
        { server := { s with documents }, events := [.notice (.changed uri version)] }
      | .error failure => { server := s, events := [.notice (.changeRejected failure)] }
  else { server := s, events := [.notice (.changeIgnored uri)] }

/-- A document is closed (`did_close`). -/
def didClose (s : Server) (uri : String) : Handled :=
  { server := { s with documents := s.documents.close uri }
    events := [.notice (.closed uri)] }

/-- The server stops to answer (`shutdown`), and drops all documents. -/
def stop (s : Server) : Handled :=
  { server := { s with phase := .shutdown, documents := {} }, events := [.notice .stopped] }

/-- All reserved words are offered, wherever the cursor is (`completion`). -/
def completion (s : Server) : Handled :=
  if s.isInitialized then { server := s, outcome := .items CompletionItem.catalog }
  else { server := s, outcome := .refused (.notInitialized "textDocument/completion") }

/-- There is nothing to add to a completion item (`resolve_completion_item`). -/
def resolveItem (s : Server) (item : CompletionItem) : Handled :=
  { server := s, outcome := .item item }

/-- What a hover asks for: the text of the document, the symbol, and its place. -/
structure Question where
  text : Text
  symbol : Text
  range : Option Range
  deriving DecidableEq, Repr

/-- The question of a hover (`_symbol_for`): the symbol that the settings fix, or the one under the
cursor. There is none where no symbol is. -/
def question (s : Server) (uri : String) (position : Position) :
    Except Failure (Option Question) := do
  let document ← s.documents.get uri
  match s.pipeline.symbolSettings.fixedSymbol with
  | some symbol => return some { text := document.text, symbol, range := none }
  | none =>
    return (Symbol.at? document.text.chars position).map fun found =>
      { text := document.text, symbol := .ofChars found.name, range := some found.range }

/-- The question of a hover that is not bare: the server has to be initialized
(`require_initialized`). -/
def guardedQuestion (s : Server) (bare : Bool) (uri : String) (position : Position) :
    Except Failure (Option Question) :=
  if bare || s.isInitialized then s.question uri position
  else .error (.notInitialized "textDocument/hover")

end Server

end ChapelServer
