import ChapelServer.Document
import ChapelServer.Hover
import ChapelServer.Server.Notice

/-!
# Requests and their outcomes

The messages that a client sends, with what the client answers when the server asks back in the
course of them, and what comes of each message. On the way there are events: notices, calls to the
client, and what happens to compiler processes.
-/

namespace ChapelServer

/-- A completion item (`CompletionItem`). -/
structure CompletionItem where
  label : String
  kind : Nat
  detail : Option String := none
  deriving DecidableEq, Repr

/-- The completion items (`_build_catalog`): all reserved words. The kind of a keyword is 14. -/
def CompletionItem.catalog : List CompletionItem :=
  keywords.map fun label => { label, kind := 14 }

/-- One change of a document: its new text, and the range it is meant for, if any. -/
structure ContentChange where
  text : Text
  range : Option Range
  deriving DecidableEq, Repr

/-- What the client answers when it is asked for the configuration. -/
inductive ClientReply
  | items (value : Value)
  | refusal (reason : String)
  deriving Repr

/-- A message of the client. -/
inductive Request
  | handshake (client : Option ClientMessage) (options : Value)
  /-- The client is ready; a refusal is what it says to a registration. -/
  | ready (refusal : Option String)
  | shutdown
  | configure (settings : Value) (reply : ClientReply)
  | folders
  | watched (changes : List (String × FileChange))
  | didOpen (document : Document)
  | didChange (uri : String) (version : Int) (changes : List ContentChange)
  | didClose (uri : String)
  | completion
  | resolveItem (item : CompletionItem)
  /-- A hover. A `bare` one asks for the finding itself: it needs no handshake, and its failures
  are neither logged nor turned into answers. -/
  | hover (bare : Bool) (uri : String) (position : Position)
  deriving Repr

/-- Errors that are no failures of the server's own kinds (`ChapelLspError`). -/
inductive Fault
  | settings (obstacle : Settings.Obstacle)
  /-- A template that cannot be filled in, met while a work directory was prepared. -/
  | template (error : Template.Error)
  /-- A path that the system does not take. -/
  | path (flaw : Text.Flaw)
  /-- A command with a word that the system does not take. -/
  | command (flaw : Text.Flaw)
  /-- A document that has no UTF-8. -/
  | unencodable
  /-- A numeral of the pass log with too many digits. -/
  | numeralTooLong
  deriving DecidableEq, Repr

/-- What comes of a message. -/
inductive Outcome
  | nothing
  | items (items : List CompletionItem)
  | item (item : CompletionItem)
  | hover (hover : Option Hover)
  | finding (finding : Option Finding)
  /-- The request is answered with the code and message of a failure. -/
  | refused (failure : Failure)
  /-- A failure as it is, from a bare hover. -/
  | failed (failure : Failure)
  | faulted (fault : Fault)
  | cancelled
  deriving DecidableEq, Repr

/-- Something that happens while messages are handled. -/
inductive Event
  | notice (notice : Notice)
  /-- The compiler starts: the number of its process, its command, its work directory, the text that
  was staged for it, the bytes of the file that its command names, if it is there, and the names in
  the directory. -/
  | spawn (process : Nat) (command : List Text) (directory : Nat) (source : Text)
      (opened : Option (List UInt8)) (names : List Text)
  | exit (process : Nat)
  | kill (process : Nat)
  | wait (process : Nat)
  | register (methods : List String)
  | pull (sections : List String)
  | done (task : Nat)
  deriving Repr

end ChapelServer
