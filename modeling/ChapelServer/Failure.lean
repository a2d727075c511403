import ChapelServer.Disk.OsError
import ChapelServer.Number.Decimal

/-!
# Failures

Why a request cannot be answered. Each failure has a code, by which the client knows its kind, and
a message for the user. A failed compilation and a resource that is not available come with a
report of what happened.
-/

namespace ChapelServer

/-- Why a request cannot be answered (`ChapelLspError` and the classes below it). -/
inductive Failure
  | general (report : Text)
  | documentNotFound (uri : String)
  | incrementalChangeRejected (uri : String)
  | compilationFailed (report : Text)
  | compilationTimeout (limit : Number.Binary64)
  | resourceUnavailable (report : Text)
  | artifactNotFound (path : Text)
  | notInitialized (method : String)
  deriving DecidableEq, Repr

namespace Failure

/-- The kinds of failures. -/
inductive Kind
  | general
  | documentNotFound
  | incrementalChangeRejected
  | compilationFailed
  | compilationTimeout
  | resourceUnavailable
  | artifactNotFound
  | notInitialized
  deriving DecidableEq, Repr

/-- The broader kinds that a kind belongs to, nearest first: a compilation that runs out of time
has failed, and every failure is a general one. -/
def Kind.broader : Kind → List Kind
  | .general => []
  | .compilationTimeout => [.compilationFailed, .general]
  | _ => [.general]

/-- The kind of a failure. -/
def kind : Failure → Kind
  | .general _ => .general
  | .documentNotFound _ => .documentNotFound
  | .incrementalChangeRejected _ => .incrementalChangeRejected
  | .compilationFailed _ => .compilationFailed
  | .compilationTimeout _ => .compilationTimeout
  | .resourceUnavailable _ => .resourceUnavailable
  | .artifactNotFound _ => .artifactNotFound
  | .notInitialized _ => .notInitialized

/-- The code of a failure. -/
def code : Failure → Int
  | .general _ => -32603
  | .documentNotFound _ => -32001
  | .incrementalChangeRejected _ => -32602
  | .compilationFailed _ => -32010
  | .compilationTimeout _ => -32011
  | .resourceUnavailable _ => -32012
  | .artifactNotFound _ => -32013
  | .notInitialized _ => -32002

/-- The message of a failure (`str`). -/
def message : Failure → Text
  | .general report => report
  | .documentNotFound uri => s!"Documento não está aberto: {uri}"
  | .incrementalChangeRejected uri =>
    s!"Mudança incremental rejeitada para {uri}: o servidor usa TextDocumentSyncKind.Full"
  | .compilationFailed report => report
  | .compilationTimeout limit =>
    "Compilador excedeu o tempo limite de " ++ String.ofList limit.shortText ++ "s"
  | .resourceUnavailable report => report
  | .artifactNotFound path =>
    Text.ofString "Pass-log não encontrado: " ++ path
      ++ Text.ofString " (verifique passName/passNumber/artifactTemplate)"
  | .notInitialized method => s!"Servidor não inicializado: {method}"

/-- The failure of making a work directory (`mkdtemp`). -/
def workDirectory (fault : OsFault) : Failure :=
  .resourceUnavailable s!"Falha ao criar diretório de trabalho: {fault.message}"

/-- The failure of preparing a work directory (`_stage`). -/
def staging (directory : Text) (fault : OsFault) : Failure :=
  .resourceUnavailable (Text.ofString "Falha ao preparar " ++ directory
    ++ Text.ofString s!": {fault.message}")

/-- The failure of finding the compiler. -/
def compilerNotFound (compiler : Text) : Failure :=
  .resourceUnavailable (Text.ofString "Compilador não encontrado: " ++ compiler)

/-- The failure of starting the compiler. -/
def launch (compiler : Text) (fault : OsFault) : Failure :=
  .resourceUnavailable (Text.ofString "Falha ao executar " ++ compiler
    ++ Text.ofString s!": {fault.message}")

/-- The failure of reading the pass log (`resolve_type`). -/
def unreadable (path : Text) (fault : OsFault) : Failure :=
  .resourceUnavailable (Text.ofString "Falha ao ler pass-log " ++ path
    ++ Text.ofString s!": {fault.message}")

/-- The failure of a compilation that ended with a status other than zero, with the end of what
the compiler had to say. -/
def exitStatus (compiler : Text) (status : Int) (tail : String) : Failure :=
  .compilationFailed <|
    compiler ++ Text.ofString s!" terminou com status {status}"
      ++ Text.ofString (if tail.isEmpty then "" else ":\n" ++ tail)

end Failure

end ChapelServer
