import ChapelServer.Failure
import ChapelServer.Server.Capabilities
import ChapelServer.Settings

/-!
# Notices

What the server writes to its log, with the level and the text of each.
-/

namespace ChapelServer

/-- How serious a notice is. -/
inductive Level
  | info
  | warning
  | error
  deriving DecidableEq, Repr

/-- The name of a level. -/
def Level.name : Level → String
  | .info => "INFO"
  | .warning => "WARNING"
  | .error => "ERROR"

/-- What happened to a file that the client watches (`FileChangeType`). -/
inductive FileChange
  | created
  | changed
  | deleted
  deriving DecidableEq, Repr

/-- The name of a change. -/
def FileChange.name : FileChange → String
  | .created => "Created"
  | .changed => "Changed"
  | .deleted => "Deleted"

/-- A record of the log: a call of `logger`, with what is filled in. -/
inductive Notice
  | starting
  | version (version : String)
  | ready (capabilities : Capabilities)
  | settingsWarning (warning : Settings.Warning)
  | settingsApplied (settings : Settings)
  | registered
  | registrationFailed (reason : String)
  | foldersChanged
  | stopped
  | configurationFailed (reason : String)
  | fileChanged (uri : String) (change : FileChange)
  | openIgnored (uri : String)
  | opened (uri : String)
  | changeIgnored (uri : String)
  | changed (uri : String) (version : Int)
  | changeRejected (failure : Failure)
  | closed (uri : String)
  | compiling (command : List Text)
  | timedOut (limit : Number.Binary64)
  | compilationCancelled
  | noArtifact (name passName : Text)
  | inconsistent (failure : Failure)
  | hoverFailed (uri : String) (failure : Failure)
  deriving Repr

namespace Notice

/-- The level of a notice. -/
def level : Notice → Level
  | .settingsWarning _ | .registrationFailed _ | .configurationFailed _ | .openIgnored _
  | .changeIgnored _ | .timedOut _ | .hoverFailed _ _ => .warning
  | .changeRejected _ | .noArtifact _ _ | .inconsistent _ => .error
  | _ => .info

/-- The text of a notice. -/
def message : Notice → Text
  | .starting => "Iniciando Chapel Language Server..."
  | .version v => s!"chapel-lsp: {v}"
  | .ready capabilities => s!"Servidor inicializado: {capabilities.describe}"
  | .settingsWarning warning => warning.message
  | .settingsApplied settings => s!"Configuração atualizada: {settings.describe}"
  | .registered => "Registrado para workspace/didChangeConfiguration"
  | .registrationFailed reason => s!"Falha ao registrar didChangeConfiguration: {reason}"
  | .foldersChanged => "Mudança de workspace folders recebida"
  | .stopped => "Servidor encerrado"
  | .configurationFailed reason => s!"Falha ao obter configuração do cliente: {reason}"
  | .fileChanged uri change => s!"Arquivo monitorado mudou: {uri} (tipo: {change.name})"
  | .openIgnored uri => s!"didOpen antes de initialize ignorado: {uri}"
  | .opened uri => s!"Documento aberto: {uri}"
  | .changeIgnored uri => s!"didChange antes de initialize ignorado: {uri}"
  | .changed uri v => s!"Documento modificado: {uri} (v{v})"
  | .changeRejected failure => Text.ofString "didChange rejeitado: " ++ failure.message
  | .closed uri => s!"Documento fechado: {uri}"
  | .compiling command => Text.ofString "Executando compilador: " ++ Text.joined " " command
  | .timedOut limit =>
    "Compilador excedeu " ++ String.ofList limit.shortText ++ "s, processo encerrado"
  | .compilationCancelled => "Compilação cancelada pelo cliente"
  | .noArtifact name passName =>
    Text.ofString "Compilação concluiu sem gerar " ++ name ++ Text.ofString "; pass '" ++ passName
      ++ Text.ofString "' e artefato não correspondem"
  | .inconsistent failure =>
    Text.ofString "Configuração inconsistente do pass-log: " ++ failure.message
  | .hoverFailed uri failure => Text.ofString s!"Hover falhou para {uri}: " ++ failure.message

end Notice

end ChapelServer
