import ChapelServer.Template.Fill
import ChapelServer.Value

/-!
# Compiler settings

How the compiler is called and where its pass log is found. The client sends settings as a value
of any shape; what is missing or cannot be used falls back to its default, with a warning for each
value that was there and is not taken.
-/

namespace ChapelServer

/-- How long the compiler may run unless the client says otherwise (`DEFAULT_COMPILER_TIMEOUT`):
thirty seconds. -/
def Settings.defaultTimeout : Number.Binary64 :=
  .finite false 0x1E000000000000 1026

example : Settings.defaultTimeout = .ofDecimal false 30 0 := by decide +kernel

/-- The settings of the compiler and its pass log (`CompilerSettings`). -/
structure Settings where
  compilerPath : Text := "chpl"
  passName : Text := "resolve"
  logPass : Text := "r"
  passNumber : Int := 13
  artifactTemplate : Text := "\x7bstem\x7d_\x7bpass_number\x7d\x7bpass_name\x7d.ast"
  logDirName : Text := "log"
  stagingStem : Text := "text"
  compilerTimeout : Number.Binary64 := Settings.defaultTimeout
  fixedSymbol : Option Text := none
  deriving DecidableEq, Repr

namespace Settings

/-- The name of the file that the document's text is put in (`staging_filename`). -/
def stagingFilename (s : Settings) : Text :=
  s.stagingStem ++ Text.ofString ".chpl"

/-- The fields that the template of the pass log's name may use: the keyword arguments of `format`.
-/
def templateArguments (s : Settings) : Template.Arguments := [
  ("stem", .text s.stagingStem),
  ("pass_number", .number s.passNumber),
  ("pass_name", .text s.passName)]

/-- The name of the pass log (`artifact_name`), if there is room for so many characters. -/
def artifactName (s : Settings) (room : Nat) : Except Template.Error Text :=
  Template.fill room s.templateArguments s.artifactTemplate

/-- The command that compiles a source file and stops after the pass whose log is wanted
(`compiler_command`). -/
def command (s : Settings) (source : Text) : List Text :=
  [s.compilerPath, source, "--log-pass", s.logPass, "--stop-after-pass", s.passName]

/-- What is wrong with a value that was not taken. -/
inductive Warning
  | invalidValue (key : String) (given default : Value)
  | invalidTemplate (template : Text)
  deriving Repr

/-- The text of a warning. -/
def Warning.message : Warning → String
  | .invalidValue key given default =>
    s!"Configuração inválida chapel.{key}=" ++ String.ofList given.literal ++
      ", usando padrão " ++ String.ofList default.literal
  | .invalidTemplate template =>
    "artifactTemplate inválido: " ++ Text.quotedString template ++ ", usando padrão"

/-- What stops the reading of settings altogether. -/
inductive Obstacle
  /-- A number without bound where a bounded one is needed (`OverflowError`). -/
  | unbounded
  /-- A template that asks for what its fields do not have. -/
  | template (error : Template.Error)
  deriving DecidableEq, Repr

/-- What a value of a setting comes to (`_coerce`): it is taken, or it is a `TypeError` or
`ValueError`, or an `OverflowError`. -/
inductive Reading (α : Type)
  | taken (a : α)
  | invalid
  | unbounded
  deriving DecidableEq, Repr

/-- What is there is taken, and what is missing comes to something else. -/
def Reading.ofOption {α : Type} (missing : Reading α) : Option α → Reading α
  | some a => .taken a
  | none => missing

/-- A text that is not blank, trimmed. -/
def readText : Value → Reading Text
  | .text s => if s.stripped = [] then .invalid else .taken s.stripped
  | _ => .invalid

/-- A text that is not blank, trimmed, where there may be none. -/
def readOptionalText (value : Value) : Reading (Option Text) :=
  match readText value with
  | .taken s => .taken (some s)
  | .invalid => .invalid
  | .unbounded => .unbounded

/-- An integer, the integer part of a finite number, or an integer numeral (`int`). -/
def readInteger : Value → Reading Int
  | .int n => .taken n
  | .float (.finite negative mantissa scale) =>
    .taken (Number.Binary64.truncate negative mantissa scale)
  | .float (.infinite _) => .unbounded
  | .text s => .ofOption .invalid (Number.integer? s.chars)
  | _ => .invalid

/-- A number or a numeral (`float`). -/
def readNumber : Value → Reading Number.Binary64
  | .int n => .ofOption .unbounded (Number.Binary64.ofInt? n)
  | .float x => .taken x
  | .text s => .ofOption .invalid (Number.real? s.chars)
  | _ => .invalid

/-- A number that is not zero or below. -/
def readTimeout (value : Value) : Reading Number.Binary64 :=
  match readNumber value with
  | .taken x => if x.atMostZero then .invalid else .taken x
  | other => other

/-- Settings being read: warnings given so far, and possibly an obstacle. -/
abbrev Reader := ExceptT Obstacle (StateM (List Warning))

/-- A warning. -/
def warn (w : Warning) : Reader PUnit :=
  modify (· ++ [w])

/-- The value of one setting: its default when the client sends nothing or null for it, or an
invalid value, for which there is a warning. -/
def take {α : Type} (fields : List (Text × Value)) (key : String)
    (read : Value → Reading α) (default : α) (toValue : α → Value) : Reader α :=
  match fields.lookup (key : Text) with
  | none | some .null => return default
  | some given =>
    match read given with
    | .taken a => return a
    | .invalid => do
      warn (.invalidValue key given (toValue default))
      return default
    | .unbounded => throw .unbounded

/-- The settings without a template that its fields cannot fill in. Only a `ValueError`, a
`KeyError` and an `IndexError` are caught. -/
def checkTemplate (room : Nat) (s : Settings) : Reader Settings :=
  match s.artifactName room with
  | .ok _ => return s
  | .error .malformed | .error .unknownName | .error .noSuchItem => do
    warn (.invalidTemplate s.artifactTemplate)
    return { s with artifactTemplate := ({} : Settings).artifactTemplate }
  | .error error => throw (.template error)

/-- The settings of a section. -/
def readSection (room : Nat) (fields : List (Text × Value)) : Reader Settings := do
  let defaults : Settings := {}
  let text := fun (key : String) (default : Text) => take fields key readText default Value.text
  let compilerPath ← text "compilerPath" defaults.compilerPath
  let passName ← text "passName" defaults.passName
  let logPass ← text "logPass" defaults.logPass
  let passNumber ← take fields "passNumber" readInteger defaults.passNumber Value.int
  let artifactTemplate ← text "artifactTemplate" defaults.artifactTemplate
  let logDirName ← text "logDirName" defaults.logDirName
  let stagingStem ← text "stagingStem" defaults.stagingStem
  let compilerTimeout ←
    take fields "compilerTimeout" readTimeout defaults.compilerTimeout Value.float
  let fixedSymbol ← take fields "fixedSymbol" readOptionalText defaults.fixedSymbol
    fun symbol => symbol.elim .null Value.text
  checkTemplate room {
    compilerPath, passName, logPass, passNumber, artifactTemplate, logDirName, stagingStem,
    compilerTimeout, fixedSymbol }

/-- The section of a client's value that holds the settings: its field `chapel` (`CONFIG_SECTION`),
or the record itself if it has none. -/
def sectionOf? : Value → Option (List (Text × Value))
  | .record fields =>
    match fields.lookup ("chapel" : Text) with
    | some (.record inner) => some inner
    | some _ => none
    | none => some fields
  | _ => none

/-- The settings that a client's value gives (`from_lsp_settings`), with the warnings on the way. -/
def ofValue (room : Nat) (value : Value) : Except Obstacle Settings × List Warning :=
  match sectionOf? value with
  | none => (.ok {}, [])
  | some fields => (readSection room fields).run.run []

/-- The settings as a record prints them (`repr`). -/
def describe (s : Settings) : String :=
  let quoted := Text.quotedString
  let symbol := s.fixedSymbol.elim "None" quoted
  "CompilerSettings(compiler_path=" ++ quoted s.compilerPath ++
    ", pass_name=" ++ quoted s.passName ++
    ", log_pass=" ++ quoted s.logPass ++
    ", pass_number=" ++ String.ofList (Number.decimal s.passNumber) ++
    ", artifact_template=" ++ quoted s.artifactTemplate ++
    ", log_dir_name=" ++ quoted s.logDirName ++
    ", staging_stem=" ++ quoted s.stagingStem ++
    ", compiler_timeout=" ++ String.ofList s.compilerTimeout.text ++
    ", fixed_symbol=" ++ symbol ++ ")"

end Settings

end ChapelServer
