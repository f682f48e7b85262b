import Debugger.Settings.Basic
import Debugger.Text.Utf8
import Debugger.Toml.Read

/-! # Loading settings

Settings are written in a document with a section for each of their parts.  Every section and every field
may be left out, and nothing else may stand there.
-/

namespace Debugger

open Toml.Reading

namespace Settings

def maxPort : Nat := UInt16.size - 1

def maxTime : Nat := UInt64.size - 1

def connectFields : List (FieldReading ConnectSettings) :=
  [field "host" text fun host c => { c with host },
    field "port" (natural "u16" maxPort) fun port c => { c with port := .ofNat port },
    field "allow_terminate" boolean fun allowTerminate c => { c with allowTerminate }]

def timeoutFields : List (FieldReading TimeoutSettings) :=
  [field "request_ms" (natural "u64" maxTime) fun request t => { t with request },
    field "suspend_ms" (natural "u64" maxTime) fun suspend t => { t with suspend },
    field "suspend_poll_ms" (natural "u64" maxTime) fun suspendPoll t => { t with suspendPoll },
    field "handshake_ms" (natural "u64" maxTime) fun handshake t => { t with handshake }]

def filterFields : List (FieldReading FilterSettings) :=
  [field "enabled" boolean fun enabled f => { f with enabled },
    field "filter_statics" boolean fun statics f => { f with statics },
    field "filter_synthetics" boolean fun synthetics f => { f with synthetics },
    field "filter_constructors" boolean fun constructors f => { f with constructors },
    field "active_patterns" (list text) fun active f => { f with active },
    field "inactive_patterns" (list text) fun inactive f => { f with inactive }]

def logFields : List (FieldReading LogSettings) :=
  [field "level" text fun level l => { l with level },
    field "json" boolean fun json l => { l with json },
    field "stderr" boolean fun stderr l => { l with stderr },
    field "file" (text "path string") fun file l => { l with file := some file }]

def fields : List (FieldReading Settings) :=
  [field "connect" (struct "struct ConnectConfig" connectFields {}) fun connect s =>
      { s with connect },
    field "timeouts" (struct "struct TimeoutConfig" timeoutFields {}) fun timeouts s =>
      { s with timeouts },
    field "step_filters" (struct "struct StepFilterConfig" filterFields {}) fun stepFilters s =>
      { s with stepFilters },
    field "logging" (struct "struct LoggingConfig" logFields {}) fun logging s =>
      { s with logging }]

end Settings

/-- Why settings cannot be loaded. -/
inductive SettingsError where
  /-- The file cannot be read as a text. -/
  | unreadable (path : String) (reason : String)
  /-- The text is no document. -/
  | malformed
  /-- The document does not describe settings. -/
  | misfit (e : Toml.ReadError)
  deriving DecidableEq, Repr, Inhabited

def SettingsError.message : SettingsError → String
  | unreadable path reason => "failed to read config file " ++ path ++ ": " ++ reason
  | malformed => "failed to parse toml config: malformed document"
  | misfit e =>
    "failed to parse toml config: " ++ e.misfit.message ++
      match e.span with
      | some s => " (at bytes " ++ toString s.start ++ ".." ++ toString s.stop ++ ")"
      | none => ""

namespace Settings

/-- Loads settings from a text. -/
def ofText (text : String) : Except SettingsError Settings :=
  match Toml.parse? text with
  | none => .error .malformed
  | some entries =>
    match struct "struct DebuggerConfig" fields {} (.table none .header entries) with
    | .ok s => .ok s
    | .error e => .error (.misfit e)

/-- Why a file that is not there cannot be read. -/
def missingFile : String := "No such file or directory (os error 2)"

/-- Why a file that holds no text cannot be read. -/
def notText : String := "stream did not contain valid UTF-8"

/-- Loads settings from a file, whose contents are given unless it is missing. -/
def ofFile (path : String) (contents : Option (List UInt8)) : Except SettingsError Settings :=
  match contents with
  | none => .error (.unreadable path missingFile)
  | some bytes =>
    match Text.Utf8.decode? bytes with
    | none => .error (.unreadable path notText)
    | some text => ofText text

/-- Which file to load settings from: the one that was asked for, or the one that the environment names
unless that name is empty. -/
def discover (explicit environment : Option String) : Option String :=
  explicit <|> environment.filter (!·.isEmpty)

end Settings

end Debugger
