import Debugger.Report.Things
import Debugger.Settings.Check
import Debugger.Settings.Load
import Debugger.Settings.LogFilter

/-! # Reports of settings -/

namespace Debugger

open Doc

instance : Reported FilterSettings where
  doc f := record
    [("enabled", doc f.enabled), ("filter_statics", doc f.statics),
      ("filter_synthetics", doc f.synthetics), ("filter_constructors", doc f.constructors),
      ("active_patterns", doc f.active), ("inactive_patterns", doc f.inactive)]

instance : Reported Doubt := ⟨fun d => doc (d.path, d.message)⟩

/-- Every setting, by section. -/
def Settings.allDoc (s : Settings) : Doc := record
  [("connect", record
      [("host", doc s.connect.host), ("port", doc s.connect.port),
        ("allow_terminate", doc s.connect.allowTerminate)]),
    ("timeouts", record
      [("request_ms", doc s.timeouts.request), ("suspend_ms", doc s.timeouts.suspend),
        ("suspend_poll_ms", doc s.timeouts.suspendPoll),
        ("handshake_ms", doc s.timeouts.handshake)]),
    ("step_filters", doc s.stepFilters),
    ("logging", record
      [("level", doc s.logging.level), ("json", doc s.logging.json),
        ("stderr", doc s.logging.stderr), ("file", doc s.logging.file)])]

instance : Reported Settings where
  doc s := record
    [("config", s.allDoc), ("warnings", doc s.doubts), ("address", doc s.connect.address),
      ("default", doc (s == {})),
      ("ms", doc [s.timeouts.request, s.timeouts.suspend, s.timeouts.pollInterval,
        s.timeouts.handshake])]

instance : Reported SettingsError where
  doc
    | .unreadable .. => record [("error", text "Io"), ("names_path", doc true)]
    | .malformed => record [("error", text "Toml")]
    | e => record [("error", text "Toml"), ("message", text e.message)]

end Debugger
