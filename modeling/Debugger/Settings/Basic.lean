import Debugger.StepFilter

/-! # Settings

What a user can set, each part with a default of its own.
-/

namespace Debugger

/-- Where the machine listens. -/
structure ConnectSettings where
  host : String := "127.0.0.1"
  port : UInt16 := 5005
  /-- Whether the client may end the machine. -/
  allowTerminate : Bool := false
  deriving DecidableEq, Repr, Inhabited

/-- Host and port in one text. -/
def ConnectSettings.address (c : ConnectSettings) : String := c.host ++ ":" ++ toString c.port

/-- Spans of time, in milliseconds. -/
structure TimeoutSettings where
  /-- How long an ordinary request may take. -/
  request : Nat := 3000
  /-- How long a suspend request waits for its confirmation. -/
  suspend : Nat := 3000
  /-- The time between two looks at a thread that is to be suspended. -/
  suspendPoll : Nat := 50
  /-- How long the greeting may take when a connection is made. -/
  handshake : Nat := 5000
  deriving DecidableEq, Repr, Inhabited

/-- The time between two looks, which is never zero. -/
def TimeoutSettings.pollInterval (t : TimeoutSettings) : Nat := max t.suspendPoll 1

/-- What is logged, and where to. -/
structure LogSettings where
  /-- A level, or a list of directives. -/
  level : String := "info"
  json : Bool := false
  stderr : Bool := true
  file : Option String := none
  deriving DecidableEq, Repr, Inhabited

/-- Everything that can be set. -/
structure Settings where
  connect : ConnectSettings := {}
  timeouts : TimeoutSettings := {}
  stepFilters : FilterSettings := {}
  logging : LogSettings := {}
  deriving DecidableEq, Repr, Inhabited

end Debugger
