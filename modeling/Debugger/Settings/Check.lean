import Debugger.Settings.Basic
import Debugger.Text.Quoted

/-! # Checking settings

Settings that can be used but are unlikely to be meant.
-/

namespace Debugger

/-- Something doubtful in settings. -/
inductive Doubt where
  /-- A text in a list of patterns is no pattern. -/
  | badPattern (list : String) (index : Nat) (pattern : String) (error : Glob.Error)
  /-- A pattern is in both lists. -/
  | bothLists (pattern : String)
  | zeroSuspend
  | zeroRequest
  | slowPoll
  deriving DecidableEq, Repr, Inhabited

namespace Doubt

/-- Which setting is doubtful. -/
def path : Doubt → String
  | badPattern list index _ _ => "step_filters." ++ list ++ "[" ++ toString index ++ "]"
  | bothLists _ => "step_filters"
  | zeroSuspend => "timeouts.suspend_ms"
  | zeroRequest => "timeouts.request_ms"
  | slowPoll => "timeouts.suspend_poll_ms"

def message : Doubt → String
  | badPattern _ _ pattern error => "invalid pattern " ++ Text.quoted pattern ++ ": " ++ error.message
  | bothLists pattern =>
    "pattern " ++ Text.quoted pattern ++ " is listed as both active and inactive"
  | zeroSuspend => "a zero suspend timeout reports every suspend as timed out"
  | zeroRequest => "a zero request timeout fails every request"
  | slowPoll => "poll interval is longer than the suspend timeout"

end Doubt

/-- The texts of a list that are no patterns. -/
def badPatterns (list : String) (patterns : List String) : List Doubt :=
  patterns.zipIdx.filterMap fun (pattern, index) =>
    match Glob.parse pattern with
    | .ok _ => none
    | .error e => some (.badPattern list index pattern e)

/-- Everything doubtful, in order. -/
def Settings.doubts (s : Settings) : List Doubt :=
  badPatterns "active_patterns" s.stepFilters.active ++
  badPatterns "inactive_patterns" s.stepFilters.inactive ++
  (s.stepFilters.active.filter s.stepFilters.inactive.contains).map .bothLists ++
  (if s.timeouts.suspend = 0 then [.zeroSuspend] else []) ++
  (if s.timeouts.request = 0 then [.zeroRequest] else []) ++
  (if s.timeouts.suspendPoll > s.timeouts.suspend then [.slowPoll] else [])

end Debugger
