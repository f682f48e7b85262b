import Debugger.Code
import Debugger.Glob

/-! # Step filters

Code that a step into passes through without stopping: types whose name a pattern covers, and
categories of methods.  The settings are what a user edits; a step works with a compiled snapshot of
them, so an edit never affects a step in flight.
-/

namespace Debugger

/-- The user's filter options.  A pattern that is switched off is kept among the inactive ones. -/
structure FilterSettings where
  enabled : Bool := true
  statics : Bool := false
  synthetics : Bool := true
  constructors : Bool := false
  active : List String := []
  inactive : List String := ["com.sun.*", "java.*", "javax.*", "org.omg.*", "sun.*", "sunw.*"]
  deriving DecidableEq, Repr, Inhabited

namespace FilterSettings

/-- Takes `pattern` out of the list it leaves and appends it to the one it joins, unless it is there. -/
private def move (pattern : String) (leaves joins : List String) : List String × List String :=
  (leaves.filter (· != pattern), if joins.contains pattern then joins else joins ++ [pattern])

/-- Moves a pattern into the active list. -/
def activate (s : FilterSettings) (pattern : String) : FilterSettings :=
  let (inactive, active) := move pattern s.inactive s.active
  { s with active, inactive }

/-- Moves a pattern into the inactive list. -/
def deactivate (s : FilterSettings) (pattern : String) : FilterSettings :=
  let (active, inactive) := move pattern s.active s.inactive
  { s with active, inactive }

end FilterSettings

/-- A compiled snapshot of the filter options. -/
structure StepFilters where
  enabled : Bool
  statics : Bool
  synthetics : Bool
  constructors : Bool
  /-- The active patterns, less those that are no patterns. -/
  patterns : List String
  globs : List (List Glob.Piece)
  deriving Repr, Inhabited

namespace StepFilters

/-- Compiles the options.  Texts that are no patterns are dropped; when a pattern asks for a byte range
that runs downwards, no type is filtered by name. -/
def ofSettings (s : FilterSettings) : StepFilters :=
  let compiled := s.active.filterMap fun text =>
    match Glob.parse text with
    | .ok pieces => some (text, pieces)
    | .error _ => none
  let globs := compiled.map (·.2)
  { enabled := s.enabled
    statics := s.statics
    synthetics := s.synthetics
    constructors := s.constructors
    patterns := compiled.map (·.1)
    globs := if globs.all Glob.piecesWellFormed then globs else [] }

/-- No filtering at all, not even for a step that asks for it. -/
def none : StepFilters := ⟨false, false, false, false, [], []⟩

/-- Whether filtering applies to a step, which may ask for it by itself. -/
def applies (f : StepFilters) (requested : Bool) : Bool := f.enabled || requested

def hasPatterns (f : StepFilters) : Bool := !f.patterns.isEmpty

/-- Whether some pattern covers the type's fully qualified name. -/
def coversType (f : StepFilters) (typeName : String) : Bool :=
  f.globs.any (Glob.covers · typeName)

/-- Whether the method belongs to a filtered category. -/
def coversMethod (f : StepFilters) (m : Method) : Bool :=
  f.statics && m.isStaticInitializer || f.synthetics && m.isSynthetic ||
    f.constructors && m.isConstructor

/-- Whether a step passes through the location. -/
def coversLocation (f : StepFilters) (l : Location) (requested : Bool) : Bool :=
  f.applies requested && (f.coversMethod l.method || f.coversType l.method.declaringType)

end StepFilters

end Debugger
