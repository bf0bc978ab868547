/-
Setting up log output. It is done once for a program; done again it fails, and before that a filter
that cannot be read is refused.
-/
import IamConvergence.Logging.Filter

namespace IamConvergence.Logging

/-- How log output is set up. -/
structure Config where
  /-- The filter, unless the environment gives one. -/
  defaultFilter : String := "info,componator=debug"
  /-- Whether to write JSON lines instead of text. -/
  json : Bool := true
  deriving DecidableEq

/-- Why log output could not be set up. -/
inductive SetupFault where
  | filter (fault : FilterFault)
  | alreadySetUp
  deriving DecidableEq

/-- The wording of a fault. -/
def SetupFault.message : SetupFault → String
  | .filter fault => s!"invalid log filter: {fault.message}"
  | .alreadySetUp =>
    "failed to initialize tracing subscriber: a global default trace dispatcher has " ++
      "already been set"

/-- Sets up log output, given whether that was done before. -/
def setUp (config : Config) (done : Bool) : Except SetupFault Unit := do
  (checkFilter config.defaultFilter).mapError .filter
  if done then .error .alreadySetUp else .ok ()

end IamConvergence.Logging
