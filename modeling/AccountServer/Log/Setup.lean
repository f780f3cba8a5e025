import AccountServer.Config.Basic
import AccountServer.Log.Directive

/-!
# Setting the log up

The log is set up once, before anything is served. A filter from the surroundings wins over the
level of the configuration, and both formats are set up in the same way.
-/

namespace AccountServer.Log

/-- Why the log is not set up. -/
inductive Fault where
  /-- There is no filter that can be read. -/
  | level (text : String)
  /-- There is a log already. -/
  | taken
  deriving DecidableEq, Repr

def Fault.message : Fault → String
  | .level text => "invalid log level '" ++ text ++ "'"
  | .taken => "setting default subscriber failed"

/-- Sets the log up, unless there is one already. -/
def setUp (config : LogConfig) (surroundings : Option String) (taken : Bool) :
    Except Fault Unit :=
  if !isUsable config.level surroundings then .error (.level config.level)
  else if taken then .error .taken
  else .ok ()

end AccountServer.Log
