/-!
# Logging

Messages have a level, the more urgent the higher. A logger passes on those at its own level or
above; one without a level follows the one above it, which passes on warnings. Handlers write
what reaches them if it is at their level. The program has one handler of its own for the
console, which is replaced, never doubled, when logging is set up again.
-/

set_option autoImplicit false

namespace DocGraph

namespace LogLevel

/-- No level. -/
def unset : Int := 0

/-- The level of messages that tell what goes on. -/
def info : Int := 20

/-- The level of warnings. -/
def warning : Int := 30

end LogLevel

/-- The logger of the program, and its handlers. -/
structure Logging where
  level : Int := LogLevel.unset
  /-- How many handlers there are that the program has not set up. -/
  foreign : Nat := 0
  /-- The level of the handler for the console, once it is set up. -/
  console : Option Int := none
  deriving DecidableEq, Repr

namespace Logging

/-- The name of the logger. -/
def loggerName : String := "graphfs"

/-- The level that the console is to have: the one that is given, else that of what goes on or
of warnings. -/
def consoleLevel (verbose : Bool) (given : Option Int) : Int :=
  given.getD (if verbose then LogLevel.info else LogLevel.warning)

/-- Set the console up with a level. The logger is lowered to it if it would hold back what the
console is to show. -/
def configure (l : Logging) (consoleLevel : Int) : Logging :=
  { l with
    console := some consoleLevel
    level :=
      if l.level = LogLevel.unset || consoleLevel < l.level then consoleLevel else l.level }

/-- The number of handlers of the console. -/
def consoleHandlers (l : Logging) : Nat :=
  l.console.toList.length

/-- The number of all handlers. -/
def handlers (l : Logging) : Nat :=
  l.foreign + l.consoleHandlers

/-- The level from which on messages are passed on. -/
def effectiveLevel (l : Logging) : Int :=
  if l.level = LogLevel.unset then LogLevel.warning else l.level

/-- Whether the console shows a message of a level. -/
def shows (l : Logging) (level : Int) : Bool :=
  l.effectiveLevel ≤ level && l.console.any (· ≤ level)

end Logging

end DocGraph
