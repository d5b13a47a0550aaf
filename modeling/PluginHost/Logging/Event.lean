import PluginHost.Instances

/-!
# Log events

What a part of the host reports while it works: how grave it is, where it comes from, and what happened.
-/

namespace PluginHost

/-- The levels of log events, the gravest first. -/
inductive LogLevel
  | error | warn | info | debug | trace
deriving DecidableEq, Repr

namespace LogLevel

/-- The name of a level in a report. -/
def name : LogLevel → String
  | error => "ERROR"
  | warn => "WARN"
  | info => "INFO"
  | debug => "DEBUG"
  | trace => "TRACE"

/-- How much a level lets through. -/
def rank : LogLevel → Nat
  | error => 1
  | warn => 2
  | info => 3
  | debug => 4
  | trace => 5

end LogLevel

/-- A log event: how grave it is, which part of the host it comes from, and what happened. -/
structure Event where
  level : LogLevel
  target : String
  message : String
deriving DecidableEq, Repr

end PluginHost
