/-!
# Log records

What the library reports while it works: a level and a text. Each activity has its own type of
events, which says how an event is worded.
-/

namespace FieldProjection

/-- How important a record is. -/
inductive LogLevel where
  | trace
  | debug
  | info
deriving DecidableEq

/-- The name of a level. -/
def LogLevel.name : LogLevel → String
  | .trace => "TRACE"
  | .debug => "DEBUG"
  | .info => "INFO"

/-- A report at a level. -/
structure LogRecord where
  level : LogLevel
  message : String
deriving DecidableEq

end FieldProjection
