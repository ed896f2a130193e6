import FieldProjection.Text.Outline
import FieldProjection.Text.Quoted

/-!
# Errors with context

An error says what went wrong and, as context is added to it, what was being done at the time.
Adding context puts the kind of a second error in front. If that error is in use elsewhere, only
its message is taken over; if it is not, its kind is, and it must not have context of its own.
-/

namespace FieldProjection

/-- An error that comes from outside the library. -/
inductive ForeignError where
  | plain (message : String)
  | within (context message : String)
  | system (message : String)
deriving DecidableEq

namespace ForeignError

/-- The messages of an error, from the outermost to its root. -/
def messages : ForeignError → List String
  | .plain message => [message]
  | .within context message => [context, message]
  | .system message => [message]

/-- The outermost message. -/
def display : ForeignError → String
  | .plain message => message
  | .within context _ => context
  | .system message => message

/-- The parts of an error. -/
def outline : ForeignError → Text.Outline
  | .plain message => .leaf (Text.quote message)
  | .within context message =>
    .record "Error"
      [("context", .leaf (Text.quoteStrictly context)), ("source", .leaf (Text.quote message))]
  | .system message =>
    .record "Custom" [("kind", .leaf "Other"), ("error", .leaf (Text.quote message))]

end ForeignError

/-- What went wrong, or what was being done. -/
inductive ErrorKind where
  | adhoc (message : String)
  | configuration (message : String)
  | invalidSchema (message : String)
  | foreign (error : ForeignError)
deriving DecidableEq

namespace ErrorKind

/-- The message of a kind. -/
def display : ErrorKind → String
  | .adhoc message => message
  | .configuration message => "configuration error: " ++ message
  | .invalidSchema message => "invalid schema: " ++ message
  | .foreign error => error.display

/-- The messages of the errors below a kind, from the nearest to the root. -/
def sources : ErrorKind → List String
  | .adhoc _ => []
  | .foreign error => error.messages
  | kind => [kind.display]

/-- The parts of a kind. -/
def outline : ErrorKind → Text.Outline
  | .adhoc message => named "Adhoc" message
  | .configuration message => named "Configuration" message
  | .invalidSchema message => named "InvalidSchema" message
  | .foreign error => .tuple "Anyhow" error.outline
where
  /-- A kind that is its message. -/
  named (name message : String) : Text.Outline :=
    .tuple name (.record (name ++ "Error") [("message", .leaf (Text.quote message))])

end ErrorKind

/-- An error: its outermost kind and the kinds that it was added to, down to the root. -/
structure Error where
  kind : ErrorKind
  causes : List ErrorKind
deriving DecidableEq

/-- Why context could not be added. -/
inductive ContextFault where
  | hasCause
deriving DecidableEq

/-- The wording of the fault. -/
def ContextFault.message : ContextFault → String
  | .hasCause => "consequent error must not already have a cause"

/-- Whether an error is in use elsewhere. -/
inductive Ownership where
  | sole
  | shared
deriving DecidableEq

namespace Error

/-- An error of one kind. -/
def ofKind (kind : ErrorKind) : Error := ⟨kind, []⟩

/-- An error described by a text. -/
def adhoc (message : String) : Error := ofKind (.adhoc message)

/-- A setting is missing. -/
def configuration (message : String) : Error := ofKind (.configuration message)

/-- A datamodel or schema makes no sense. -/
def invalidSchema (message : String) : Error := ofKind (.invalidSchema message)

/-- An error from outside the library. -/
def foreign (error : ForeignError) : Error := ofKind (.foreign error)

/-- An error and its causes. -/
def kinds (error : Error) : List ErrorKind :=
  error.kind :: error.causes

/-- Adds a second error as context. -/
def context (error consequent : Error) (ownership : Ownership) : Except ContextFault Error :=
  match ownership with
  | .shared => .ok ⟨.adhoc consequent.kind.display, error.kinds⟩
  | .sole =>
    if consequent.causes.isEmpty then .ok ⟨consequent.kind, error.kinds⟩ else .error .hasCause

/-- Adds a text as context. -/
def within (error : Error) (message : String) : Error :=
  ⟨.adhoc message, error.kinds⟩

/-- The messages of an error and its causes, the most recent first. -/
def display (error : Error) : String :=
  ": ".intercalate (error.kinds.map ErrorKind.display)

/-- Whether a setting is missing. -/
def isConfiguration (error : Error) : Bool :=
  match error.kind with
  | .configuration _ => true
  | _ => false

/-- Whether a datamodel or schema makes no sense. -/
def isInvalidSchema (error : Error) : Bool :=
  match error.kind with
  | .invalidSchema _ => true
  | _ => false

/-- The messages of the errors below an error, from the nearest to the root. -/
def sources (error : Error) : List String :=
  error.kind.sources

/-- The parts of an error of some kind with its causes. -/
def outlineOf (kind : ErrorKind) : List ErrorKind → Text.Outline
  | [] => .record "Error" [("kind", kind.outline), ("cause", .leaf "None")]
  | cause :: rest =>
    .record "Error" [("kind", kind.outline), ("cause", .tuple "Some" (outlineOf cause rest))]

/-- An error with its parts on lines of their own. -/
def pretty (error : Error) : String :=
  (outlineOf error.kind error.causes).render 0

end Error

end FieldProjection
