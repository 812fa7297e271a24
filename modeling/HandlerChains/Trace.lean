import HandlerChains.Context
import HandlerChains.Router.Basic
import HandlerChains.Text.Elapsed
import HandlerChains.Text.Fields

/-!
# Reports

What a world tells its users: the reply to a command, the events of a run in the order in which they
happened, and the lines that were logged.
-/

namespace HandlerChains

/-- How a dispatch ended. -/
inductive Outcome where
  | matched | notMatched
  | failed (f : Failure)

namespace Outcome

def label : Outcome → String
  | matched => "matched"
  | notMatched => "not_matched"
  | failed _ => "failed"

def failure? : Outcome → Option Failure
  | failed f => some f
  | _ => none

def isMatched : Outcome → Bool
  | matched => true
  | _ => false

def isFailed (o : Outcome) : Bool := o.failure?.isSome

end Outcome

structure EntryRow where
  name : Value
  kind : Value
  error : Bool
  plugins : List String
  metadata : Assoc Value

/-- The answer to a command. `ran` and `dispatched` come with the context as it was left,
`responded` with what was written to the response. -/
inductive Reply where
  | value (v : Value)
  | returnedAction (same : Bool)
  | callable (label : String)
  | context (c : Context)
  | handler (defaultName description : Value)
  | entries (rows : List EntryRow)
  | ran (result : Except Failure Value) (c : Context)
  | dispatched (outcome : Outcome) (c : Context)
  | responded (outcome : Outcome) (body : Value)

def Reply.nothing : Reply := value .null

/-- What happens while a command is performed. `asked` and `returned` mark the ends of a predicate's
and an action's call and are not shown. -/
inductive Event where
  | called (label : String) (c : Context)
  | returned (label : String)
  | asked (p : Predicate) (c : Context)
  | required (field : Field) (v : FieldValue)
  | answered (answer : Except Failure Reply)
  | executed (module : String)
  | entered (plugin : String) (handler : Value)
  | exited (plugin : String) (handler result : Value)

def Event.isShown : Event → Bool
  | returned _ | asked .. => false
  | _ => true

inductive Sink where
  | debug | info | custom | print
  deriving DecidableEq, Repr

def Sink.label : Sink → String
  | debug => "debug"
  | info => "info"
  | custom => "custom"
  | print => "print"

structure LogLine where
  sink : Sink
  text : String
  deriving DecidableEq, Repr

/-- The lines that a reader of the log sees, without times. Debug lines are for verbose readers, and
a printed text takes as many lines as it has. -/
def LogLine.visible (verbose : Bool) (l : LogLine) : List LogLine :=
  let line (text : String) : LogLine := { l with text := Text.withoutTimes text }
  match l.sink with
  | .debug => if verbose then [line l.text] else []
  | .print => (Text.fields '\n' l.text).map line
  | .info | .custom => [line l.text]

end HandlerChains
