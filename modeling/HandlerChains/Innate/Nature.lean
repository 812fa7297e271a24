import HandlerChains.Context
import HandlerChains.Text.Fields

/-!
# The natures of kinds

Things of a kind have some things by themselves, such as the methods of texts. A nature lists what a
kind defines for its things, and how each of them takes a call with a context. What a kind does not
define it has from the kinds that it stands on.
-/

namespace HandlerChains

/-- How something takes a call with a context: it answers something truthy or falsy, or fails in a
way of its own, or takes nothing, or fills the text it belongs to or maps its characters, or calls
what it belongs to.
`includes` tells whether the context is of the kind it belongs to, `misfits` and `foreign` ask for a
thing of their own kind, `reads` does what the function of a property does, `alone` takes only the
thing it belongs to, and `closed` is a kind of which nothing can be made. -/
inductive Reaction where
  | answers (truthy : Bool)
  | fails (f : Failure)
  | bare
  | fillsPercent
  | fillsBraces (byName : Bool)
  | maps
  | passesOn
  | includes
  | misfits
  | foreign
  | reads
  | alone
  | closed

namespace Reaction

def context : String := Context.kindName

def comparisons : String := "__eq__ __ge__ __gt__ __le__ __lt__ __ne__"

def complains (text : String) : Reaction := fails (.badCall text)

def noInteger : Reaction :=
  complains ("'" ++ context ++ "' object cannot be interpreted as an integer")

def noIterable : Reaction := complains ("'" ++ context ++ "' object is not iterable")

def noName : Reaction := complains ("attribute name must be string, not '" ++ context ++ "'")

def noText (start : String) : Reaction := complains (start ++ "must be str, not " ++ context)

def noBytes : Reaction :=
  complains ("a bytes-like object is required, not '" ++ context ++ "'")

def noByte : Reaction :=
  complains ("argument should be integer or bytes-like object, not '" ++ context ++ "'")

def twoExpected : Reaction := complains " expected 2 arguments, got 1"

def noKey : Reaction := fails (.unworded .missingKey context)

def noItem (text : String) : Reaction := fails (.unworded .badValue text)

def lacks (field : String) : Reaction := fails (.lacking context field)

end Reaction

/-- What a method does with a context where its owner keeps what is put into it: puts it in, or does
so once, or tells whether it is there, or where it is, or takes it out, or reads what is under
it. -/
inductive Keeping where
  | add
  | addOnce
  | has
  | find
  | drop
  | read

namespace Keeping

/-- What an owner keeps after a call, given how many other things it has and what it kept before,
and whether the answer is truthy. Without a result the method takes the call as if nothing were
there. -/
def take? (k : Keeping) (others : Nat) (kept : List ContextRef) (c : ContextRef) :
    Option (List ContextRef × Bool) :=
  match k with
  | add => some (kept ++ [c], false)
  | addOnce => some (if c ∈ kept then kept else kept ++ [c], false)
  | has => if c ∈ kept then some (kept, true) else none
  | find => if c ∈ kept then some (kept, others + kept.idxOf c != 0) else none
  | drop => if c ∈ kept then some (kept.erase c, false) else none
  | read => if c ∈ kept then some (kept, false) else none

end Keeping

def rowHas (row name : String) : Bool := name != "" && (Text.fields ' ' row).contains name

/-- Rows of names between blanks, each under what its names have in common. -/
abbrev Rows (α : Type) := List (α × String)

namespace Rows

def get? (rows : Rows α) (name : String) : Option α :=
  (rows.find? fun row => rowHas row.2 name).map Prod.fst

@[simp] theorem get?_nil (name : String) : get? ([] : Rows α) name = none := rfl

end Rows

/-- What a kind defines for its things. `operators`, `routines` and `functions` are methods, and
`shared` are methods of the kind itself; `free` says how they take a call where the kind is asked
for them in place of a thing. `getters`, `places` and `properties` are read off a thing, `constants`
are the same for all things, and `own` is what a thing has in no other way; their rows say of what
kind they are. -/
structure Nature where
  kind : String
  base : String := "object"
  /-- What texts about arguments call the kind. -/
  typeName : String := kind
  /-- Whether the kind has its own way of making things. -/
  constructs : Bool := true
  /-- How the kind itself takes a call with a context. -/
  making : Reaction := .closed
  operators : Rows Reaction := []
  routines : Rows Reaction := []
  shared : Rows Reaction := []
  functions : Rows Reaction := []
  free : Rows Reaction := []
  getters : Rows String := []
  places : Rows String := []
  properties : Rows String := []
  constants : Rows String := []
  own : Rows String := []
  /-- The routines and operators that use what was put into a thing. -/
  keeping : Rows Keeping := []
  /-- The kinds of the text about the kind and of the text about how it is called. -/
  about : String := "str"
  signature : String := "NoneType"
  /-- The methods without a text about how they are called. -/
  unsigned : String := ""
  /-- What has no text about itself where such things have one, and the other way round. -/
  undescribed : String := ""
  described : String := ""
  /-- The functions that use what is around them, and those with arguments by name only that need
  not be given. -/
  enclosed : String := ""
  lenient : String := ""

inductive Feature where
  | operator (r : Reaction)
  | routine (r : Reaction)
  | shared (r : Reaction)
  | function (r : Reaction)
  | getter (kind : String)
  | place (kind : String)
  | property (kind : String)
  | constant (kind : String)

namespace Feature

/-- Whether a feature is read off a thing before what was put into the thing. -/
def isRead : Feature → Bool
  | getter _ | place _ | property _ => true
  | _ => false

end Feature

namespace Nature

def feature? (n : Nature) (name : String) : Option Feature :=
  ((n.operators.get? name).map .operator).or <|
  ((n.routines.get? name).map .routine).or <|
  ((n.shared.get? name).map .shared).or <|
  ((n.functions.get? name).map .function).or <|
  ((n.getters.get? name).map .getter).or <|
  ((n.places.get? name).map .place).or <|
  ((n.properties.get? name).map .property).or <|
  (n.constants.get? name).map .constant

/-- How a method takes a call with a context where the kind is asked for it. -/
def freely (n : Nature) (name : String) : Reaction := (n.free.get? name).getD .foreign

end Nature
end HandlerChains
