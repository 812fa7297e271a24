import HandlerChains.Action

/-!
# Overrides

A declared class can have members under names that routers use themselves. Such a member takes the
place of what a router has under the name: a constant cannot be called, a method takes exactly one
argument, and an empty place has nothing. `expect` lets a step through only where nothing is in its
place.
-/

namespace HandlerChains

/-- What stands in the place of something that routers have. -/
inductive Override where
  | constant (v : Value)
  | method (f : Callable)
  | setup (rs : List Registration)
  | empty

abbrev Overrides := Assoc Override

/-- How something that routers have by themselves is called: without arguments, with a single one of
some kind, with several, or with arguments by name among them. -/
inductive Call where
  | bare
  | alone (kind : String)
  | several (count : Nat)
  | named
  deriving DecidableEq, Repr

/-- A call with so many arguments by position and by name. A single one is of the given kind. -/
def Call.ofCounts (kind : String) (positional keywords : Nat) : Call :=
  if 0 < keywords then named
  else match positional with
    | 0 => bare
    | 1 => alone kind
    | n => several n

/-- The name under which a method takes its context. -/
def contextParameter : String := "context"

/-- A call with so many arguments by position and with options. A single option can be the context
of a method. -/
def Call.ofOptions (kind : String) (positional : Nat) (options : Assoc Value) : Call :=
  match positional, options with
  | 0, [(name, v)] => if name = contextParameter then alone v.kindName else named
  | _, _ => ofCounts kind positional options.length

def firstRead : String := "remaining_route"

/-- What calling an override comes to where no context is handed to it. -/
def Override.misuse (call : Call) : Override → Failure
  | constant v => .notCallable v
  | setup _ => .badCall "the hook takes no arguments"
  | empty => .noAttribute "there is nothing in the place"
  | method f =>
    match call with
    | .named => .badCall (f.label ++ "() got an unexpected keyword argument")
    | .bare => .badCall (f.label ++ "() missing 1 required positional argument: 'context'")
    | .alone kind => .lacking kind firstRead
    | .several n =>
      .badCall (f.label ++ "() takes 2 positional arguments but " ++ toString (n + 1) ++
        " were given")

def Overrides.expect (t : Overrides) (name : String) (call : Call) : Except Failure Unit :=
  match Assoc.get? t name with
  | some o => .error (o.misuse call)
  | none => .ok ()

/-- Fails where a class has something else in the place of what is asked of the class itself. An
empty place is found there, and it cannot be called. -/
def Overrides.expectOfClass (t : Overrides) (name : String) (call : Call) : Except Failure Unit :=
  match Assoc.get? t name with
  | some .empty => .error (.badCall "'member_descriptor' object is not callable")
  | _ => t.expect name call

@[simp] theorem Overrides.expect_nil (name : String) (call : Call) :
    Overrides.expect [] name call = .ok () := rfl

end HandlerChains
