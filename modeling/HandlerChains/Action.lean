import HandlerChains.Script
import HandlerChains.Text.Blank

/-!
# Actions

An action is a callable, or a name that is resolved when the action is due. A name space stands
between dots; the name to resolve is the name space and the name, without the leading dots.
-/

namespace HandlerChains

/-- Something that can be called with a context. Two callables are the same one if they have the
same serial number. -/
structure Callable where
  serial : Nat
  label : String
  ownName : Option String
  body : List Instruction
  result : Value

/-- What an action specification gives. -/
inductive Target where
  | callable (f : Callable)
  | named (name : String)
  | plain (v : Value)

inductive Action where
  | callable (f : Callable)
  | named (name : String)

def Target.literal : Target → String
  | callable f => f.label
  | named name => "Named(name=" ++ Text.quoted name ++ ")"
  | plain v => v.literal

/-- What a target is called where it is asked for what it does not have. -/
def Target.kindName : Target → String
  | callable f => if f.ownName.isSome then "function" else f.label
  | named _ => "Named"
  | plain v => v.kindName

namespace Action

/-- A target as an action. A text is a name, and blanks around it do not count. -/
def ofTarget : Target → Except Failure Action
  | .callable f => .ok (callable f)
  | .named name => .ok (named name)
  | .plain (.text s) =>
    let name := Text.strip s
    if name = "" then .error .blankActionName else .ok (named name)
  | .plain v => .error (.notAnAction v)

def label : Action → String
  | callable f => f.label
  | named name => name

end Action

def isDot (c : Char) : Bool := c == '.'

/-- A name space between dots; the empty one is a single dot. -/
def wrapNameSpace (s : String) : String :=
  let inner := Text.trim isDot s
  if inner = "" then "." else "." ++ inner ++ "."

/-- The name to resolve for a name in a name space. Null is no name space. -/
def fullName (nameSpace : Value) (name : String) : Except Failure String := do
  match nameSpace with
  | .null => return Text.trimStart isDot name
  | v => return Text.trimStart isDot (wrapNameSpace (← Failure.textOf "strip" v) ++ name)

end HandlerChains
