import HandlerChains.Failure.Kind
import HandlerChains.Options.Rule
import HandlerChains.Pattern
import HandlerChains.Value.Literal

/-!
# Failures

A failure is its cause; `kind`, `message` and `literal` are read off it. What actions raise is
`raised`; `unworded` is for operations that were asked of a value that has no such operation, whose
wording is no part of an answer.
-/

namespace HandlerChains

inductive Failure where
  | raised (kind : Failure.Kind) (text : String)
  | brokenModule (text : String) (missing : Option String)
  | unworded (kind : Failure.Kind) (text : String)
  | missingField (field : String)
  | unknownAction (name : Value)
  | outsideBase (path base : String)
  | badPattern (source : String) (fault : Pattern.Fault) (offset : Nat)
  | patternNotText (v : Value)
  | blankActionName
  | notAnAction (v : Value)
  | predicateNotCallable (v : Value)
  | actionNotCallable (shown : String)
  | actionNameTaken (name : String)
  | blankMethod
  | mountNeedsRouter (v : Value)
  | notAHandler (v : Value)
  | containsItself
  | mountCycle (child parent : Value)
  | handlerNameTaken (name : Value)
  | notAPluginClass
  | pluginWithoutCode (className : String)
  | pluginCodeTaken (code : String)
  | pluginNotText (v : Value)
  | unknownPlugin (name : String) (available : List String)
  | alreadyAttached (name : String)
  | notAttached (name : String) (router : Value)
  | privateName (name : String)
  | noOptions (plugin : String) (given : List String)
  | nothingToRaise
  | invalid (refusals : List Options.Refusal)

namespace Failure

def kind : Failure → Kind
  | raised kind _ => kind
  | brokenModule .. => .missingModule
  | unworded kind _ => kind
  | missingField _ => .missingField
  | unknownAction _ => .unknownAction
  | outsideBase .. => .outsideBase
  | badPattern .. => .pattern
  | patternNotText _ | notAnAction _ | predicateNotCallable _ | actionNotCallable _
  | mountNeedsRouter _ | notAHandler _ | notAPluginClass | pluginNotText _
  | noOptions .. | nothingToRaise => .badType
  | blankActionName | actionNameTaken _ | blankMethod | containsItself | mountCycle ..
  | handlerNameTaken _ | pluginWithoutCode _ | pluginCodeTaken _ | unknownPlugin ..
  | alreadyAttached _ => .badValue
  | notAttached .. | privateName _ => .badAttribute
  | invalid _ => .invalid

/-- What a failure says before its kind decides how that is shown. -/
def text : Failure → String
  | raised _ text => text
  | brokenModule text _ => text
  | unworded _ text => text
  | missingField field => "Dispatch context field '" ++ field ++ "' is missing"
  | unknownAction name => "Action '" ++ name.shown ++ "' not found"
  | outsideBase path base => "Path '" ++ path ++ "' is outside the base path '" ++ base ++ "'"
  | badPattern source fault offset =>
    "Invalid route pattern " ++ Text.quoted source ++ " at offset " ++ toString offset ++ ": " ++
      fault.reason
  | patternNotText v => "Route pattern must be a string, got " ++ v.kindName
  | blankActionName => "Action name must not be empty"
  | notAnAction v => "Unsupported action: " ++ v.literal
  | predicateNotCallable v => "Predicate must be callable, got " ++ v.literal
  | actionNotCallable shown => "Action must be callable, got " ++ shown
  | actionNameTaken name => "Action name collision: " ++ name
  | blankMethod => "Endpoint requires a method"
  | mountNeedsRouter v => "Mount requires a router, got " ++ v.kindName
  | notAHandler v => "Unsupported handler: " ++ v.literal
  | containsItself => "A router cannot contain itself"
  | mountCycle child parent =>
    "Adding router " ++ child.literal ++ " to " ++ parent.literal ++ " would create a mount cycle"
  | handlerNameTaken name => "Handler name collision: " ++ name.shown
  | notAPluginClass => "plugin_class must be a BasePlugin subclass"
  | pluginWithoutCode className =>
    "Plugin " ++ className ++ " not following standards: missing plugin_code"
  | pluginCodeTaken code => "Plugin '" ++ code ++ "' already registered"
  | pluginNotText v => "Plugin must be referenced by name string, got " ++ v.kindName
  | unknownPlugin name available =>
    "Unknown plugin '" ++ name ++ "'. Register it first. Available plugins: " ++
      (if available.isEmpty then "none" else Value.separated available)
  | alreadyAttached name =>
    "Plugin '" ++ name ++ "' is already attached to this router. " ++
      "Use configure() to update settings."
  | notAttached name router =>
    "No plugin named '" ++ name ++ "' attached to router '" ++ router.shown ++ "'"
  | privateName name => name
  | noOptions plugin given =>
    "Plugin '" ++ plugin ++ "' accepts no options: " ++ Value.textsLiteral given
  | nothingToRaise => "exceptions must derive from BaseException"
  | invalid _ => ""

/-- A missing key is reported by its literal, everything else by its text. -/
def message (f : Failure) : String :=
  if f.kind = .missingKey then Text.quoted f.text else f.text

/-- A failure as it is shown in logs: its kind around its text. -/
def literal (f : Failure) : String :=
  f.kind.label ++ "(" ++ Text.quoted f.text ++ ")"

/-- Whether the message belongs to the answer. -/
def isWorded : Failure → Bool
  | unworded .. | invalid _ => false
  | _ => true

/-- A failure of a kind with a text of its own. Two kinds build their message from the text. -/
def ofKind : Kind → String → Failure
  | .missingField, text => missingField text
  | .unknownAction, text => unknownAction (.text text)
  | .missingModule, text => brokenModule text none
  | kind, text => raised kind text

def isOrdinary (f : Failure) : Bool := f.kind.isOrdinary

def noAttribute (text : String) : Failure := unworded .badAttribute text

def lacking (kind asked : String) : Failure :=
  noAttribute ("'" ++ kind ++ "' object has no attribute '" ++ asked ++ "'")

def lacks (v : Value) (asked : String) : Failure := lacking v.kindName asked

def badCall (text : String) : Failure := unworded .badType text

/-- A place that things of a kind seem to have and that is one of another kind of the same name. -/
def strangePlace (place kind : String) : Failure :=
  badCall ("descriptor '" ++ place ++ "' for '" ++ kind ++ "' objects doesn't apply to a '" ++ kind ++
    "' object")

def notCallable (v : Value) : Failure :=
  badCall ("'" ++ v.kindName ++ "' object is not callable")

/-- A value in which a pattern was to be found, and which is no text. -/
def notSearchable (v : Value) : Failure :=
  badCall ("expected string or bytes-like object, got '" ++ v.kindName ++ "'")

/-- A value to which one was to be added, and which is no number. -/
def notCountable : Value → Failure
  | .text _ => badCall "can only concatenate str (not \"int\") to str"
  | .list _ => badCall "can only concatenate list (not \"int\") to list"
  | v => badCall ("unsupported operand type(s) for +: '" ++ v.kindName ++ "' and 'int'")

/-- A value that can name nothing, used as a name. -/
def notAName (v : Value) : Failure := badCall ("unhashable type: '" ++ v.kindName ++ "'")

/-- What a value consists of, if it consists of anything. -/
def itemsOf (v : Value) : Except Failure (List Value) :=
  match v.items? with
  | some items => .ok items
  | none => .error (badCall ("'" ++ v.kindName ++ "' object is not iterable"))

def textOf (asked : String) : Value → Except Failure String
  | .text s => .ok s
  | v => .error (lacks v asked)

/-- A value as the text in which a pattern is to be found. -/
def searched : Value → Except Failure String
  | .text s => .ok s
  | v => .error (notSearchable v)

/-- The key of a value that is used as a name. -/
def keyOf (v : Value) : Except Failure Key :=
  match v.key? with
  | some key => .ok key
  | none => .error (notAName v)

theorem key_of_keyOf {v : Value} {key : Key} (h : keyOf v = .ok key) : v.key = key := by
  unfold keyOf at h
  unfold Value.key
  split at h
  · next found =>
    cases h
    rw [found]
    rfl
  · cases h

end Failure

def Text.occursIn (part s : String) : Bool :=
  (List.range (s.length + 1)).any fun i => part.toList.isPrefixOf (s.toList.drop i)

/-- Whether a value has a member: a list its items, a text its parts, a record its names. -/
def hasMember (container v : Value) : Except Failure Bool :=
  match container, v with
  | .list items, v => .ok (items.any v.same)
  | .record fields, v => do
    match ← Failure.keyOf v with
    | .text name => return Assoc.has fields name
    | _ => return false
  | .text s, .text part => .ok (Text.occursIn part s)
  | .text _, v =>
    .error (.badCall ("'in <string>' requires string as left operand, not " ++ v.kindName))
  | container, _ =>
    .error (.badCall ("argument of type '" ++ container.kindName ++ "' is not iterable"))

end HandlerChains
