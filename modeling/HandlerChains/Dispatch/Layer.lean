import HandlerChains.Exec
import HandlerChains.Value.Succ

/-!
# Plugin layers

A layer stands between a router and a handler. At each call it asks whether its plugin is on for the
handler, and if not, the call goes straight through. What a plugin reads from its configuration it
reads when it is called.
-/

namespace HandlerChains
namespace Dispatch

open Exec

/-- A plugin on the way to an entry. -/
structure Layer where
  router : RouterRef
  plugin : Plugin
  entry : Value

namespace Layer

def store (l : Layer) : Exec PluginStore := return (← Exec.router l.router).store

/-- Fails where the class of the router has something of its own in the place of a way to the
store. -/
def expectStore (l : Layer) (name : String) (arguments : Nat) : Exec Unit := do
  let r ← Exec.router l.router
  lift (r.expect name (.several arguments))
  lift (r.expect "_get_plugin_bucket" (.alone "str"))

/-- Counts the call, then lets it through. What was counted so far has to be a number. -/
def count (l : Layer) (next : Exec Value) : Exec Value := do
  let key : Key := .text "calls"
  l.expectStore "get_runtime_data" 4
  let calls := ((← l.store).data? l.plugin.name l.entry.key key).getD (.int 0)
  match calls.succ? with
  | none => fail (.notCountable calls)
  | some calls =>
    l.expectStore "set_runtime_data" 4
    modify fun w =>
      let r := w.router l.router
      w.setRouter l.router { r with
        store := r.store.writeData l.plugin.name l.entry.key key calls }
    next

/-- Records when the call begins and how it ends, unless it fails. -/
def trace (l : Layer) (next : Exec Value) : Exec Value := do
  record (.entered l.plugin.name l.entry)
  let result ← next
  record (.exited l.plugin.name l.entry result)
  return result

/-- Answers or fails in place of the handler, if it is configured to. -/
def gate (l : Layer) (next : Exec Value) : Exec Value := do
  match Assoc.get? ((← l.store).configuration l.plugin.name l.entry.key) "force" with
  | some (.text "match") => return .bool true
  | some (.text "decline") => return .bool false
  | some (.text "raise") => fail (.raised .boom ("gate " ++ l.entry.shown))
  | _ => next

/-- What the logging plugin does for an entry. -/
structure LogSettings where
  enabled : Bool
  before : Bool
  after : Bool
  log : Bool
  print : Bool
  deriving DecidableEq, Repr

/-- Settings as they are configured; what is null or not given has its default. -/
def LogSettings.ofConfig (config : Assoc Value) : LogSettings :=
  let flag (name : String) (default : Bool) : Bool :=
    match Assoc.get? config name with
    | none | some .null => default
    | some v => v.isTruthy
  { enabled := flag "enabled" true
    before := flag "before" false
    after := flag "after" true
    log := flag "log" true
    print := flag "print" false }

/-- Where lines go, if they go anywhere. What is no logger cannot be asked whether it takes them. -/
def LogSettings.sink? (s : LogSettings) (logger : Logger) : Except Failure (Option Sink) :=
  if s.print then .ok (some .print)
  else if s.log then
    match logger with
    | .standard => .ok (some .info)
    | .custom => .ok (some .custom)
    | .silent => .ok (some .print)
    | .unusable kind => .error (.lacking kind "hasHandlers")
  else .ok none

def logLabel (router entry : Value) : String :=
  if router.isTruthy then router.shown ++ ":" ++ entry.shown else entry.shown

/-- How long a call took, without the number. -/
def elapsed : String := " (# ms)"

def emit (l : Layer) (router : Value) (settings : LogSettings) (wanted : Bool) (text : String) :
    Exec Unit := do
  if wanted then
    match ← lift (settings.sink? l.plugin.logger) with
    | some sink => logLine sink (logLabel router l.entry ++ text)
    | none => pure ()

/-- Logs that a call begins, if that is asked for, and how it ended. -/
def report (l : Layer) (router : Value) (settings : LogSettings) (next : Exec Value) :
    Exec Value := do
  l.emit router settings settings.before " start"
  match ← attempt next with
  | .ok v =>
    l.emit router settings settings.after
      ((if v.isTruthy then " matched" else " declined") ++ elapsed)
    return v
  | .error f =>
    l.emit router settings settings.after (" failed: " ++ f.literal ++ elapsed)
    fail f

def log (l : Layer) (next : Exec Value) : Exec Value := do
  let r ← Exec.router l.router
  let settings := LogSettings.ofConfig (r.store.configuration l.plugin.name l.entry.key)
  if settings.enabled then l.report r.name settings next else next

/-- What a plugin that is on does with a call. -/
def wrap (l : Layer) (next : Exec Value) : Exec Value :=
  match l.plugin.pluginClass.hook with
  | .idle | .refuse => next
  | .count => l.count next
  | .trace => l.trace next
  | .gate => l.gate next
  | .log => l.log next

/-- A call through a layer. -/
def call (l : Layer) (next : Exec Value) : Exec Value := do
  l.expectStore "is_plugin_enabled" 2
  if (← l.store).enabled l.plugin.name l.entry.key then l.wrap next else next

end Layer

/-- A call through all layers of an entry, the first one outermost. -/
def throughLayers (r : RouterRef) (e : Entry) (call : Exec Value) : Exec Value :=
  e.layers.foldr (fun p next => Layer.call ⟨r, p, e.name⟩ next) call

end Dispatch
end HandlerChains
