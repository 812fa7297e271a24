import HandlerChains.Options.Flags
import HandlerChains.Plugin.Class
import HandlerChains.Plugin.Store

/-!
# Configuring plugins

Options are checked before anything is written, so a refused call leaves the store as it was. The
option `flags` sets several flags by one text, which win over options of the same name; `_target`
names the handlers that are meant, between commas, where a class declares options.
-/

namespace HandlerChains
namespace Plugin

/-- The flags that the option `flags` sets; whatever is empty sets none. -/
def flagsOf (v : Value) : Except Failure (Assoc Value) :=
  match v with
  | .text s => .ok (Options.flagsIn s)
  | v => if v.isTruthy then .error (.lacks v "split") else .ok []

def expandFlags (options : Assoc Value) : Except Failure (Assoc Value) :=
  match Assoc.get? options "flags" with
  | none => .ok options
  | some v => return Assoc.merge (Assoc.erase options "flags") (← flagsOf v)

def checkOptions (rules : Options.Rules) (options : Assoc Value) : Except Failure Unit :=
  let refused := Options.Rules.check rules options
  if refused.isEmpty then .ok () else .error (.invalid refused)

/-- Writes options for one target. Nothing at all can be given to a target that names nothing. -/
def write (p : Plugin) (store : PluginStore) (target : Value) (options : Assoc Value) :
    Except Failure PluginStore :=
  if options.isEmpty then .ok store
  else do return PluginStore.writeConfig store p.name (← Failure.keyOf target) options

/-- Writes options for one target after checking them. -/
def configureTarget (p : Plugin) (rules : Options.Rules) (store : PluginStore) (target : Value)
    (options : Assoc Value) : Except Failure PluginStore := do
  checkOptions rules options
  p.write store target options

def targetsIn (target : String) : List String :=
  ((Text.fields ',' target).map Text.strip).filter (· ≠ "")

/-- Whether there is a comma in a target. Only texts, lists and records can be asked. -/
def hasComma : Value → Except Failure Bool
  | .text s => .ok (',' ∈ s.toList)
  | .list items => .ok (items.any fun v => v.key? == some (.text ","))
  | .record fields => .ok (Assoc.has fields ",")
  | v => .error (.badCall ("argument of type '" ++ v.kindName ++ "' is not iterable"))

/-- Options for one of several targets. They are given again for each target, so the flags of a
first reading may not bring in a target, and a flag called `flags` is read as flags once more. -/
def configureListed (p : Plugin) (rules : Options.Rules) (options : Assoc Value)
    (store : PluginStore) (target : String) : Except Failure PluginStore := do
  if Assoc.has options "_target" ∨ Assoc.has options Options.selfName then
    .error (.badCall "multiple values for an argument")
  else configureTarget p rules store (.text target) (← expandFlags options)

/-- Configures a plugin. The target is every handler unless `_target` says otherwise. -/
def configure (p : Plugin) (store : PluginStore) (options : Assoc Value) :
    Except Failure PluginStore := do
  let target := (Assoc.get? options "_target").getD (.text everyName)
  let options := Assoc.erase options "_target"
  if Assoc.has options Options.selfName then .error (.badCall "multiple values for argument 'self'")
  else match p.pluginClass.options with
    | some rules =>
      let options ← expandFlags options
      match target, ← hasComma target with
      | .text s, true => (targetsIn s).foldlM (configureListed p rules options) store
      | v, true => .error (.lacks v "split")
      | v, false => configureTarget p rules store v options
    | none =>
      if (Assoc.erase options "flags").isEmpty then
        p.write store target (← flagsOf ((Assoc.get? options "flags").getD .null))
      else .error (.badCall "unexpected keyword argument")

/-- Configures a plugin for exactly one handler, whose name is taken as it is. -/
def configureHandler (p : Plugin) (store : PluginStore) (handler : Value) (options : Assoc Value) :
    Except Failure PluginStore := do
  if Assoc.has options Options.selfName ∨ Assoc.has options "handler_name" then
    .error (.badCall "multiple values for an argument")
  else match p.pluginClass.options with
    | some rules => configureTarget p rules store handler (← expandFlags options)
    | none =>
      let given := Assoc.erase options "flags"
      if given.isEmpty then
        p.write store handler (← flagsOf ((Assoc.get? options "flags").getD .null))
      else .error (.noOptions p.name ((Assoc.names given).mergeSort (· ≤ ·)))

end Plugin
end HandlerChains
