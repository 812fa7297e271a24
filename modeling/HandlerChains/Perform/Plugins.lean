import HandlerChains.Exec
import HandlerChains.Router.Plug

/-!
# Commands about plugins

Registering plugin classes, attaching plugins to routers, and reading and writing what their stores
hold. Routers without plugins have none of this; on the others a plugin has to be attached.
-/

namespace HandlerChains
namespace Exec

/-- A router with plugins that is asked for something under a name, which its class may have
something of its own in the place of. -/
def pluggable (r : RouterRef) (name : String) (call : Call) : Exec Router := do
  let target ← router r
  lift (target.expect name call)
  match target.tier with
  | .plain => fail (target.missing name)
  | .pluggable | .application => return target

/-- What a value names, if it is a text. Nothing is attached under any other name. -/
def pluginName (target : Router) : Value → Exec String
  | .text name => return name
  | v => do
    let _ ← lift (Failure.keyOf v)
    fail (.notAttached v.shown target.name)

/-- The plugin that a router answers to as to an attribute. -/
def pluginAttribute (r : RouterRef) : Value → Exec Plugin
  | .text name => do lift ((← router r).pluginAttribute name)
  | _ => fail (.badCall "attribute name must be string")

def bucketName (target : Router) (plugin : Value) : Exec String := do
  lift (target.expect "_get_plugin_bucket" (.alone "str"))
  let plugin ← pluginName target plugin
  if Assoc.has target.store plugin then return plugin
  else fail (.notAttached plugin target.name)

def changeStore (r : RouterRef) (f : PluginStore → Except Failure PluginStore) : Exec Unit := do
  let target ← router r
  let store ← lift (f target.store)
  modify fun w => w.setRouter r { w.router r with store }

/-- Registers a plugin class. Under its own code it may not replace another class; under a name that
is given it may. -/
def registerPlugin (c : Value) (isClass : Bool) (name : Option String) : Exec Unit := do
  match c, isClass with
  | .text className, true =>
    match PluginClass.find? className with
    | none => stop (.undefined className)
    | some c =>
      let registry := (← get).pluginClasses
      if c.code = "" then fail (.pluginWithoutCode c.className)
      let code := match name with
        | none | some "" => c.code
        | some name => name
      let taken := match Assoc.get? registry code with
        | some other => other.className != c.className
        | none => false
      if name.isNone && taken then fail (.pluginCodeTaken code)
      modify fun w => { w with pluginClasses := Assoc.put w.pluginClasses code c }
  | _, _ => fail .notAPluginClass

def availablePlugins : Exec Reply := do
  let rows := (← get).pluginClasses.mergeSort fun a b => a.1 ≤ b.1
  return .value (.list (rows.map fun (name, c) => .list [.text name, .text c.className]))

def plug (r : RouterRef) (plugin : Value) (config : Assoc Value) (logger : Option Logger) :
    Exec Reply := do
  let target ← pluggable r "plug" (.ofCounts plugin.kindName 1
    (config.length + if logger.isSome then 1 else 0))
  let registry := (← get).pluginClasses
  settle fun w =>
    let (result, changed) := target.plug registry plugin config logger
    (result, w.setRouter r changed)
  return .value (.text "self")

def listPlugins (r : RouterRef) : Exec Reply := do
  let target ← pluggable r "iter_plugins" .bare
  return .value (.list (target.plugins.map fun p =>
    .list [.text p.name, .text p.pluginClass.className, .text p.pluginClass.description]))

/-- The class of a router where a plugin is expected. It has a name only if it declares one. -/
def classAttribute (r : Router) : Except Failure Value :=
  match Assoc.get? r.overrides "name" with
  | some (.constant name) => .ok (.list [name, .text "ABCMeta"])
  | _ => .error (.badCall "a field of a class cannot be shown")

def showAttribute (r : RouterRef) (name : Value) : Exec Reply := do
  let target ← router r
  if name.same (.text "__class__") && !target.isDisguised then
    return .value (← lift (classAttribute target))
  let p ← pluginAttribute r name
  return .value (.list [.text p.name, .text p.pluginClass.className])

def configurePlugin (r : RouterRef) (plugin : Value) (config : Assoc Value) : Exec Unit := do
  let p ← pluginAttribute r plugin
  changeStore r fun store => p.configure store config

def configureHandler (r : RouterRef) (plugin handler : Value) (config : Assoc Value) :
    Exec Unit := do
  let p ← pluginAttribute r plugin
  changeStore r fun store => p.configureHandler store handler config

def getConfig (r : RouterRef) (plugin handler : Value) : Exec Reply := do
  let target ← pluggable r "get_config" (.several 2)
  let plugin ← pluginName target plugin
  match target.plugin? plugin with
  | none => fail (.notAttached plugin target.name)
  | some p =>
    let handler ← if handler.isTruthy then lift (Failure.keyOf handler) else pure .null
    return .value (.record (target.store.configuration p.name handler))

def setEnabled (r : RouterRef) (handler plugin enabled : Value) : Exec Unit := do
  let target ← pluggable r "set_plugin_enabled" (.several 3)
  let plugin ← bucketName target plugin
  let handler ← lift (Failure.keyOf handler)
  changeStore r fun store =>
    return store.writeData plugin handler (.text enabledName) (.bool enabled.isTruthy)

def isEnabled (r : RouterRef) (handler plugin : Value) : Exec Reply := do
  let target ← pluggable r "is_plugin_enabled" (.several 2)
  let plugin ← bucketName target plugin
  return .value (.bool (target.store.enabled plugin (← lift (Failure.keyOf handler))))

def setData (r : RouterRef) (handler plugin key v : Value) : Exec Unit := do
  let target ← pluggable r "set_runtime_data" (.several 4)
  let plugin ← bucketName target plugin
  let handler ← lift (Failure.keyOf handler)
  let key ← lift (Failure.keyOf key)
  changeStore r fun store => return store.writeData plugin handler key v

def getData (r : RouterRef) (handler plugin key default : Value) : Exec Reply := do
  let target ← pluggable r "get_runtime_data" (.several 4)
  let plugin ← bucketName target plugin
  let handler ← lift (Failure.keyOf handler)
  let key ← lift (Failure.keyOf key)
  return .value ((target.store.data? plugin handler key).getD default)

end Exec
end HandlerChains
