import HandlerChains.Assoc
import HandlerChains.Value

/-!
# The plugin store of a router

For each plugin the store holds a bucket, and in a bucket a slot for each handler name and one for
all handlers. A slot has the configuration that was given and the data that were set while running;
data and handlers go by keys, so that a number names the same one however it is written.
Reading never adds anything; writing an empty configuration changes nothing.
-/

namespace HandlerChains

structure Slot where
  config : Assoc Value := []
  data : Table Key Value := []

abbrev Bucket := Table Key Slot

abbrev PluginStore := Assoc Bucket

/-- The name that stands for all handlers. -/
def everyName : String := "_all_"

def everyHandler : Key := .text everyName

/-- Under this key and this option a plugin is switched on and off. -/
def enabledName : String := "enabled"

/-- Whether a slot says that the plugin is on. What was set while running comes first. -/
def Slot.enabled? (s : Slot) : Option Bool :=
  ((Assoc.get? s.data (.text enabledName)).or (Assoc.get? s.config enabledName)).map
    Value.isTruthy

namespace PluginStore

/-- A slot; what was never written is empty. -/
def slot (store : PluginStore) (plugin : String) (target : Key) : Slot :=
  (Assoc.get? ((Assoc.get? store plugin).getD []) target).getD {}

def alterSlot (store : PluginStore) (plugin : String) (target : Key) (f : Slot → Slot) :
    PluginStore :=
  Assoc.alter store plugin [] fun bucket => Assoc.alter bucket target {} f

/-- The bucket of a plugin that is about to be attached: switched on for all handlers. A bucket that
is there already stays as it is. -/
def openBucket (store : PluginStore) (plugin : String) : PluginStore :=
  if Assoc.has ((Assoc.get? store plugin).getD []) everyHandler then store
  else alterSlot store plugin everyHandler fun _ => { config := [(enabledName, .bool true)] }

def writeConfig (store : PluginStore) (plugin : String) (target : Key) (config : Assoc Value) :
    PluginStore :=
  if config.isEmpty then store
  else alterSlot store plugin target fun s => { s with config := Assoc.merge s.config config }

def writeData (store : PluginStore) (plugin : String) (target key : Key) (v : Value) :
    PluginStore :=
  alterSlot store plugin target fun s => { s with data := Assoc.put s.data key v }

/-- The configuration for all handlers, overlaid with that of one handler. Null, like every key that
is no yes, names none. -/
def configuration (store : PluginStore) (plugin : String) (handler : Key) : Assoc Value :=
  let common := (slot store plugin everyHandler).config
  if handler.isTruthy then Assoc.merge common (slot store plugin handler).config else common

/-- Whether a plugin is on for a handler: the handler's own slot decides if it says anything, then
the slot for all handlers, and otherwise it is on. -/
def enabled (store : PluginStore) (plugin : String) (handler : Key) : Bool :=
  ((slot store plugin handler).enabled?.or (slot store plugin everyHandler).enabled?).getD true

def data? (store : PluginStore) (plugin : String) (handler key : Key) : Option Value :=
  Assoc.get? (slot store plugin handler).data key

@[simp] theorem slot_alterSlot_self (store : PluginStore) (plugin : String) (target : Key)
    (f : Slot → Slot) :
    slot (alterSlot store plugin target f) plugin target = f (slot store plugin target) := by
  simp [slot, alterSlot, Assoc.alter]

theorem slot_alterSlot_of_ne (store : PluginStore) {plugin plugin' : String} {target target' : Key}
    (f : Slot → Slot) (ne : plugin' ≠ plugin ∨ target' ≠ target) :
    slot (alterSlot store plugin target f) plugin' target' = slot store plugin' target' := by
  by_cases same : plugin' = plugin
  · subst same
    have ne_target : target' ≠ target := by simpa using ne
    simp [slot, alterSlot, Assoc.alter, Assoc.get?_put_of_ne _ _ ne_target]
  · simp [slot, alterSlot, Assoc.alter, Assoc.get?_put_of_ne _ _ same]

end PluginStore
end HandlerChains
