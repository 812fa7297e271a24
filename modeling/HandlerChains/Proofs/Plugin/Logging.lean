import HandlerChains.Proofs.Execution
import HandlerChains.Proofs.Router.Registration
import HandlerChains.Proofs.Router.Attaching

/-!
# Worlds without logging

What is left of a store, an entry, a router and a world without the plugin that logs. Attaching that
plugin, configuring it and switching it on and off changes nothing of this, as long as calls went
through all plugins of the router before.
-/

namespace HandlerChains

def Plugin.logs (p : Plugin) : Bool := p.pluginClass = .logging

def loggingName : String := PluginClass.logging.code

theorem Plugin.name_of_logs {p : Plugin} (logs : p.logs = true) : p.name = loggingName := by
  have same : p.pluginClass = .logging := by simpa [Plugin.logs] using logs
  rw [Plugin.name, same]
  rfl

namespace PluginStore

def withoutLogging (store : PluginStore) : PluginStore := Assoc.erase store loggingName

section

variable {plugin : String} (store : PluginStore)

/-! What it has for others is still there. -/

theorem slot_withoutLogging (other : plugin ≠ loggingName) (target : Key) :
    store.withoutLogging.slot plugin target = store.slot plugin target := by
  rw [slot, slot, withoutLogging, Assoc.get?_erase_of_ne _ other]

theorem configuration_withoutLogging (other : plugin ≠ loggingName) (handler : Key) :
    store.withoutLogging.configuration plugin handler = store.configuration plugin handler := by
  simp only [configuration, store.slot_withoutLogging other]

theorem enabled_withoutLogging (other : plugin ≠ loggingName) (handler : Key) :
    store.withoutLogging.enabled plugin handler = store.enabled plugin handler := by
  simp only [enabled, store.slot_withoutLogging other]

theorem data?_withoutLogging (other : plugin ≠ loggingName) (handler key : Key) :
    store.withoutLogging.data? plugin handler key = store.data? plugin handler key := by
  simp only [data?, store.slot_withoutLogging other]

theorem withoutLogging_writeData (other : plugin ≠ loggingName) (target key : Key) (v : Value) :
    (store.writeData plugin target key v).withoutLogging =
      store.withoutLogging.writeData plugin target key v := by
  simp only [writeData, alterSlot, Assoc.alter, withoutLogging, Assoc.erase_put_of_ne _ _ other,
    Assoc.get?_erase_of_ne _ other]

/-! Whatever is written for them is not. -/

theorem withoutLogging_alterSlot (target : Key) (f : Slot → Slot) :
    (store.alterSlot loggingName target f).withoutLogging = store.withoutLogging :=
  Assoc.erase_put_self _ _ _

theorem withoutLogging_openBucket :
    (store.openBucket loggingName).withoutLogging = store.withoutLogging := by
  unfold openBucket
  split
  · rfl
  · exact store.withoutLogging_alterSlot _ _

theorem withoutLogging_writeEach {ws : List Write} (logging : ∀ w ∈ ws, w.plugin = loggingName) :
    (store.writeEach ws).withoutLogging = store.withoutLogging := by
  induction ws generalizing store with
  | nil => rfl
  | cons w ws ih =>
    have first : (store.writeConfig w.plugin w.target w.config).withoutLogging =
        store.withoutLogging := by
      rw [logging w List.mem_cons_self, writeConfig]
      split
      · rfl
      · exact store.withoutLogging_alterSlot _ _
    exact (ih _ fun v hv => logging v (List.mem_cons_of_mem w hv)).trans first

end

end PluginStore

/-- An entry that plugins that log have nothing to do with. -/
def Entry.withoutLogging (e : Entry) : Entry :=
  { e with
    plugins := e.plugins.filter (· ≠ loggingName)
    layers := e.layers.filter fun p => !p.logs
    told := e.told.filter fun p => !p.logs }

namespace Router

def withoutLogging (r : Router) : Router :=
  { r with
    handlers := r.handlers.map Entry.withoutLogging
    errorHandlers := r.errorHandlers.map Entry.withoutLogging
    plugins := r.plugins.filter fun p => !p.logs
    store := r.store.withoutLogging }

@[simp] theorem overrides_withoutLogging (r : Router) :
    r.withoutLogging.overrides = r.overrides := rfl

@[simp] theorem name_withoutLogging (r : Router) : r.withoutLogging.name = r.name := rfl

@[simp] theorem store_withoutLogging (r : Router) :
    r.withoutLogging.store = r.store.withoutLogging := rfl

@[simp] theorem handlers_withoutLogging (r : Router) :
    r.withoutLogging.handlers = r.handlers.map Entry.withoutLogging := rfl

@[simp] theorem errorHandlers_withoutLogging (r : Router) :
    r.withoutLogging.errorHandlers = r.errorHandlers.map Entry.withoutLogging := rfl

@[simp] theorem chain_withoutLogging (r : Router) (error : Bool) :
    r.withoutLogging.chain error = (r.chain error).map Entry.withoutLogging := by
  cases error <;> rfl

@[simp] theorem misuse_withoutLogging (r : Router) (name : String) (call : Call) (o : Override) :
    r.withoutLogging.misuse name call o = r.misuse name call o := rfl

end Router

/-! ## Attaching the plugin -/

namespace Plugin

variable {p : Plugin} {e e' : Entry} {ws : List Write}

/-- An entry that a plugin refuses is only listed; one that it fits is what it makes of that. -/
theorem Fits.entry_cases {result : Except Failure Unit} (fits : p.Fits e result ws e') :
    e' = p.listed e ∨
      ∃ metadata, p.onRegister (p.listed e) = .ok metadata ∧
        e' = p.noted metadata (p.listed e) := by
  have same : ((p.fit default).run ⟨[], e⟩).2.entry = e' := by rw [fits.comesTo]
  rw [fit_run] at same
  cases found : optionsIn (p.listed e).metadata p.name with
  | error f =>
    rw [found] at same
    exact .inl same.symm
  | ok options =>
    rw [found] at same
    dsimp only at same
    split at same
    · exact .inl same.symm
    · rw [notify_run_eq] at same
      cases accepted : p.onRegister (p.listed e) with
      | error f =>
        rw [accepted] at same
        exact .inl same.symm
      | ok metadata =>
        rw [accepted] at same
        exact .inr ⟨metadata, rfl, same.symm⟩

theorem Fits.withoutLogging {result : Except Failure Unit} (logs : p.logs = true)
    (fits : p.Fits e result ws e') : e'.withoutLogging = e.withoutLogging := by
  have listed : (p.listed e).withoutLogging = e.withoutLogging := by
    have plugins : (p.listed e).plugins.filter (· ≠ loggingName) =
        e.plugins.filter (· ≠ loggingName) := by
      unfold Plugin.listed
      split
      · rfl
      · simp [name_of_logs logs]
    simp only [Entry.withoutLogging, plugins]
    rfl
  rcases fits.entry_cases with rfl | ⟨metadata, told, rfl⟩
  · exact listed
  · have hook : p.pluginClass.hook = .log := by
      rw [show p.pluginClass = .logging by simpa [Plugin.logs] using logs]
      rfl
    simp only [onRegister, hook] at told
    cases told
    rw [← listed]
    simp [Entry.withoutLogging, noted, logs]

end Plugin

namespace Router

variable {r r' : Router} {p : Plugin}

theorem pluginClass_of_chosen {registry : Assoc PluginClass} {name : String} {config : Assoc Value}
    {logger : Option Logger} {c : PluginClass} {options : Assoc Value}
    (known : Assoc.get? registry name = some c)
    (chosen : r.chosen registry (.text name) config logger = .ok (p, options)) :
    p.pluginClass = c := by
  have taken : ∀ c, (takeLogger c config logger).1.pluginClass = c := by
    intro c
    unfold takeLogger
    split <;> rfl
  unfold Router.chosen at chosen
  split at chosen
  · cases chosen
  · cases found : r.pluginClass registry (.text name) with
    | error f =>
      rw [found] at chosen
      cases chosen
    | ok c' =>
      have same : c' = c := by
        unfold pluginClass at found
        simp only [known] at found
        split at found
        · cases found
        · exact (Except.ok.inj found).symm
      rw [found] at chosen
      dsimp only [bind, Except.bind] at chosen
      split at chosen
      · cases chosen
      · have plugin : (takeLogger c' config logger).1 = p :=
          congrArg Prod.fst (Except.ok.inj chosen)
        rw [← plugin, taken, same]

/-- What is left of entries without logging stays the same when a plugin that logs is fitted to them
and put around them behind the others. -/
theorem FitsEach.withoutLogging (logs : p.logs = true) {es es' : List Entry} {ws : List Write}
    {layers : List Plugin} (fits : FitsEach p es ws es') (layered : ∀ e ∈ es, e.layers = layers) :
    (es'.map fun e => { e with layers := layers ++ [p] }).map Entry.withoutLogging =
      es.map Entry.withoutLogging := by
  have plugins : (layers ++ [p]).filter (fun p => !p.logs) = layers.filter fun p => !p.logs := by
    simp [logs]
  have bare := fits.map_eq (f := fun e =>
    { e.withoutLogging with layers := layers.filter fun p => !p.logs })
    fun now => by rw [now.withoutLogging logs]
  rw [List.map_map]
  refine Eq.trans (List.map_congr_left fun e _ => ?_) (bare.trans (List.map_congr_left ?_))
  · simp only [Function.comp, Entry.withoutLogging, plugins]
  · intro e mem
    simp only [Entry.withoutLogging, layered e mem]

/-- Attaching a plugin that logs changes nothing else about a router whose calls went through all of
its plugins before. -/
theorem plug_withoutLogging {registry : Assoc PluginClass} {config : Assoc Value}
    {logger : Option Logger} (known : Assoc.get? registry loggingName = some .logging)
    (layered : ∀ e ∈ r.entries, e.layers = r.plugins)
    (plugged : r.plug registry (.text loggingName) config logger = (.ok (), r')) :
    r'.withoutLogging = r.withoutLogging := by
  obtain ⟨p, options, cs, chosen, options_places, -, attaches⟩ := plug_eq_ok_iff.1 plugged
  obtain ⟨-, ws, vs, hs, fs, left, right, rfl⟩ := attach_eq_ok_iff.1 attaches
  have logs : p.logs = true := by simpa [Plugin.logs] using pluginClass_of_chosen known chosen
  have name := Plugin.name_of_logs logs
  have plugins : (r.plugins ++ [p]).filter (fun p => !p.logs) =
      r.plugins.filter fun p => !p.logs := by
    simp [logs]
  have store : ((((r.store.openBucket p.name).writeEach cs).writeEach
      (ws ++ vs)).withoutLogging) = r.store.withoutLogging := by
    rw [PluginStore.withoutLogging_writeEach, PluginStore.withoutLogging_writeEach, name,
      PluginStore.withoutLogging_openBucket]
    · intro w hw
      rw [options_places w hw, name]
    · intro w hw
      rw [(FitsEach.places_in_chains left right w hw).1, name]
  have handlers := left.withoutLogging logs fun e he => layered e (List.mem_append_left _ he)
  have errorHandlers := right.withoutLogging logs fun e he => layered e (List.mem_append_right _ he)
  simp only [withoutLogging, attached, plugins, handlers, errorHandlers, store]

end Router

/-! ## Worlds -/

namespace World

def withoutLogging (w : World) : World :=
  { w with routers := w.routers.map Router.withoutLogging }

@[simp] theorem router_withoutLogging (w : World) (r : RouterRef) :
    w.withoutLogging.router r = (w.router r).withoutLogging := by
  simp only [router, withoutLogging, Cells.read, List.getD_eq_getElem?_getD, List.getElem?_map]
  cases w.routers[r]? <;> rfl

/-- Two worlds that differ at most in plugins that log. -/
structure SameButLogging (w v : World) : Prop where
  rest : v = { w with routers := v.routers }
  routers : ∀ r, (v.router r).withoutLogging = (w.router r).withoutLogging

theorem SameButLogging.refl (w : World) : SameButLogging w w := ⟨rfl, fun _ => rfl⟩

theorem SameButLogging.trans {w v u : World} (h : SameButLogging w v) (h' : SameButLogging v u) :
    SameButLogging w u where
  rest := by rw [h'.rest, h.rest]
  routers r := (h'.routers r).trans (h.routers r)

theorem SameButLogging.setRouter {w : World} {r : RouterRef} {target : Router}
    (same : target.withoutLogging = (w.router r).withoutLogging) :
    SameButLogging w (w.setRouter r target) where
  rest := rfl
  routers s := by
    rw [router_setRouter]
    split
    · next here => rw [here, same]
    · rfl

end World

namespace Exec

open World

theorem sameButLogging_composes : Composes fun w _ v => SameButLogging w v where
  done := .refl
  append h h' := h.trans h'

theorem name_of_pluginAttribute {target : Router} {name : String} {p : Plugin}
    (found : target.pluginAttribute name = .ok p) : p.name = name := by
  unfold Router.pluginAttribute at found
  dsimp only at found
  -- first whether something else has the name, in each of three ways, and then which plugin has it
  split at found
  all_goals
    split at found
    · cases found
    · split at found
      · next known _ =>
        cases found
        simpa using List.find?_some known
      · cases found

section

variable {R : World → Course → World → Prop} (hR : Composes R) {r : RouterRef} {name : String}
include hR

theorem changeStore_respects {f : PluginStore → Except Failure PluginStore}
    (h : ∀ w store, f (w.router r).store = .ok store →
      R w .done (w.setRouter r { w.router r with store })) : Respects R (changeStore r f) := by
  intro w
  unfold changeStore
  rw [bind_apply, router_apply, Ended.andThen_ok, bind_apply]
  cases made : f (w.router r).store with
  | error g => exact hR.done w
  | ok store => exact h w store made

theorem pluginAttribute_respects {f : Plugin → Exec Unit}
    (h : ∀ p : Plugin, p.name = name → Respects R (f p)) :
    Respects R (pluginAttribute r (.text name) >>= f) := by
  intro w
  rw [bind_apply]
  unfold pluginAttribute
  dsimp only
  rw [bind_apply, router_apply, Ended.andThen_ok]
  cases found : (w.router r).pluginAttribute name with
  | error g => exact hR.done w
  | ok p => exact h p (name_of_pluginAttribute found) w

theorem setEnabled_respects {handler enabled : Value}
    (h : ∀ w, R w .done (w.setRouter r { w.router r with
      store := (w.router r).store.writeData name handler.key (.text enabledName)
        (.bool enabled.isTruthy) })) : Respects R (setEnabled r handler (.text name) enabled) := by
  intro w
  unfold setEnabled
  rw [bind_apply]
  obtain ⟨s, refused⟩ | taken := pluggable_cases r "set_plugin_enabled" (.several 3) w
  · rw [refused]
    exact hR.done w
  · rw [taken, Ended.andThen_ok]
    -- The name of the bucket is the one that was asked for.
    have named : ∀ (target : Router) {f : String → Exec Unit}, Respects R (f name) →
        Respects R (bucketName target (.text name) >>= f) := by
      intro target f h v
      unfold bucketName
      rw [bind_apply, bind_apply]
      cases target.expect "_get_plugin_bucket" (.alone "str") with
      | error g => exact hR.done v
      | ok _ =>
        dsimp only [lift, pluginName]
        rw [pure_apply, Ended.andThen_ok, bind_apply, pure_apply, Ended.andThen_ok]
        split
        · exact h v
        · exact hR.done v
    have writes : Respects R (changeStore r fun store => .ok (store.writeData name handler.key
        (.text enabledName) (.bool enabled.isTruthy))) := by
      refine changeStore_respects hR fun v store made => ?_
      cases made
      exact h v
    refine named _ (fun v => ?_) w
    cases hashed : Failure.keyOf handler with
    | error g => exact hR.done v
    | ok key =>
      obtain rfl := Failure.key_of_keyOf hashed
      exact writes v

end

variable {r : RouterRef} {w : World}

theorem changeStore_logging {f : PluginStore → Except Failure PluginStore}
    (h : ∀ store store', f store = .ok store' → store'.withoutLogging = store.withoutLogging) :
    Respects (fun w _ v => SameButLogging w v) (changeStore r f) := by
  refine changeStore_respects sameButLogging_composes fun w store made => .setRouter ?_
  simp only [Router.withoutLogging, h _ _ made]

theorem writes_logging {p : Plugin} (name : p.name = loggingName) {on : Key → Prop}
    {step : PluginStore → Except Failure PluginStore} (writes : Writes p.name on step) :
    ∀ store store', step store = .ok store' → store'.withoutLogging = store.withoutLogging := by
  intro store store' made
  obtain ⟨ws, places, rfl⟩ := writes.eq_ok made
  exact store.withoutLogging_writeEach fun w hw => (places w hw).1.trans name

theorem configurePlugin_logging (config : Assoc Value) :
    Respects (fun w _ v => SameButLogging w v)
      (configurePlugin r (.text loggingName) config) :=
  pluginAttribute_respects sameButLogging_composes fun p name =>
    changeStore_logging (writes_logging name (p.configure_writes config))

theorem configureHandler_logging (handler : Value) (config : Assoc Value) :
    Respects (fun w _ v => SameButLogging w v)
      (configureHandler r (.text loggingName) handler config) :=
  pluginAttribute_respects sameButLogging_composes fun p name =>
    changeStore_logging (writes_logging name (p.configureHandler_writes handler config))

theorem setEnabled_logging (handler enabled : Value) :
    Respects (fun w _ v => SameButLogging w v)
      (setEnabled r handler (.text loggingName) enabled) := by
  refine setEnabled_respects sameButLogging_composes fun w => .setRouter ?_
  have same := (w.router r).store.withoutLogging_alterSlot handler.key fun s =>
    { s with data := Assoc.put s.data (.text enabledName) (.bool enabled.isTruthy) }
  simp only [Router.withoutLogging, PluginStore.writeData, same]

theorem plug_logging {config : Assoc Value} {logger : Option Logger}
    (known : Assoc.get? w.pluginClasses loggingName = some .logging)
    (layered : ∀ e ∈ (w.router r).entries, e.layers = (w.router r).plugins)
    (attached : ∃ reply, (plug r (.text loggingName) config logger w).result = .ok reply) :
    SameButLogging w (plug r (.text loggingName) config logger w).world := by
  obtain ⟨s, refused⟩ | ⟨changed, succeeds⟩ := plug_cases r (.text loggingName) config logger w
  · rw [refused]
    exact .refl w
  · rw [changed]
    have ok := succeeds.1 attached
    rcases plugged : (w.router r).plug w.pluginClasses (.text loggingName) config logger
      with ⟨_, r'⟩
    rw [plugged] at ok
    subst ok
    exact .setRouter (Router.plug_withoutLogging known layered plugged)

end Exec

namespace World

variable {w v : World}

/-- What calls that attach plugins that log, configure them, and switch them on and off make of a
world. A plugin is attached where calls went through all plugins of the router before. -/
inductive LoggedBy (w : World) : World → Prop
  | start : LoggedBy w w
  | plug {v : World} (before : LoggedBy w v) (r : RouterRef) (config : Assoc Value)
      (logger : Option Logger) (known : Assoc.get? v.pluginClasses loggingName = some .logging)
      (layered : ∀ e ∈ (v.router r).entries, e.layers = (v.router r).plugins)
      (attached : ∃ reply, (Exec.plug r (.text loggingName) config logger v).result = .ok reply) :
      LoggedBy w (Exec.plug r (.text loggingName) config logger v).world
  | configure {v : World} (before : LoggedBy w v) (r : RouterRef) (config : Assoc Value) :
      LoggedBy w (Exec.configurePlugin r (.text loggingName) config v).world
  | configureHandler {v : World} (before : LoggedBy w v) (r : RouterRef) (handler : Value)
      (config : Assoc Value) :
      LoggedBy w (Exec.configureHandler r (.text loggingName) handler config v).world
  | setEnabled {v : World} (before : LoggedBy w v) (r : RouterRef) (handler enabled : Value) :
      LoggedBy w (Exec.setEnabled r handler (.text loggingName) enabled v).world

theorem LoggedBy.same (made : w.LoggedBy v) : w.SameButLogging v := by
  induction made with
  | start => exact .refl w
  | plug before r config logger known layered attached ih =>
    exact ih.trans (Exec.plug_logging known layered attached)
  | configure before r config ih => exact ih.trans (Exec.configurePlugin_logging config _)
  | configureHandler before r handler config ih =>
    exact ih.trans (Exec.configureHandler_logging handler config _)
  | setEnabled before r handler enabled ih =>
    exact ih.trans (Exec.setEnabled_logging handler enabled _)

end World
end HandlerChains
