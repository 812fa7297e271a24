import HandlerChains.Proofs.Plugin.OtherHandlers
import HandlerChains.Proofs.Router.FailedPlug

/-!
# Routers in order

In a router no two plugins and no two entries should have one name, and a configuration should have
every option once. Registering a handler keeps all of this, and so does attaching a plugin whose
name is not taken, however either of them ends. Neither changes what the entries ask of plugins, nor
what the store has for a plugin that is not involved.
-/

namespace HandlerChains

/-! ## Stores -/

theorem Slot.distinct_foldl_written (configs : List (Assoc Value)) {held : Option Slot}
    (distinct : Assoc.Distinct (held.getD {}).config) :
    Assoc.Distinct ((configs.foldl written held).getD {}).config := by
  induction configs generalizing held with
  | nil => exact distinct
  | cons config configs ih =>
    refine ih ?_
    unfold written
    split
    · exact distinct
    · exact distinct.merge config

theorem Slot.get?_written {own : Assoc Value} (distinct : Assoc.Distinct own) (held : Option Slot)
    {option : String} {v : Value} (given : Assoc.get? own option = some v) :
    Assoc.get? ((written held own).getD {}).config option = some v := by
  unfold written
  split
  · next none =>
    rw [List.isEmpty_iff.1 none] at given
    cases given
  · rw [Option.getD_some, Assoc.get?_merge distinct, given]
    rfl

namespace PluginStore

/-- Whether a store has every option of a configuration once. -/
def Plain (store : PluginStore) : Prop :=
  ∀ plugin target, Assoc.Distinct (store.slot plugin target).config

theorem Plain.writeEach {store : PluginStore} (plain : store.Plain) (ws : List Write) :
    (store.writeEach ws).Plain := by
  intro plugin target
  rw [slot_eq, slot?_writeEach]
  exact Slot.distinct_foldl_written _ (plain plugin target)

theorem distinct_openBucket {store : PluginStore} {plugin : String} {target : Key}
    (distinct : Assoc.Distinct (store.slot plugin target).config) (opened : String) :
    Assoc.Distinct ((store.openBucket opened).slot plugin target).config := by
  rw [slot_eq] at distinct ⊢
  rw [slot?_openBucket]
  split
  · cases held : store.slot? plugin target with
    | none => exact List.nodup_singleton _
    | some slot => rwa [held] at distinct
  · exact distinct

theorem Plain.openBucket {store : PluginStore} (plain : store.Plain) (opened : String) :
    (store.openBucket opened).Plain :=
  fun plugin target => distinct_openBucket (plain plugin target) opened

/-- What a handler is given is what is read for it, over what there is for all handlers. -/
theorem Plain.get?_configuration {store : PluginStore} (plain : store.Plain) {plugin : String}
    {handler : Key} (truthy : handler.isTruthy = true) {option : String} {v : Value}
    (given : Assoc.get? (store.slot plugin handler).config option = some v) :
    Assoc.get? (store.configuration plugin handler) option = some v := by
  unfold configuration
  rw [if_pos truthy, Assoc.get?_merge (plain plugin handler), given]
  rfl

end PluginStore

/-! ## What entries ask of plugins -/

/-- The key under which plugins write for an entry, and the options that it has for each of them. -/
def Entry.asks (e : Entry) : Key × (String → Except Failure (Assoc Value)) :=
  (e.key, Plugin.optionsIn e.metadata)

namespace Plugin

theorem fit_asks (p : Plugin) (r : Router) (store : PluginStore) (e : Entry) :
    ((p.fit r).run ⟨store, e⟩).2.entry.asks = e.asks := by
  have listed : (p.listed e).asks = e.asks := rfl
  rw [fit_run]
  split
  · exact listed
  · split
    · exact listed
    · rw [notify_run_eq]
      split
      · exact listed
      · next told => exact Prod.ext rfl (funext fun plugin => optionsIn_onRegister told plugin)

theorem Fits.asks_eq {p : Plugin} {e e' : Entry} {result : Except Failure Unit} {ws : List Write}
    (fits : p.Fits e result ws e') : e'.asks = e.asks := by
  rw [← p.fit_asks default [] e, fits.comesTo]

end Plugin

namespace Router

variable {r r' : Router} {p : Plugin} {e e' : Entry}

theorem fit_asks (r : Router) (p : Plugin) (store : PluginStore) (e : Entry) :
    ((r.fit p).run ⟨store, e⟩).2.entry.asks = e.asks := by
  unfold fit
  rw [Fitting.run_bind, Fitting.run_lift]
  cases r.expect "_apply_plugin" (.several 2) with
  | error f => rfl
  | ok _ => exact p.fit_asks r store e

theorem fitEach_asks (r : Router) (p : Plugin) (done es : List Entry) (store : PluginStore) :
    (r.fitEach p done es store).2.2.map Entry.asks = es.map Entry.asks := by
  induction es generalizing done store with
  | nil => rfl
  | cons e es ih =>
    let seen := r.withEntries (done ++ e :: es)
    have first := seen.fit_asks p store e
    unfold fitEach
    rcases fitted : (seen.fit p).run ⟨store, e⟩ with ⟨f | _, s⟩
    · rw [fitted] at first
      simpa using first
    · rw [fitted] at first
      simpa using ⟨first, ih (done ++ [s.entry]) s.store⟩

theorem entries_withEntries (r : Router) (es : List Entry) : (r.withEntries es).entries = es :=
  List.take_append_drop ..

theorem RestOf.refl (r : Router) : r.RestOf r := ⟨_, _, _, rfl⟩

theorem RestOf.trans {r'' : Router} (h : r.RestOf r') (h' : r'.RestOf r'') : r.RestOf r'' := by
  obtain ⟨_, _, _, rfl⟩ := h
  obtain ⟨_, _, _, rfl⟩ := h'
  exact ⟨_, _, _, rfl⟩

/-- What becomes of a router whose entries a plugin is fitted to. -/
structure FittedBy (r : Router) (p : Plugin) (r' : Router) : Prop where
  rest : r.RestOf r'
  asks : r'.entries.map Entry.asks = r.entries.map Entry.asks
  writes : ∃ ws, (∀ w ∈ ws, w.plugin = p.name) ∧ r'.store = r.store.writeEach ws

theorem fitEntries_fittedBy (r : Router) (p : Plugin) : r.FittedBy p (r.fitEntries p).2 := by
  obtain ⟨result, ws, es, each, -, places⟩ := r.exists_fitEach p r.entries
  have asks : es.map Entry.asks = r.entries.map Entry.asks := by
    rw [← r.fitEach_asks p [] r.entries r.store, each]
  have fitted : r.FittedBy p ({ r with store := r.store.writeEach ws }.withEntries es) := by
    refine ⟨⟨_, _, _, rfl⟩, ?_, ws, places, rfl⟩
    rw [entries_withEntries, asks]
  unfold fitEntries
  split
  · exact ⟨.refl r, rfl, [], by simp, rfl⟩
  · rw [each]
    cases result with
    | error f => exact fitted
    | ok _ =>
      dsimp only
      split
      · exact fitted
      · refine ⟨fitted.rest.trans ⟨_, _, _, rfl⟩, ?_, fitted.writes⟩
        rw [← fitted.asks]
        unfold layer
        rw [entries_withEntries, List.map_map]
        rfl

/-! ## Attaching plugins and registering handlers -/

section

variable {registry : Assoc PluginClass} {plugin : Value} {config options : Assoc Value}
variable {logger : Option Logger}

/-- The plugin that a call attaches is of the class that is registered under the name, and no plugin
of that name is attached. -/
theorem chosen_eq_ok (choice : r.chosen registry plugin config logger = .ok (p, options)) :
    ∃ name, plugin = .text name ∧ Assoc.get? registry name = some p.pluginClass ∧
      name ∉ r.plugins.map Plugin.name := by
  unfold chosen at choice
  split at choice
  · cases choice
  · cases found : r.pluginClass registry plugin with
    | error f =>
      rw [found] at choice
      cases choice
    | ok c =>
      have same : p.pluginClass = c := by
        rw [found] at choice
        dsimp only [bind, Except.bind] at choice
        split at choice
        · cases choice
        · have taken : takeLogger c config logger = (p, options) := Except.ok.inj choice
          unfold takeLogger at taken
          split at taken <;> cases taken <;> rfl
      unfold pluginClass at found
      split at found
      · next name =>
        split at found
        · cases found
        · next registered =>
          split at found
          · cases found
          · next absent =>
            cases found
            refine ⟨name, rfl, same ▸ registered, fun taken => ?_⟩
            obtain ⟨q, attached, named⟩ := List.mem_map.1 taken
            obtain ⟨q', found, -⟩ := plugin?_of_mem attached
            rw [named] at found
            simp [found] at absent
      · cases found

/-- What becomes of a router that a plugin is attached to, whether that succeeds or fails. -/
inductive PluggedTo (r : Router) (p : Plugin) (r' : Router) : Prop
  | opened (same : r' = { r with store := r.store.openBucket p.name })
  | listed {ws : List Write} (fitted : { r with
      plugins := r.plugins ++ [p]
      store := (r.store.openBucket p.name).writeEach ws }.FittedBy p r')
      (places : ∀ w ∈ ws, w.plugin = p.name)

theorem plug_outcome (r : Router) (registry : Assoc PluginClass) (plugin : Value)
    (config : Assoc Value) (logger : Option Logger) :
    (r.plug registry plugin config logger).2 = r ∨
      ∃ p options, r.chosen registry plugin config logger = .ok (p, options) ∧
        r.PluggedTo p (r.plug registry plugin config logger).2 := by
  rw [plug_eq]
  cases choice : r.chosen registry plugin config logger with
  | error f => exact .inl rfl
  | ok answer =>
    obtain ⟨p, options⟩ := answer
    refine .inr ⟨p, options, rfl, ?_⟩
    dsimp only
    obtain ⟨f, refused⟩ | ⟨cs, places, made⟩ := p.configure_writes options
    · dsimp only at refused
      rw [refused]
      exact .opened rfl
    · dsimp only at made
      rw [made]
      exact .listed (fitEntries_fittedBy _ p) fun w hw => (places w hw).1

end

/-- Registering writes to the store and adds to the chains, whether it succeeds or fails. -/
theorem register_outcome (r : Router) (codes : List String) (h : Handler) (error : Bool)
    (name : Value) (derived : Except Failure Value) (found : Except Failure Unit)
    (options : Assoc Value) :
    let r' := (r.register codes h error name derived found options).2
    r.RestOf r' ∧ ∃ ws, r'.store = r.store.writeEach ws := by
  dsimp only
  unfold register
  cases r.newEntry codes h error name derived options with
  | error f => exact ⟨.refl r, [], rfl⟩
  | ok e =>
    dsimp only
    unfold addEntry
    obtain ⟨result, ws, e', comesTo, -, -⟩ := r.fitAll_writesFor found e
    rw [comesTo]
    cases result with
    | error f => exact ⟨⟨_, _, _, rfl⟩, ws, rfl⟩
    | ok _ =>
      obtain ⟨hs, fs, rest⟩ := append_rest { r with store := r.store.writeEach ws }
        { e' with layers := r.plugins }
      dsimp only
      rw [rest]
      exact ⟨⟨_, _, _, rfl⟩, ws, rfl⟩

/-! ## Order -/

/-- A router in which every name and every option stands once. -/
structure Orderly (r : Router) : Prop where
  plugins : (r.plugins.map Plugin.name).Nodup
  entries : r.keys.Nodup
  configs : r.store.Plain

theorem keys_of_asks (asks : r'.entries.map Entry.asks = r.entries.map Entry.asks) :
    r'.keys = r.keys := by
  have keys := congrArg (List.map Prod.fst) asks
  rwa [List.map_map, List.map_map] at keys

theorem FittedBy.orderly (fitted : r.FittedBy p r') (orderly : r.Orderly) : r'.Orderly := by
  obtain ⟨ws, -, written⟩ := fitted.writes
  have keys := keys_of_asks fitted.asks
  have plugins : r'.plugins = r.plugins := by
    obtain ⟨_, _, _, rfl⟩ := fitted.rest
    rfl
  exact ⟨plugins ▸ orderly.plugins, keys ▸ orderly.entries, written ▸ orderly.configs.writeEach ws⟩

theorem PluggedTo.orderly (plugged : r.PluggedTo p r') (orderly : r.Orderly)
    (new : p.name ∉ r.plugins.map Plugin.name) : r'.Orderly := by
  have opened := orderly.configs.openBucket p.name
  cases plugged with
  | opened same =>
    rw [same]
    exact ⟨orderly.plugins, orderly.entries, opened⟩
  | listed fitted places =>
    refine fitted.orderly ⟨?_, orderly.entries, opened.writeEach _⟩
    rw [List.map_append]
    refine List.nodup_append.2 ⟨orderly.plugins, List.nodup_singleton _, ?_⟩
    rintro name known _ mem rfl
    exact new (List.mem_singleton.1 mem ▸ known)

/-- What a store has for a plugin, and what entries ask for, stays as it is when another plugin is
attached. -/
theorem PluggedTo.spares (plugged : r.PluggedTo p r') {plugin : String} (other : p.name ≠ plugin) :
    r'.entries.map Entry.asks = r.entries.map Entry.asks ∧
      ∀ target, r'.store.slot? plugin target = r.store.slot? plugin target := by
  have opened : ∀ target, (r.store.openBucket p.name).slot? plugin target =
      r.store.slot? plugin target := by
    intro target
    rw [PluginStore.slot?_openBucket, if_neg fun here => other here.1.symm]
  have written : ∀ (store : PluginStore) {ws : List Write}, (∀ w ∈ ws, w.plugin = p.name) →
      ∀ target, (store.writeEach ws).slot? plugin target = store.slot? plugin target := by
    intro store ws places target
    rw [PluginStore.slot?_writeEach, Write.configsAt_eq_nil]
    · rfl
    · exact fun w hw same => absurd ((places w hw).symm.trans same) other
  cases plugged with
  | opened same =>
    rw [same]
    exact ⟨rfl, opened⟩
  | listed fitted places =>
    obtain ⟨ws, places', stored⟩ := fitted.writes
    refine ⟨fitted.asks, fun target => ?_⟩
    rw [stored, written _ places', written _ places, opened]

end Router
end HandlerChains
