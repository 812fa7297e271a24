import HandlerChains.Proofs.Plugin.OtherHandlers
import HandlerChains.Proofs.Plugin.Tuning

/-!
# What decides whether a plugin is on

Two kinds of calls say whether a plugin is on for a handler: one configures it, the other one
switches it while running, and each says so for some handlers or for all of them. After any history
of such calls a plugin is on if the nearest source that was told anything was last told so: what was
switched for the handler, what is configured for it, what was switched for all, what is configured
for all. Calls for other handlers and for other plugins do not count.
-/

namespace HandlerChains

/-- Where it is said whether a plugin is on: switched while running or configured, for the handlers
of a key. -/
inductive Source where
  | running (target : Key)
  | configured (target : Key)
  deriving DecidableEq

namespace Source

def target : Source → Key
  | running target | configured target => target

/-- The sources for a handler, the one that is asked first in front. -/
def inOrder (handler : Key) : List Source :=
  [running handler, configured handler, running everyHandler, configured everyHandler]

theorem target_of_mem_inOrder {handler : Key} {s : Source} (mem : s ∈ inOrder handler) :
    s.target = handler ∨ s.target = everyHandler := by
  simp only [inOrder, List.mem_cons, List.not_mem_nil, or_false] at mem
  obtain rfl | rfl | rfl | rfl := mem <;> simp [target]

end Source

/-- What options give a plugin for one of its options, be it as one of the flags. -/
def Plugin.given? (options : Assoc Value) (option : String) : Option Value :=
  (expandFlags options).toOption.bind (Assoc.get? · option)

theorem Plugin.expandFlags_of_sets {given flags : Assoc Value} (sets : SetsFlags given flags) :
    expandFlags given = .ok (overlaid given flags) := by
  unfold SetsFlags at sets
  unfold expandFlags overlaid
  cases found : Assoc.get? given "flags" with
  | none =>
    rw [found] at sets
    cases sets
    rw [Assoc.erase_eq_self found]
    rfl
  | some v =>
    rw [found, Option.getD_some] at sets
    dsimp only
    rw [sets]
    rfl

namespace PluginStore

def told? (store : PluginStore) (plugin : String) : Source → Option Bool
  | .running target =>
    (Assoc.get? (store.slot plugin target).data (.text enabledName)).map Value.isTruthy
  | .configured target =>
    (Assoc.get? (store.slot plugin target).config enabledName).map Value.isTruthy

variable {plugin : String}

/-- The sources are asked one after another, and it is on where none was told anything. -/
theorem enabled_eq_findSome? (store : PluginStore) (handler : Key) :
    store.enabled plugin handler =
      ((Source.inOrder handler).findSome? (store.told? plugin)).getD true := by
  have slot : ∀ target, (store.slot plugin target).enabled? =
      (store.told? plugin (.running target)).or (store.told? plugin (.configured target)) := by
    intro target
    rw [told?, told?, Slot.enabled?, Option.map_or]
  unfold enabled Source.inOrder
  rw [slot, slot]
  generalize store.told? plugin = told
  simp only [List.findSome?_cons, List.findSome?_nil]
  cases told (.running handler) <;> cases told (.configured handler) <;>
    cases told (.running everyHandler) <;> cases told (.configured everyHandler) <;> rfl

theorem told?_writeConfig (store : PluginStore) {written : String} {target : Key}
    {config : Assoc Value} (distinct : Assoc.Distinct config) (s : Source) :
    (store.writeConfig written target config).told? plugin s =
      (if written = plugin ∧ s = .configured target then
        (Assoc.get? config enabledName).map Value.isTruthy else none).or
          (store.told? plugin s) := by
  cases s with
  | running k =>
    have same : ((store.writeConfig written target config).slot plugin k).data =
        (store.slot plugin k).data := store.data_writeEach [⟨written, target, config⟩] plugin k
    rw [told?, same, if_neg (by simp), Option.none_or]
    rfl
  | configured k =>
    rw [told?, told?, slot_eq, slot_eq, slot?_writeConfig]
    by_cases here : written = plugin ∧ k = target
    · obtain ⟨rfl, rfl⟩ := here
      rw [if_pos ⟨rfl, rfl⟩, if_pos ⟨rfl, rfl⟩, Slot.written]
      split
      · next empty =>
        rw [List.isEmpty_iff.1 empty]
        rfl
      · rw [Option.getD_some, Assoc.get?_merge distinct, Option.map_or]
    · rw [if_neg fun h => here ⟨h.1.symm, h.2⟩,
        if_neg fun h => here ⟨h.1, Source.configured.inj h.2⟩, Option.none_or]

theorem told?_writeEach_targets (store : PluginStore) {written : String} {own : Assoc Value}
    (distinct : Assoc.Distinct own) (targets : List Key) (s : Source) :
    (store.writeEach (targets.map fun target => ⟨written, target, own⟩)).told? plugin s =
      (if written = plugin ∧ s ∈ targets.map .configured then
        (Assoc.get? own enabledName).map Value.isTruthy else none).or
          (store.told? plugin s) := by
  induction targets generalizing store with
  | nil => simp
  | cons target targets ih =>
    change ((store.writeConfig written target own).writeEach _).told? plugin s = _
    rw [ih, told?_writeConfig store distinct]
    simp only [List.map_cons, List.mem_cons]
    by_cases mine : written = plugin
    · by_cases first : s = .configured target
      · subst first
        by_cases later : target ∈ targets <;> simp [mine, later, ← Option.or_assoc]
      · simp [mine, first]
    · simp [mine]

theorem told?_writeData (store : PluginStore) (written : String) (target : Key) (v : Value)
    (s : Source) :
    (store.writeData written target (.text enabledName) v).told? plugin s =
      (if written = plugin ∧ s = .running target then some v.isTruthy else none).or
        (store.told? plugin s) := by
  have slot : ∀ k, (store.writeData written target (.text enabledName) v).slot plugin k =
      if plugin = written ∧ k = target then
        let slot := store.slot plugin k
        { slot with data := Assoc.put slot.data (.text enabledName) v }
      else store.slot plugin k := by
    intro k
    rw [writeData, slot_eq, slot?_alterSlot]
    split
    · next here =>
      rw [here.1, here.2]
      rfl
    · rfl
  cases s with
  | running k =>
    rw [told?, slot]
    by_cases here : written = plugin ∧ k = target
    · obtain ⟨rfl, rfl⟩ := here
      simp
    · rw [if_neg fun h => here ⟨h.1.symm, h.2⟩, if_neg fun h => here ⟨h.1, Source.running.inj h.2⟩]
      rfl
  | configured k =>
    rw [if_neg (by simp), Option.none_or, told?, slot]
    split <;> rfl

theorem told?_openBucket {store : PluginStore} (fresh : Assoc.has store plugin = false)
    (s : Source) :
    (store.openBucket plugin).told? plugin s =
      if s = .configured everyHandler then some true else none := by
  have empty : ∀ target, store.slot? plugin target = none := by
    intro target
    have none : Assoc.get? store plugin = none := by simpa [Assoc.has] using fresh
    rw [slot?, none]
    rfl
  cases s with
  | running k =>
    rw [told?, data_openBucket, slot_eq, empty, if_neg (by simp)]
    rfl
  | configured k =>
    rw [told?, slot_eq, slot?_openBucket, empty]
    by_cases here : k = everyHandler
    · subst here
      rw [if_pos ⟨rfl, rfl⟩]
      rfl
    · simp [here]

end PluginStore

namespace Tuning

def sources : Tuning → List Source
  | configure options => (Plugin.targetsOf options).map .configured
  | configureHandler handler _ => [.configured handler.key]
  | setEnabled handler _ => [.running handler.key]

/-- What a call tells its sources, if it tells them anything: the truth of the value in it. -/
def word? : Tuning → Option Bool
  | configure options =>
    (Plugin.given? (Assoc.erase options "_target") enabledName).map Value.isTruthy
  | configureHandler _ options => (Plugin.given? options enabledName).map Value.isTruthy
  | setEnabled _ enabled => some enabled.isTruthy

def tells? (t : Tuning) (s : Source) : Option Bool := if s ∈ t.sources then t.word? else none

def Distinct : Tuning → Prop
  | configure options | configureHandler _ options => Assoc.Distinct options
  | setEnabled _ _ => True

/-- What an accepted call for the plugin of a name makes of the store of a router. -/
inductive Changes (target : Router) (plugin : String) : Tuning → PluginStore → Prop
  | configure {p : Plugin} {options : Assoc Value} {store : PluginStore}
      (found : target.pluginAttribute plugin = .ok p)
      (made : p.configure target.store options = .ok store) :
      Changes target plugin (configure options) store
  | configureHandler {p : Plugin} {handler : Value} {options : Assoc Value} {store : PluginStore}
      (found : target.pluginAttribute plugin = .ok p)
      (made : p.configureHandler target.store handler options = .ok store) :
      Changes target plugin (configureHandler handler options) store
  | setEnabled {handler enabled : Value} :
      Changes target plugin (setEnabled handler enabled)
        (target.store.writeData plugin handler.key (.text enabledName) (.bool enabled.isTruthy))

end Tuning

namespace Exec

variable (r : RouterRef) (w : World)

theorem changeStore_apply (f : PluginStore → Except Failure PluginStore) :
    changeStore r f w = match f (w.router r).store with
      | .error g => ⟨.done, .error (.failed g), w⟩
      | .ok store => ⟨.done, .ok (), w.setRouter r { w.router r with store }⟩ := by
  unfold changeStore
  rw [bind_apply, router_apply, Ended.andThen_ok, bind_apply]
  cases f (w.router r).store <;> rfl

theorem pluginAttribute_apply (name : String) :
    pluginAttribute r (.text name) w = match (w.router r).pluginAttribute name with
      | .error f => ⟨.done, .error (.failed f), w⟩
      | .ok p => ⟨.done, .ok p, w⟩ := by
  unfold pluginAttribute
  dsimp only
  rw [bind_apply, router_apply, Ended.andThen_ok]
  cases (w.router r).pluginAttribute name <;> rfl

theorem pluginAttribute_changeStore (name : String)
    (f : Plugin → PluginStore → Except Failure PluginStore) :
    (pluginAttribute r (.text name) >>= fun p => changeStore r (f p)) w =
      match (w.router r).pluginAttribute name >>= fun p => f p (w.router r).store with
      | .error g => ⟨.done, .error (.failed g), w⟩
      | .ok store => ⟨.done, .ok (), w.setRouter r { w.router r with store }⟩ := by
  rw [bind_apply, pluginAttribute_apply]
  cases (w.router r).pluginAttribute name with
  | error g => rfl
  | ok p => exact changeStore_apply r w (f p)

theorem setEnabled_cases (handler : Value) (plugin : String) (enabled : Value) :
    (∃ s, setEnabled r handler (.text plugin) enabled w = ⟨.done, .error s, w⟩) ∨
      setEnabled r handler (.text plugin) enabled w =
        ⟨.done, .ok (), w.setRouter r { w.router r with
          store := (w.router r).store.writeData plugin handler.key (.text enabledName)
            (.bool enabled.isTruthy) }⟩ := by
  unfold setEnabled bucketName pluginName
  rw [bind_apply]
  obtain ⟨s, refused⟩ | taken := pluggable_cases r "set_plugin_enabled" (.several 3) w
  · exact .inl ⟨s, by rw [refused]; rfl⟩
  · rw [taken, Ended.andThen_ok]
    cases (w.router r).expect "_get_plugin_bucket" (.alone "str") with
    | error f => exact .inl ⟨.failed f, by simp [bind_apply, lift]⟩
    | ok _ =>
      by_cases known : Assoc.has (w.router r).store plugin = true
      · cases hashed : Failure.keyOf handler with
        | error f => exact .inl ⟨.failed f, by simp [bind_apply, known, lift]⟩
        | ok key =>
          obtain rfl := Failure.key_of_keyOf hashed
          refine .inr ?_
          simp only [bind_apply, known, lift, pure_apply, Ended.andThen_ok, if_true,
            Course.done_append]
          exact changeStore_apply r w fun store => .ok (store.writeData plugin handler.key
            (.text enabledName) (.bool enabled.isTruthy))
      · exact .inl ⟨.failed (.notAttached plugin (w.router r).name),
          by simp [bind_apply, known, lift]⟩

end Exec

namespace Tuning

open Exec in
/-- A call is refused and changes nothing, or it is accepted and changes the store. -/
theorem exec_cases (t : Tuning) (r : RouterRef) (plugin : String) (w : World) :
    (∃ s, t.exec r plugin w = ⟨.done, .error s, w⟩) ∨
      ∃ store, t.Changes (w.router r) plugin store ∧
        t.exec r plugin w = ⟨.done, .ok (), w.setRouter r { w.router r with store }⟩ := by
  have onPlugin : ∀ f : Plugin → PluginStore → Except Failure PluginStore,
      t.exec r plugin = (pluginAttribute r (.text plugin) >>= fun p => changeStore r (f p)) →
      (∀ p store, (w.router r).pluginAttribute plugin = .ok p →
        f p (w.router r).store = .ok store → t.Changes (w.router r) plugin store) →
      (∃ s, t.exec r plugin w = ⟨.done, .error s, w⟩) ∨
        ∃ store, t.Changes (w.router r) plugin store ∧
          t.exec r plugin w = ⟨.done, .ok (), w.setRouter r { w.router r with store }⟩ := by
    intro f eq changes
    rw [eq, pluginAttribute_changeStore]
    cases found : (w.router r).pluginAttribute plugin with
    | error g => exact .inl ⟨_, rfl⟩
    | ok p =>
      cases made : f p (w.router r).store with
      | error g => exact .inl ⟨.failed g, by simp [bind, Except.bind, made]⟩
      | ok store =>
        exact .inr ⟨store, changes p store found made, by simp [bind, Except.bind, made]⟩
  cases t with
  | configure options => exact onPlugin _ rfl fun p store found made => .configure found made
  | configureHandler handler options =>
    exact onPlugin _ rfl fun p store found made => .configureHandler found made
  | setEnabled handler enabled =>
    exact (setEnabled_cases r w handler plugin enabled).imp_right fun done => ⟨_, .setEnabled, done⟩

namespace Changes

variable {target : Router} {p : Plugin} {t : Tuning} {store : PluginStore} {plugin : String}

theorem has (changes : t.Changes target plugin store) {other : String}
    (known : Assoc.has target.store other = true) : Assoc.has store other = true := by
  have writes : ∀ {on : Key → Prop} {p : Plugin} {step : PluginStore → Except Failure PluginStore},
      Writes p.name on step → step target.store = .ok store → Assoc.has store other = true := by
    intro on p step writes made
    obtain ⟨ws, -, rfl⟩ := writes.eq_ok made
    rwa [PluginStore.has_writeEach _ _ (.inl known)]
  cases changes with
  | configure found made => exact writes (Plugin.configure_writes _ _) made
  | configureHandler found made => exact writes (Plugin.configureHandler_writes _ _ _) made
  | setEnabled =>
    unfold PluginStore.writeData PluginStore.alterSlot Assoc.alter Assoc.has
    by_cases here : other = plugin
    · rw [here, Assoc.get?_put_self]
      rfl
    · rwa [Assoc.get?_put_of_ne _ _ here]

theorem told?_of_ne (changes : t.Changes target plugin store) {other : String}
    (ne : plugin ≠ other) (s : Source) : store.told? other s = target.store.told? other s := by
  have writes : ∀ {on : Key → Prop} {p : Plugin} {step : PluginStore → Except Failure PluginStore},
      target.pluginAttribute plugin = .ok p → Writes p.name on step →
      step target.store = .ok store → store.told? other s = target.store.told? other s := by
    intro on p step found writes made
    obtain ⟨ws, places, rfl⟩ := writes.eq_ok made
    have slot : ∀ k, (target.store.writeEach ws).slot other k = target.store.slot other k := by
      intro k
      rw [PluginStore.slot_eq, PluginStore.slot?_writeEach, Write.configsAt_eq_nil]
      · rfl
      · exact fun w mem mine _ =>
          ne ((Exec.name_of_pluginAttribute found).symm.trans ((places w mem).1.symm.trans mine))
    cases s <;> rw [PluginStore.told?, PluginStore.told?, slot]
  cases changes with
  | configure found made => exact writes found (Plugin.configure_writes _ _) made
  | configureHandler found made => exact writes found (Plugin.configureHandler_writes _ _ _) made
  | setEnabled => rw [PluginStore.told?_writeData, if_neg fun h => ne h.1, Option.none_or]

/-- An accepted call leaves at a source what it tells it, or else what was told there before. -/
theorem told?_eq {rules : Options.Rules} (changes : t.Changes target p.name store)
    (found : target.pluginAttribute p.name = .ok p) (declared : p.pluginClass.options = some rules)
    (distinct : t.Distinct) (s : Source) :
    store.told? p.name s = (t.tells? s).or (target.store.told? p.name s) := by
  cases changes with
  | @configure _ options _ found' made =>
    obtain rfl := Except.ok.inj (found.symm.trans found')
    obtain ⟨flags, own, sets, once, same, -, rfl⟩ := Plugin.configure_eq_ok declared made
    have given : Plugin.given? (Assoc.erase options "_target") enabledName =
        Assoc.get? own enabledName := by
      rw [Plugin.given?, Plugin.expandFlags_of_sets sets, same enabledName (by decide)]
      rfl
    rw [PluginStore.told?_writeEach_targets _ (once distinct), tells?, word?, given]
    simp [sources]
  | configureHandler found' made =>
    obtain rfl := Except.ok.inj (found.symm.trans found')
    obtain ⟨flags, sets, -, rfl⟩ := Plugin.configureHandler_checks declared made
    rw [PluginStore.told?_writeConfig _ (Plugin.distinct_overlaid distinct flags), tells?, word?,
      Plugin.given?, Plugin.expandFlags_of_sets sets]
    simp [sources, Except.toOption]
  | setEnabled =>
    rw [PluginStore.told?_writeData]
    simp [tells?, word?, sources]

end Changes
end Tuning

/-- What calls for plugins of a router, each with the name of its plugin, make of a world, be they
refused or not. -/
def World.tuneEach (r : RouterRef) (w : World) (calls : List (String × Tuning)) : World :=
  calls.foldl (fun w call => (call.2.exec r call.1 w).world) w

theorem World.tuneEach_cons (r : RouterRef) (w : World) (call : String × Tuning)
    (rest : List (String × Tuning)) :
    w.tuneEach r (call :: rest) = (call.2.exec r call.1 w).world.tuneEach r rest := rfl

/-- The calls among these that are accepted, each in the world that those before it leave. -/
def World.accepted (r : RouterRef) (w : World) :
    List (String × Tuning) → List (String × Tuning)
  | [] => []
  | call :: rest =>
    let e := call.2.exec r call.1 w
    match e.result with
    | .ok _ => call :: accepted r e.world rest
    | .error _ => accepted r e.world rest

/-- What a source of a plugin was told last by accepted calls. -/
def Tuning.latest? (plugin : String) (calls : List (String × Tuning)) (s : Source) : Option Bool :=
  (calls.filterMap fun call => if call.1 = plugin then call.2.tells? s else none).getLast?

theorem Tuning.latest?_eq_none {plugin : String} {calls : List (String × Tuning)} {s : Source}
    (apart : ∀ call ∈ calls, call.1 = plugin → s ∉ call.2.sources) :
    latest? plugin calls s = none := by
  have nothing : calls.filterMap (fun call => if call.1 = plugin then call.2.tells? s else none) =
      [] := by
    refine List.filterMap_eq_nil_iff.2 fun call mem => ?_
    split
    · next mine => exact if_neg (apart call mem mine)
    · rfl
  rw [latest?, nothing, List.getLast?_nil]

theorem World.mem_of_mem_accepted {r : RouterRef} {w : World} {calls : List (String × Tuning)}
    {call : String × Tuning} (mem : call ∈ w.accepted r calls) : call ∈ calls := by
  induction calls generalizing w with
  | nil => exact mem
  | cons first rest ih =>
    rw [accepted] at mem
    split at mem
    · exact (List.mem_cons.1 mem).elim (fun same => same ▸ List.mem_cons_self)
        fun later => List.mem_cons_of_mem _ (ih later)
    · exact List.mem_cons_of_mem _ (ih mem)

/-- A plugin that can be reached through a router under its name, and has a bucket there. -/
structure World.Tunes (w : World) (r : RouterRef) (p : Plugin) : Prop where
  found : (w.router r).pluginAttribute p.name = .ok p
  known : Assoc.has (w.router r).store p.name = true

namespace World

variable {w : World} {r : RouterRef} {p : Plugin} {rules : Options.Rules}

/-- One call: the router keeps all but its store, and in it a source has what it was told last. -/
theorem Tunes.exec (tunes : w.Tunes r p) (declared : p.pluginClass.options = some rules)
    {call : String × Tuning} (distinct : call.2.Distinct) :
    let e := call.2.exec r call.1 w
    e.world.Tunes r p ∧
      (∃ store, e.world.router r = { w.router r with store }) ∧
      ∀ s, (e.world.router r).store.told? p.name s =
        (Tuning.latest? p.name (w.accepted r [call]) s).or ((w.router r).store.told? p.name s) := by
  obtain ⟨name, t⟩ := call
  obtain ⟨stop, refused⟩ | ⟨store, changes, done⟩ := t.exec_cases r name w
  · simp only [accepted, refused]
    exact ⟨tunes, ⟨_, rfl⟩, fun s => rfl⟩
  · simp only [accepted, done, router_setRouter_self]
    refine ⟨⟨?_, ?_⟩, ⟨store, rfl⟩, fun s => ?_⟩
    · rw [router_setRouter_self]
      exact tunes.found
    · rw [router_setRouter_self]
      exact changes.has tunes.known
    · by_cases mine : name = p.name
      · subst mine
        rw [changes.told?_eq tunes.found declared distinct, Tuning.latest?]
        cases told : t.tells? s <;> simp [told]
      · rw [changes.told?_of_ne mine]
        simp [Tuning.latest?, mine]

theorem Tunes.tuneEach (tunes : w.Tunes r p) (declared : p.pluginClass.options = some rules)
    {calls : List (String × Tuning)} (distinct : ∀ call ∈ calls, call.2.Distinct) :
    (w.tuneEach r calls).Tunes r p ∧
      (∃ store, (w.tuneEach r calls).router r = { w.router r with store }) ∧
      ∀ s, ((w.tuneEach r calls).router r).store.told? p.name s =
        (Tuning.latest? p.name (w.accepted r calls) s).or ((w.router r).store.told? p.name s) := by
  induction calls generalizing w with
  | nil => exact ⟨tunes, ⟨_, rfl⟩, fun s => rfl⟩
  | cons call rest ih =>
    obtain ⟨first, later⟩ := List.forall_mem_cons.1 distinct
    obtain ⟨stays, ⟨store, kept⟩, told⟩ := tunes.exec declared first
    obtain ⟨ends, ⟨store', kept'⟩, told'⟩ := ih stays later
    have accepted : w.accepted r (call :: rest) =
        w.accepted r [call] ++ (call.2.exec r call.1 w).world.accepted r rest := by
      simp only [World.accepted]
      cases (call.2.exec r call.1 w).result <;> rfl
    refine ⟨ends, ⟨store', ?_⟩, fun s => ?_⟩
    · rw [tuneEach_cons, kept', kept]
    · rw [tuneEach_cons, told', told, accepted, ← Option.or_assoc]
      simp only [Tuning.latest?, List.filterMap_append, List.getLast?_append]

end World

namespace Plugin

theorem configure_nil (p : Plugin) (store : PluginStore) : p.configure store [] = .ok store := by
  unfold configure
  cases p.pluginClass.options with
  | none => rfl
  | some rules =>
    have single : hasComma (.text everyName) = .ok false := by cbv
    have fine : checkOptions rules [] = .ok () := by
      simp [checkOptions, Options.Rules.check, Options.sortRefusals]
    simp [Assoc.erase, Assoc.has, expandFlags, single, configureTarget, fine, write, bind,
      Except.bind]

end Plugin

/-- A plugin that was attached with nothing said about it is on for all handlers, and nothing else
was told. -/
theorem Exec.plug_told? {w : World} {r : RouterRef} {p : Plugin} {plugin : Value}
    {logger : Option Logger} {reply : Reply}
    (chosen : (w.router r).chosen w.pluginClasses plugin [] logger = .ok (p, []))
    (fresh : Assoc.has (w.router r).store p.name = false)
    (none : ∀ e ∈ (w.router r).entries, Plugin.optionsIn e.metadata p.name = .ok [])
    (done : (Exec.plug r plugin [] logger w).result = .ok reply) (s : Source) :
    ((Exec.plug r plugin [] logger w).world.router r).store.told? p.name s =
      if s = .configured everyHandler then some true else Option.none := by
  obtain ⟨-, -, r', plugged, changed⟩ := plug_eq_ok done
  obtain ⟨q, options, cs, choice, -, made, attaches⟩ := Router.plug_eq_ok_iff.1 plugged
  cases chosen.symm.trans choice
  obtain ⟨-, ws, vs, hs, fs, left, right, rfl⟩ := Router.attach_eq_ok_iff.1 attaches
  have configured : ((w.router r).store.openBucket p.name).writeEach cs =
      (w.router r).store.openBucket p.name :=
    Except.ok.inj ((made _).symm.trans (p.configure_nil _))
  have kept : ∀ target, (((w.router r).store.openBucket p.name).writeEach (ws ++ vs)).slot p.name
      target = ((w.router r).store.openBucket p.name).slot p.name target := by
    intro target
    rw [PluginStore.slot_eq, (left.append right).slot?_of_none fun e mem _ => none e mem]
    rfl
  rw [changed, World.router_setRouter_self, ← PluginStore.told?_openBucket fresh s]
  change ((((w.router r).store.openBucket p.name).writeEach cs).writeEach (ws ++ vs)).told? _ s = _
  rw [configured]
  cases s <;> rw [PluginStore.told?, PluginStore.told?, kept]

/-- Whether a plugin is on for a handler, after any calls that configure plugins of its router or
switch them: of the sources for the handler, the first one that was told anything decides, by what
it was told last. Switching comes before configuration, and the handler before all handlers. What a
source was told before the calls counts where they tell it nothing, and a plugin that was attached
with nothing said about it was only told to be on for all handlers. A call for another plugin, or
for other handlers, changes nothing. -/
theorem Exec.isEnabled_after_calls {w : World} {r : RouterRef} {p : Plugin}
    {rules : Options.Rules} {calls : List (String × Tuning)} (tunes : w.Tunes r p)
    (declared : p.pluginClass.options = some rules) (tier : (w.router r).tier ≠ .plain)
    (own : (w.router r).IsOwn "is_plugin_enabled")
    (bucket : (w.router r).IsOwn "_get_plugin_bucket")
    (distinct : ∀ call ∈ calls, call.2.Distinct) :
    (∀ name : Value, Failure.keyOf name = .ok name.key →
      let told (s : Source) :=
        (Tuning.latest? p.name (w.accepted r calls) s).or ((w.router r).store.told? p.name s)
      isEnabled r name (.text p.name) (w.tuneEach r calls) =
        ⟨.done, .ok (.value (.bool (((Source.inOrder name.key).findSome? told).getD true))),
          w.tuneEach r calls⟩) ∧
    (∀ (name : Value) (call : String × Tuning), Failure.keyOf name = .ok name.key →
      call.2.Distinct →
      (call.1 = p.name → ∀ s ∈ call.2.sources, s.target ≠ name.key ∧ s.target ≠ everyHandler) →
      (isEnabled r name (.text p.name) (w.tuneEach r (calls ++ [call]))).result =
        (isEnabled r name (.text p.name) (w.tuneEach r calls)).result) ∧
    ∀ (u : World) (plugin : Value) (logger : Option Logger) (reply : Reply),
      (u.router r).chosen u.pluginClasses plugin [] logger = .ok (p, []) →
      Assoc.has (u.router r).store p.name = false →
      (∀ e ∈ (u.router r).entries, Plugin.optionsIn e.metadata p.name = .ok []) →
      (Exec.plug r plugin [] logger u).result = .ok reply →
      ∀ s, ((Exec.plug r plugin [] logger u).world.router r).store.told? p.name s =
        if s = .configured everyHandler then some true else none := by
  have answers : ∀ {calls : List (String × Tuning)}, (∀ call ∈ calls, call.2.Distinct) →
      ∀ name : Value, Failure.keyOf name = .ok name.key →
        isEnabled r name (.text p.name) (w.tuneEach r calls) =
          ⟨.done, .ok (.value (.bool (((Source.inOrder name.key).findSome?
            (((w.tuneEach r calls).router r).store.told? p.name)).getD true))),
            w.tuneEach r calls⟩ := by
    intro calls distinct name hashable
    obtain ⟨stays, ⟨store, kept⟩, -⟩ := tunes.tuneEach declared distinct
    rw [← PluginStore.enabled_eq_findSome?]
    exact isEnabled_of_hashable (by rwa [kept]) (by rwa [kept]) (by rwa [kept]) stays.known hashable
  refine ⟨fun name hashable => ?_, fun name call hashable once apart => ?_,
    fun u plugin logger reply chosen fresh none done => plug_told? chosen fresh none done⟩
  · obtain ⟨-, -, told⟩ := tunes.tuneEach declared distinct
    rw [answers distinct name hashable, funext told]
  · have more : ∀ c ∈ calls ++ [call], c.2.Distinct := by
      intro c mem
      rcases List.mem_append.1 mem with before | last
      · exact distinct c before
      · exact List.mem_singleton.1 last ▸ once
    obtain ⟨stays, -, -⟩ := tunes.tuneEach declared distinct
    obtain ⟨-, -, told⟩ := stays.exec declared once
    have last : w.tuneEach r (calls ++ [call]) =
        (call.2.exec r call.1 (w.tuneEach r calls)).world := List.foldl_concat ..
    rw [answers more name hashable, answers distinct name hashable, last]
    have untold : ∀ s ∈ Source.inOrder name.key,
        ((call.2.exec r call.1 (w.tuneEach r calls)).world.router r).store.told? p.name s =
          ((w.tuneEach r calls).router r).store.told? p.name s := by
      intro s asked
      rw [told, Tuning.latest?_eq_none, Option.none_or]
      intro c accepted mine tells
      obtain rfl := List.mem_singleton.1 (World.mem_of_mem_accepted accepted)
      obtain ⟨notOwn, notAll⟩ := apart mine s tells
      exact (Source.target_of_mem_inOrder asked).elim notOwn notAll
    rw [← List.head?_filterMap, ← List.head?_filterMap, List.filterMap_congr untold]

/-- Calls that switch logging for all handlers and for one, and configure it for others. The last
two are refused: one gives no flag, and the other one is for a plugin that is not there. -/
def loggingCalls : List (String × Tuning) :=
  [("logging", .configure [("_target", .text "a, b"), ("enabled", .bool false)]),
    ("logging", .configureHandler (.text "c") [("enabled", .text "off")]),
    ("logging", .setEnabled (.text everyName) (.bool false)),
    ("logging", .setEnabled (.text "b") (.int 1)),
    ("logging", .configureHandler (.text "a") [("enabled", .text "maybe")]),
    ("counting", .setEnabled (.text "a") (.bool true))]

/-- Each handler goes by the first of its sources: `a` by its configuration, `b` by what was
switched, `c` by a word, which counts as a yes, and `d` by what was switched for all. -/
theorem loggingCalls_decide :
    let w := loggingOnly.tuneEach 0 loggingCalls
    loggingOnly.Tunes 0 loggingPlugin ∧ (∀ call ∈ loggingCalls, call.2.Distinct) ∧
      ∀ row ∈ [("a", false), ("b", true), ("c", true), ("d", false)],
        (Exec.isEnabled 0 (.text row.1) (.text "logging") w).result =
          .ok (.value (.bool row.2)) := by
  intro w
  have distinct : ∀ call ∈ loggingCalls, call.2.Distinct := by
    simp [loggingCalls, Tuning.Distinct, Assoc.Distinct, Assoc.names]
  have tunes : loggingOnly.Tunes 0 loggingPlugin := by
    refine ⟨?_, ?_⟩ <;> rw [router_loggingOnly] <;> rfl
  have decides := (Exec.isEnabled_after_calls tunes (p := loggingPlugin) rfl
    (by rw [router_loggingOnly]; decide) (by rw [router_loggingOnly]; rfl)
    (by rw [router_loggingOnly]; rfl) distinct).1
  refine ⟨tunes, distinct, fun row mem => ?_⟩
  rw [show "logging" = loggingPlugin.name from rfl, decides (.text row.1) rfl]
  simp only [List.mem_cons, List.not_mem_nil, or_false] at mem
  obtain rfl | rfl | rfl | rfl := mem <;> cbv

end HandlerChains
