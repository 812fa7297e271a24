import HandlerChains.Proofs.Router.Addressing

/-!
# What accepted flags do

A flag may be given as a number or as a word. The check reads it and forgets what it read: the value
is stored as it came, and whoever asks for the flag takes any text for a yes. So the words for no
switch a plugin on, while all other accepted values act as what they stand for. That is the same in
each way to give a plugin options.
-/

namespace HandlerChains

namespace Options

variable {v : Value} {b : Bool}

/-- How a flag acts that a value stands for. A word acts as a yes. -/
def actsAs (v : Value) (flag : Bool) : Bool :=
  match v with
  | .text _ => true
  | _ => flag

theorem flagOfInt_eq_ok {n : Int} (read : flagOfInt n = .ok b) : (n != 0) = b := by
  unfold flagOfInt at read
  split at read
  · next zero =>
    cases read
    simpa using zero
  · split at read
    · next one =>
      cases read
      rw [one]
      rfl
    · cases read

/-- Accepted values count as the flag that they stand for, except for words. -/
theorem isTruthy_of_flagOf (read : flagOf v = .ok b) : v.isTruthy = actsAs v b := by
  cases v with
  | bool => exact Except.ok.inj read
  | int n => exact flagOfInt_eq_ok read
  | decimal negative digits places =>
    cases whole : wordOf negative digits places with
    | error p => simp [flagOf, whole] at read
    | ok n =>
      have key : (Value.decimal negative digits places).key = .number n 0 := by
        unfold wordOf at whole
        split at whole
        · next eq =>
          split at whole
          · cases whole
            exact eq
          · cases whole
        · cases whole
      rw [← Value.isTruthy_key (by simp [Value.key?]), key]
      have read : flagOfInt n = .ok b := by simpa [flagOf, whole] using read
      exact flagOfInt_eq_ok read
  | text s =>
    have some : s ≠ "" := by
      rintro rfl
      have none : flagWords.lookup (Text.lowerAscii "") = none := by cbv
      simp [flagOf, none] at read
    simpa [Value.isTruthy, actsAs] using some
  | null | list | record => cases read

theorem problem?_eq_none_of_check {rules : Rules} {given : Assoc Value} {option : String}
    (checked : Plugin.checkOptions rules given = .ok ()) (has : Assoc.get? given option = some v) :
    rules.problem? option v = none := by
  unfold Plugin.checkOptions at checked
  dsimp only at checked
  split at checked
  · next passed =>
    have sorted : (rules.check given).Perm _ := List.mergeSort_perm _ _
    rw [List.isEmpty_iff.1 passed] at sorted
    have fine := List.filterMap_eq_nil_iff.1 (List.nil_perm.1 sorted) _ (Assoc.mem_of_get? has)
    rwa [Option.map_eq_none_iff] at fine
  · cases checked

theorem flagOf_of_check {rules : Rules} {given : Assoc Value} {option : String}
    (checked : Plugin.checkOptions rules given = .ok ())
    (isFlag : Assoc.get? rules option = some .flag) (has : Assoc.get? given option = some v) :
    ∃ b, flagOf v = .ok b := by
  have fine := problem?_eq_none_of_check checked has
  unfold Rules.problem? at fine
  split at fine
  · cases fine
  · rw [isFlag] at fine
    cases read : flagOf v with
    | ok b => exact ⟨b, rfl⟩
    | error p => simp [Accepts.problem?, read, problemOf] at fine

theorem exists_bool_of_flagsIn {s name : String} (set : Assoc.get? (flagsIn s) name = some v) :
    ∃ b, v = .bool b := by
  obtain none | mem := Assoc.mem_of_get?_merge set
  · cases none
  · obtain ⟨field, -, eq⟩ := List.mem_map.1 mem
    unfold flagIn at eq
    dsimp only at eq
    split at eq <;> exact ⟨_, (congrArg Prod.snd eq).symm⟩

end Options

namespace Plugin

variable {p : Plugin} {rules : Options.Rules} {given flags own : Assoc Value}
variable {store store' : PluginStore} {option : String} {v : Value}

/-- Whether options give a plugin one of its options, be it as one of the flags. -/
def Asks (given : Assoc Value) (option : String) (v : Value) : Prop :=
  ∃ flags, SetsFlags given flags ∧ Assoc.get? (overlaid given flags) option = some v

theorem Asks.ne_nil (asks : Asks given option v) : given ≠ [] := by
  rintro rfl
  obtain ⟨flags, sets, found⟩ := asks
  cases sets
  cases found

def targetsOf (given : Assoc Value) : List Key :=
  match (Assoc.get? given "_target").getD (.text everyName) with
  | .text s => if ',' ∈ s.toList then (targetsIn s).map Key.text else [.text s]
  | v => [v.key]

theorem configureTarget_eq_ok {target : Value}
    (done : p.configureTarget rules store target given = .ok store') :
    checkOptions rules given = .ok () ∧ store' = store.writeConfig p.name target.key given := by
  unfold configureTarget at done
  cases checked : checkOptions rules given with
  | error f =>
    rw [checked] at done
    cases done
  | ok _ =>
    rw [checked] at done
    exact ⟨rfl, write_eq_ok done⟩

theorem flags_eq_nil (sets : SetsFlags given flags) {more : Assoc Value}
    (again : SetsFlags (overlaid given flags) more) : more = [] := by
  have none : Assoc.get? (Assoc.erase given "flags") "flags" = none := Assoc.get?_erase_self ..
  have named : Assoc.get? (overlaid given flags) "flags" = Assoc.get? flags "flags" := by
    rw [overlaid, Assoc.get?_merge (distinct_flagsOf sets), none, Option.or_none]
  have bool : ∀ v, Assoc.get? flags "flags" = some v → ∃ b, v = .bool b := by
    intro v set
    unfold SetsFlags flagsOf at sets
    split at sets
    · cases sets
      exact Options.exists_bool_of_flagsIn set
    · split at sets
      · cases sets
      · cases sets
        cases set
  unfold SetsFlags at again
  rw [named] at again
  cases found : Assoc.get? flags "flags" with
  | none =>
    rw [found] at again
    exact (Except.ok.inj again).symm
  | some v =>
    obtain ⟨b, rfl⟩ := bool v found
    rw [found] at again
    cases b with
    | false => exact (Except.ok.inj again).symm
    | true => cases again

theorem configureListed_eq_ok {target : String} (sets : SetsFlags given flags)
    (done : p.configureListed rules (overlaid given flags) store target = .ok store') :
    checkOptions rules (Assoc.erase (overlaid given flags) "flags") = .ok () ∧
      store' = store.writeConfig p.name (.text target)
        (Assoc.erase (overlaid given flags) "flags") := by
  unfold configureListed at done
  split at done
  · cases done
  · cases expands : expandFlags (overlaid given flags) with
    | error f =>
      rw [expands] at done
      cases done
    | ok own =>
      obtain ⟨more, again, rfl⟩ := expandFlags_eq_ok expands
      obtain rfl := flags_eq_nil sets again
      rw [expands] at done
      exact configureTarget_eq_ok done

theorem foldlM_configureListed_eq_ok {targets : List String} (sets : SetsFlags given flags)
    (done : targets.foldlM (p.configureListed rules (overlaid given flags)) store = .ok store') :
    (targets ≠ [] → checkOptions rules (Assoc.erase (overlaid given flags) "flags") = .ok ()) ∧
      store' = store.writeEach ((targets.map Key.text).map fun target =>
        ⟨p.name, target, Assoc.erase (overlaid given flags) "flags"⟩) := by
  induction targets generalizing store with
  | nil =>
    cases done
    exact ⟨fun some => absurd rfl some, rfl⟩
  | cons target targets ih =>
    rw [List.foldlM_cons] at done
    cases first : p.configureListed rules (overlaid given flags) store target with
    | error f =>
      rw [first] at done
      cases done
    | ok between =>
      rw [first] at done
      obtain ⟨checked, rfl⟩ := configureListed_eq_ok sets first
      obtain ⟨-, written⟩ := ih done
      exact ⟨fun _ => checked, written⟩

/-- A plugin that was configured checked its options, and wrote them for each target as they came,
with the flags over all others. -/
theorem configure_eq_ok (declared : p.pluginClass.options = some rules)
    (done : p.configure store given = .ok store') :
    ∃ flags own, SetsFlags (Assoc.erase given "_target") flags ∧
      (Assoc.Distinct given → Assoc.Distinct own) ∧
      (∀ option ≠ "flags", Assoc.get? own option =
        Assoc.get? (overlaid (Assoc.erase given "_target") flags) option) ∧
      (targetsOf given ≠ [] → checkOptions rules own = .ok ()) ∧
      store' = store.writeEach ((targetsOf given).map fun target => ⟨p.name, target, own⟩) := by
  unfold configure at done
  dsimp only at done
  rw [declared] at done
  split at done
  · cases done
  · cases expands : expandFlags (Assoc.erase given "_target") with
    | error f =>
      rw [expands] at done
      cases done
    | ok own =>
      obtain ⟨flags, sets, rfl⟩ := expandFlags_eq_ok expands
      rw [expands] at done
      dsimp only [bind, Except.bind] at done
      have once : Assoc.Distinct given →
          Assoc.Distinct (overlaid (Assoc.erase given "_target") flags) :=
        fun distinct => distinct_overlaid (distinct.erase "_target") flags
      unfold targetsOf
      generalize (Assoc.get? given "_target").getD (.text everyName) = target at done ⊢
      cases comma : hasComma target with
      | error f =>
        rw [comma] at done
        cases done
      | ok several =>
        rw [comma] at done
        cases target with
        | text s =>
          obtain rfl : decide (',' ∈ s.toList) = several := Except.ok.inj comma
          by_cases several : ',' ∈ s.toList
          · rw [decide_eq_true several] at done
            obtain ⟨checked, written⟩ := foldlM_configureListed_eq_ok sets done
            dsimp only
            rw [if_pos several]
            exact ⟨flags, _, sets, fun distinct => (once distinct).erase "flags",
              fun option other => Assoc.get?_erase_of_ne _ other,
              fun some => checked (by simpa using some), written⟩
          · rw [decide_eq_false several] at done
            obtain ⟨checked, written⟩ := configureTarget_eq_ok done
            dsimp only
            rw [if_neg several]
            exact ⟨flags, _, sets, once, fun _ _ => rfl, fun _ => checked, written⟩
        | _ =>
          cases several with
          | true => cases done
          | false =>
            obtain ⟨checked, written⟩ := configureTarget_eq_ok done
            exact ⟨flags, _, sets, once, fun _ _ => rfl, fun _ => checked, written⟩

theorem configureHandler_checks {handler : Value} (declared : p.pluginClass.options = some rules)
    (done : p.configureHandler store handler given = .ok store') :
    ∃ flags, SetsFlags given flags ∧ checkOptions rules (overlaid given flags) = .ok () ∧
      store' = store.writeConfig p.name handler.key (overlaid given flags) := by
  unfold configureHandler at done
  rw [declared] at done
  split at done
  · cases done
  · cases expands : expandFlags given with
    | error f =>
      rw [expands] at done
      cases done
    | ok own =>
      obtain ⟨flags, sets, rfl⟩ := expandFlags_eq_ok expands
      rw [expands] at done
      exact ⟨flags, sets, configureTarget_eq_ok done⟩

end Plugin

theorem Slot.get?_foldl_written {configs : List (Assoc Value)} {option : String} {v : Value}
    (some : configs ≠ [])
    (all : ∀ own ∈ configs, Assoc.Distinct own ∧ Assoc.get? own option = .some v)
    (held : Option Slot) :
    Assoc.get? ((configs.foldl written held).getD {}).config option = .some v := by
  induction configs generalizing held with
  | nil => exact absurd rfl some
  | cons own rest ih =>
    obtain ⟨⟨distinct, given⟩, later⟩ := List.forall_mem_cons.1 all
    by_cases last : rest = []
    · rw [last]
      exact get?_written distinct held given
    · exact ih last later (written held own)

namespace PluginStore

variable {plugin option : String} {targets : List Key} {target : Key} {own : Assoc Value}
variable {v : Value}

theorem get?_writeEach_targets (store : PluginStore) (distinct : Assoc.Distinct own)
    (given : Assoc.get? own option = some v) (meant : target ∈ targets) :
    Assoc.get? ((store.writeEach (targets.map fun target => ⟨plugin, target, own⟩)).slot plugin
      target).config option = some v := by
  have configs : ∀ own' ∈ Write.configsAt plugin target
      (targets.map fun target => ⟨plugin, target, own⟩), own' = own := by
    intro own' mem
    obtain ⟨w, listed, rfl⟩ := List.mem_map.1 mem
    obtain ⟨_, -, rfl⟩ := List.mem_map.1 (List.mem_filter.1 listed).1
    rfl
  have here : own ∈ Write.configsAt plugin target
      (targets.map fun target => ⟨plugin, target, own⟩) := by
    refine List.mem_map.2 ⟨⟨plugin, target, own⟩, List.mem_filter.2 ⟨?_, by simp⟩, rfl⟩
    exact List.mem_map.2 ⟨target, meant, rfl⟩
  rw [slot_eq, slot?_writeEach]
  refine Slot.get?_foldl_written (List.ne_nil_of_mem here) (fun own' mem => ?_) _
  rw [configs own' mem]
  exact ⟨distinct, given⟩

theorem has_of_get? {store : PluginStore}
    (given : Assoc.get? (store.slot plugin target).config option = some v) :
    Assoc.has store plugin = true := by
  unfold slot at given
  cases bucket : Assoc.get? store plugin with
  | none =>
    rw [bucket] at given
    cases given
  | some bucket' =>
    unfold Assoc.has
    rw [bucket]
    rfl

end PluginStore

namespace Router

variable {ps : List Plugin} {p : Plugin} {e e' : Entry} {es es' : List Entry} {ws : List Write}
variable {rules : Options.Rules} {given : Assoc Value}

theorem FitsAll.checks (fits : FitsAll ps e ws e') (attached : p ∈ ps)
    (declared : p.pluginClass.options = some rules)
    (found : Plugin.optionsIn e.metadata p.name = .ok given) (some : given ≠ []) :
    ∃ flags, Plugin.SetsFlags given flags ∧
      Plugin.checkOptions rules (Plugin.overlaid given flags) = .ok () := by
  induction fits with
  | nil => cases attached
  | @cons q ps e e' e'' ws vs first rest ih =>
    rcases List.mem_cons.1 attached with rfl | later
    · obtain ⟨options, found', configures, -⟩ := first.steps []
      obtain rfl := Except.ok.inj (found.symm.trans found')
      rw [if_neg (by simpa using some)] at configures
      obtain ⟨flags, sets, checked, -⟩ := Plugin.configureHandler_checks declared configures
      exact ⟨flags, sets, checked⟩
    · exact ih later ((first.eq_ok.1 p.name).trans found)

theorem FitsEach.slot?_of_none (fits : FitsEach p es ws es') {target : Key}
    (none : ∀ e ∈ es, e.key = target → Plugin.optionsIn e.metadata p.name = .ok [])
    (store : PluginStore) :
    (store.writeEach ws).slot? p.name target = store.slot? p.name target := by
  induction fits generalizing store with
  | nil => rfl
  | @cons e e' es es' ws vs first rest ih =>
    obtain ⟨now, later⟩ := List.forall_mem_cons.1 none
    rw [PluginStore.writeEach_append, ih later]
    by_cases here : e.key = target
    · rw [first.writeEach_of_none (now here)]
    · rw [PluginStore.slot?_writeEach, Write.configsAt_eq_nil]
      · rfl
      · exact fun w hw _ there => here ((first.places w hw).2.symm.trans there)

end Router

namespace Dispatch.Layer.LogSettings

def names : List String := ["enabled", "before", "after", "log", "print"]

def named? (s : LogSettings) (name : String) : Option Bool :=
  Assoc.get? (names.zip [s.enabled, s.before, s.after, s.log, s.print]) name

theorem rules_of_mem {name : String} (flag : name ∈ names) :
    ∃ rules, PluginClass.logging.options = some rules ∧ Assoc.get? rules name = some .flag ∧
      name ≠ "flags" := by
  refine ⟨_, rfl, ?_⟩
  simp only [names, List.mem_cons, List.not_mem_nil, or_false] at flag
  obtain rfl | rfl | rfl | rfl | rfl := flag <;> simp [Assoc.get?]

theorem named?_ofConfig {config : Assoc Value} {name : String} {v : Value} (flag : name ∈ names)
    (set : Assoc.get? config name = some v) (some : v ≠ .null) :
    (ofConfig config).named? name = .some v.isTruthy := by
  simp only [names, List.mem_cons, List.not_mem_nil, or_false] at flag
  cases v with
  | null => exact absurd rfl some
  | _ =>
    obtain rfl | rfl | rfl | rfl | rfl := flag <;>
      simp [named?, names, Assoc.get?, ofConfig, set]

end Dispatch.Layer.LogSettings

namespace Exec

variable {w w' : World} {r : RouterRef} {p : Plugin} {plugin : Value} {given : Assoc Value}

theorem changeStore_returns {f : PluginStore → Except Failure PluginStore}
    (returns : Returns (changeStore r f) w () w') :
    ∃ store, f (w.router r).store = .ok store ∧ w'.router r = { w.router r with store } := by
  obtain ⟨_, _, reads, returns⟩ := returns.of_bind
  obtain ⟨rfl, rfl⟩ := reads.of_router
  obtain ⟨store, _, lifts, ends⟩ := returns.of_bind
  obtain ⟨made, rfl⟩ := lifts.of_lift
  refine ⟨store, made, ?_⟩
  rw [← ends.world]
  exact World.router_setRouter_self ..

theorem pluginAttribute_returns {v : Value} (found : (pluginAttribute r v w).result = .ok p)
    {q : Plugin} (returns : Returns (pluginAttribute r v) w q w') : q = p ∧ w = w' := by
  have same : q = p := Except.ok.inj (returns.result.symm.trans found)
  unfold pluginAttribute at returns
  split at returns
  · obtain ⟨_, _, reads, lifts⟩ := returns.of_bind
    obtain ⟨-, rfl⟩ := reads.of_router
    exact ⟨same, lifts.of_lift.2⟩
  · cases returns.result

/-- Calls that succeed and give a plugin one of its options for a target, and the worlds after them:
configuring the plugin for all of its targets or for one handler, registering a handler with options
for the plugin, and attaching it, where no handler that is there has options for it and is named as
the target. -/
inductive Gives (r : RouterRef) (p : Plugin) (option : String) (v : Value) (w : World) :
    Key → World → Prop
  | configure {plugin : Value} {given : Assoc Value} {target : Key}
      (found : (pluginAttribute r plugin w).result = .ok p) (distinct : Assoc.Distinct given)
      (asks : Plugin.Asks (Assoc.erase given "_target") option v)
      (meant : target ∈ Plugin.targetsOf given)
      (done : (configurePlugin r plugin given w).result = .ok ()) :
      Gives r p option v w target (configurePlugin r plugin given w).world
  | configureHandler {plugin handler : Value} {given : Assoc Value}
      (found : (pluginAttribute r plugin w).result = .ok p) (distinct : Assoc.Distinct given)
      (asks : Plugin.Asks given option v)
      (done : (configureHandler r plugin handler given w).result = .ok ()) :
      Gives r p option v w handler.key (configureHandler r plugin handler given w).world
  | register {h : Handler} {error : Bool} {name : Value} {derived : Option String}
      {options : Assoc Value} {e : Entry} (tier : (w.router r).tier ≠ .plain)
      (attached : p ∈ (w.router r).plugins) (known : p.name ∈ Assoc.names w.pluginClasses)
      (asks : Plugin.Asks (Options.takenBy p.name options) option v)
      (done : (w.register r h error name derived options).1 = .ok ())
      (added : (w.router r).Gains [e] ((w.register r h error name derived options).2.router r)) :
      Gives r p option v w e.key (w.register r h error name derived options).2
  | plug {plugin : Value} {config given : Assoc Value} {logger : Option Logger} {target : Key}
      {reply : Reply}
      (chosen : (w.router r).chosen w.pluginClasses plugin config logger = .ok (p, given))
      (distinct : Assoc.Distinct given)
      (asks : Plugin.Asks (Assoc.erase given "_target") option v)
      (meant : target ∈ Plugin.targetsOf given)
      (alone : ∀ e ∈ (w.router r).entries, e.key = target →
        Plugin.optionsIn e.metadata p.name = .ok [])
      (done : (Exec.plug r plugin config logger w).result = .ok reply) :
      Gives r p option v w target (Exec.plug r plugin config logger w).world

namespace Gives

variable {rules : Options.Rules} {option : String} {v : Value} {target : Key}

theorem stored_of_configure {store store' : PluginStore}
    (declared : p.pluginClass.options = some rules)
    (isFlag : Assoc.get? rules option = some .flag) (other : option ≠ "flags")
    (distinct : Assoc.Distinct given) (asks : Plugin.Asks (Assoc.erase given "_target") option v)
    (meant : target ∈ Plugin.targetsOf given) (done : p.configure store given = .ok store') :
    (∃ b, Options.flagOf v = .ok b) ∧
      Assoc.get? (store'.slot p.name target).config option = some v := by
  obtain ⟨flags, own, sets, once, same, checked, rfl⟩ := Plugin.configure_eq_ok declared done
  obtain ⟨flags', sets', asks⟩ := asks
  rw [← sets.unique sets', ← same option other] at asks
  exact ⟨Options.flagOf_of_check (checked (List.ne_nil_of_mem meant)) isFlag asks,
    store.get?_writeEach_targets (once distinct) asks meant⟩

/-- An option that is given in any way is accepted and stored as it is. -/
theorem stored (gives : Gives r p option v w target w')
    (declared : p.pluginClass.options = some rules)
    (isFlag : Assoc.get? rules option = some .flag) (other : option ≠ "flags") :
    (∃ b, Options.flagOf v = .ok b) ∧
      Assoc.get? ((w'.router r).store.slot p.name target).config option = some v := by
  cases gives with
  | configure found distinct asks meant done =>
    obtain ⟨q, _, finds, changes⟩ := (Returns.of_result done).of_bind
    obtain ⟨rfl, rfl⟩ := pluginAttribute_returns found finds
    obtain ⟨store, made, same⟩ := changeStore_returns changes
    rw [same]
    exact stored_of_configure declared isFlag other distinct asks meant made
  | configureHandler found distinct asks done =>
    obtain ⟨q, _, finds, changes⟩ := (Returns.of_result done).of_bind
    obtain ⟨rfl, rfl⟩ := pluginAttribute_returns found finds
    obtain ⟨store, made, same⟩ := changeStore_returns changes
    obtain ⟨flags, sets, checked, rfl⟩ := Plugin.configureHandler_checks declared made
    obtain ⟨flags', sets', asks⟩ := asks
    rw [← sets.unique sets'] at asks
    refine ⟨Options.flagOf_of_check checked isFlag asks, ?_⟩
    rw [same]
    exact PluginStore.get?_writeEach_targets _ (Plugin.distinct_overlaid distinct flags) asks
      (List.mem_singleton_self _)
  | @register h error name derived options e tier attached known asks done added =>
    obtain ⟨r', registered, answer⟩ := World.register_eq_ok done
    rw [answer] at added ⊢
    dsimp only at added ⊢
    rw [World.router_setRouter_self] at added ⊢
    obtain ⟨-, -, d, ws, d', made, fits, rfl⟩ := Router.register_eq_ok_iff.1 registered
    obtain ⟨free, -⟩ := Router.newEntry_fresh made
    obtain ⟨-, name', -, rfl⟩ := Router.newEntry_eq_ok_iff.1 made
    have key := fits.key_eq
    have gains := Router.gained_of_gains (Router.gains_append
      (e := { d' with layers := (w.router r).plugins }) (key.symm ▸ free)
      ((w.router r).store.writeEach ws)) (by simp)
    obtain rfl : _ = e := List.singleton_inj.1
      (gains.symm.trans (Router.gained_of_gains added (by simp)))
    have found := Router.optionsIn_entryMetadata tier known asks.ne_nil
    obtain ⟨flags, sets, written⟩ := fits.slot?_of_named ⟨p, attached, rfl⟩ found asks.ne_nil
      (Options.distinct_takenBy _ _)
    obtain ⟨flags', sets', checked⟩ := fits.checks attached declared found asks.ne_nil
    obtain ⟨flags'', sets'', asks⟩ := asks
    rw [← sets.unique sets''] at asks
    rw [← sets.unique sets'] at checked
    refine ⟨Options.flagOf_of_check checked isFlag asks, ?_⟩
    obtain ⟨hs, fs, rest⟩ := Router.append_rest
      { w.router r with store := (w.router r).store.writeEach ws }
      { d' with layers := (w.router r).plugins }
    rw [rest]
    change Assoc.get? (((w.router r).store.writeEach ws).slot p.name d'.key).config option = some v
    rw [key, PluginStore.slot_eq, written]
    exact Slot.get?_written (Plugin.distinct_overlaid (Options.distinct_takenBy _ _) flags) _ asks
  | plug chosen distinct asks meant alone done =>
    obtain ⟨-, -, r', plugged, changed⟩ := plug_eq_ok done
    obtain ⟨q, options, cs, choice, -, made, attaches⟩ := Router.plug_eq_ok_iff.1 plugged
    cases chosen.symm.trans choice
    obtain ⟨-, ws, vs, hs, fs, left, right, rfl⟩ := Router.attach_eq_ok_iff.1 attaches
    obtain ⟨accepted, there⟩ := stored_of_configure declared isFlag other distinct asks meant
      (made ((w.router r).store.openBucket p.name))
    refine ⟨accepted, ?_⟩
    rw [changed, World.router_setRouter_self]
    change Assoc.get? ((((((w.router r).store.openBucket p.name).writeEach cs).writeEach
      (ws ++ vs)).slot p.name target).config) option = some v
    rwa [PluginStore.slot_eq, (left.append right).slot?_of_none alone, ← PluginStore.slot_eq]

theorem plain (gives : Gives r p option v w target w') (plain : (w.router r).store.Plain) :
    (w'.router r).store.Plain := by
  cases gives with
  | configure found distinct asks meant done =>
    obtain ⟨q, _, finds, changes⟩ := (Returns.of_result done).of_bind
    obtain ⟨rfl, rfl⟩ := pluginAttribute_returns found finds
    obtain ⟨store, made, same⟩ := changeStore_returns changes
    obtain ⟨ws, -, rfl⟩ := (q.configure_writes _).eq_ok made
    rw [same]
    exact plain.writeEach ws
  | configureHandler found distinct asks done =>
    obtain ⟨q, _, finds, changes⟩ := (Returns.of_result done).of_bind
    obtain ⟨rfl, rfl⟩ := pluginAttribute_returns found finds
    obtain ⟨store, made, same⟩ := changeStore_returns changes
    obtain ⟨ws, -, rfl⟩ := (q.configureHandler_writes _ _).eq_ok made
    rw [same]
    exact plain.writeEach ws
  | register tier attached known asks done added =>
    obtain ⟨r', registered, answer⟩ := World.register_eq_ok done
    obtain ⟨-, -, d, ws, d', made, fits, rfl⟩ := Router.register_eq_ok_iff.1 registered
    obtain ⟨hs, fs, rest⟩ := Router.append_rest
      { w.router r with store := (w.router r).store.writeEach ws }
      { d' with layers := (w.router r).plugins }
    rw [answer]
    dsimp only
    rw [World.router_setRouter_self, rest]
    exact plain.writeEach ws
  | plug chosen distinct asks meant alone done =>
    obtain ⟨-, -, r', plugged, changed⟩ := plug_eq_ok done
    obtain ⟨q, options, cs, choice, -, made, attaches⟩ := Router.plug_eq_ok_iff.1 plugged
    obtain ⟨-, ws, vs, hs, fs, left, right, rfl⟩ := Router.attach_eq_ok_iff.1 attaches
    rw [changed, World.router_setRouter_self]
    exact ((plain.openBucket q.name).writeEach cs).writeEach (ws ++ vs)

end Gives

theorem isEnabled_of_hashable {name : Value} {plugin : String}
    (tier : (w.router r).tier ≠ .plain) (own : (w.router r).IsOwn "is_plugin_enabled")
    (bucket : (w.router r).IsOwn "_get_plugin_bucket")
    (known : Assoc.has (w.router r).store plugin = true)
    (hashable : Failure.keyOf name = .ok name.key) :
    isEnabled r name (.text plugin) w =
      ⟨.done, .ok (.value (.bool ((w.router r).store.enabled plugin name.key))), w⟩ := by
  have asks : ∀ call, (w.router r).expect "_get_plugin_bucket" call = .ok () :=
    fun call => (Router.expect_eq_ok_iff ..).2 bucket
  unfold isEnabled bucketName pluginName
  rw [bind_apply, (pluggable_eq_ok_iff ..).2 ⟨tier, own⟩]
  simp [bind_apply, lift, asks, known, hashable]

end Exec

theorem Slot.enabled?_of_config {s : Slot} {v : Value}
    (quiet : Assoc.get? s.data (.text enabledName) = none)
    (set : Assoc.get? s.config enabledName = some v) : s.enabled? = some v.isTruthy := by
  rw [enabled?, quiet, set]
  rfl

open Dispatch.Layer in
/-- An option of the logging plugin that was accepted, in whatever way it was given, stands for a
flag and acts as that flag: if it says whether the plugin is on, then asking for that gives the
flag, where nothing closer to the handler and nothing that was set while running says something
else; and a call of the handler is reported on with the flag among the settings. A word is
different, since it acts as a yes even if it stands for a no. -/
theorem Exec.flag_acts {w w' : World} {r : RouterRef} {p : Plugin} {option : String} {v : Value}
    {target : Key} (logging : p.pluginClass = .logging) (flag : option ∈ LogSettings.names)
    (plain : (w.router r).store.Plain) (gives : Gives r p option v w target w') :
    let store := (w'.router r).store
    ∃ b, Options.flagOf v = .ok b ∧
      (∀ name : Value, option = enabledName →
        (name.key = target ∨
          target = everyHandler ∧ (store.slot p.name name.key).enabled? = none) →
        Assoc.get? (store.slot p.name target).data (.text enabledName) = none →
        Failure.keyOf name = .ok name.key → (w'.router r).tier ≠ .plain →
        (w'.router r).IsOwn "is_plugin_enabled" → (w'.router r).IsOwn "_get_plugin_bucket" →
        isEnabled r name (.text p.name) w' =
          ⟨.done, .ok (.value (.bool (Options.actsAs v b))), w'⟩) ∧
      ∀ name : Value,
        (name.key = target ∧ target.isTruthy = true ∨ target = everyHandler ∧
          (name.key.isTruthy = true →
            Assoc.get? (store.slot p.name name.key).config option = none)) →
        let settings := LogSettings.ofConfig (store.configuration p.name name.key)
        settings.named? option = some (Options.actsAs v b) ∧
          ∀ next, wrap ⟨r, p, name⟩ next w' =
            if settings.enabled then
              report ⟨r, p, name⟩ (w'.router r).name settings next w'
            else next w' := by
  intro store
  have hook : p.pluginClass.hook = .log := by rw [logging]; rfl
  obtain ⟨rules, declared, isFlag, other⟩ := LogSettings.rules_of_mem flag
  rw [← logging] at declared
  obtain ⟨⟨b, read⟩, there⟩ := gives.stored declared isFlag other
  have plain : store.Plain := gives.plain plain
  have acts := Options.isTruthy_of_flagOf read
  have some : v ≠ .null := by
    rintro rfl
    cases read
  refine ⟨b, read, ?_, ?_⟩
  · rintro name rfl decides quiet hashable tier own bucket
    have said : (store.slot p.name target).enabled? = .some v.isTruthy :=
      Slot.enabled?_of_config quiet there
    have enabled : store.enabled p.name name.key = v.isTruthy := by
      unfold PluginStore.enabled
      rcases decides with same | ⟨all, silent⟩
      · rw [same, said]
        rfl
      · rw [silent, ← all, said]
        rfl
    rw [isEnabled_of_hashable tier own bucket (PluginStore.has_of_get? there) hashable, ← acts,
      ← enabled]
  · intro name reads
    have config : Assoc.get? (store.configuration p.name name.key) option = .some v := by
      rcases reads with ⟨same, truthy⟩ | ⟨all, silent⟩
      · rw [same]
        exact plain.get?_configuration truthy there
      · rw [all] at there
        unfold PluginStore.configuration
        split
        · next truthy =>
          rw [Assoc.get?_merge (plain p.name name.key), silent truthy, there]
          rfl
        · exact there
    refine ⟨?_, fun next => wrap_of_log (l := ⟨r, p, name⟩) hook next w'⟩
    rw [LogSettings.named?_ofConfig flag config some, acts]

def configured (given : Assoc Value) : Ended Unit :=
  Exec.configurePlugin 0 (.text "logging") given loggingOnly

def numberFlags : Assoc Value := [("before", .int 1), ("enabled", .int 0)]

theorem router_configured :
    (configured numberFlags).world.router 0 = { Small.newRouter with
      plugins := [loggingPlugin]
      store := [("logging", [(everyHandler,
        { config := [("enabled", .int 0), ("before", .int 1)] })])] } := by
  cbv

/-- Zero switches logging off for all handlers. -/
theorem configured_numbers_act :
    let w := (configured numberFlags).world
    (configured numberFlags).result = .ok () ∧
      Exec.isEnabled 0 (.text "x") (.text "logging") w =
        ⟨.done, .ok (.value (.bool false)), w⟩ ∧
      (Dispatch.Layer.LogSettings.ofConfig
        ((w.router 0).store.configuration "logging" (.text "x"))).named? "enabled" =
          some false := by
  intro w
  have done : (configured numberFlags).result = .ok () := by cbv
  have found : (Exec.pluginAttribute 0 (.text "logging") loggingOnly).result =
      .ok loggingPlugin := by cbv
  have asks : Plugin.Asks (Assoc.erase numberFlags "_target") "enabled" (.int 0) :=
    ⟨[], rfl, rfl⟩
  have gives : Exec.Gives 0 loggingPlugin "enabled" (.int 0) loggingOnly everyHandler w :=
    .configure found (by unfold Assoc.Distinct; decide) asks
      (List.mem_of_elem_eq_true (by cbv)) done
  have plain : (loggingOnly.router 0).store.Plain := by
    have empty : PluginStore.Plain [] := fun _ _ => Assoc.Distinct.nil
    rw [router_loggingOnly]
    exact empty.openBucket "logging"
  obtain ⟨b, read, on, reads⟩ := Exec.flag_acts rfl (by decide) plain gives
  cases read
  rw [router_configured] at on reads
  refine ⟨done, ?_, ?_⟩
  · exact on (.text "x") rfl (.inr ⟨rfl, rfl⟩) rfl rfl (by decide) rfl rfl
  · rw [router_configured]
    exact (reads (.text "x") (.inr ⟨rfl, fun _ => rfl⟩)).1

/-- A word for no is accepted, and leaves logging on. -/
theorem configured_off_stays_on :
    let e := configured [("enabled", .text "off")]
    e.result = .ok () ∧ Options.flagOf (.text "off") = .ok false ∧
      (Exec.isEnabled 0 (.text "x") (.text "logging") e.world).result =
        .ok (.value (.bool true)) := by
  refine ⟨?_, ?_, ?_⟩ <;> cbv

end HandlerChains
