import HandlerChains.Proofs.Plugin.HandlerOptions

/-!
# Options and other handlers

The options of a registration are written under the key of the new entry, which no other entry has.
One key is no handler's own, though: under it a plugin has what it has for all handlers. So a
registration leaves the configuration of every other handler as it is, unless its entry has that
key and brings options.
-/

namespace HandlerChains
namespace PluginStore

variable {s t : PluginStore} {plugin : String} {handler : Key}

theorem says_congr (common : s.slot? plugin everyHandler = t.slot? plugin everyHandler)
    (own : s.slot? plugin handler = t.slot? plugin handler) :
    s.configuration plugin handler = t.configuration plugin handler ∧
      s.enabled plugin handler = t.enabled plugin handler := by
  have common : s.slot plugin everyHandler = t.slot plugin everyHandler := by
    rw [slot_eq, common, slot_eq]
  have own : s.slot plugin handler = t.slot plugin handler := by
    rw [slot_eq, own, slot_eq]
  simp only [configuration, enabled, common, own, and_self]

theorem has_writeConfig (store : PluginStore) (target : Key) (config : Assoc Value)
    {written : String} (known : Assoc.has store plugin = true ∨ written ≠ plugin) :
    Assoc.has (store.writeConfig written target config) plugin = Assoc.has store plugin := by
  unfold writeConfig alterSlot Assoc.alter
  split
  · rfl
  · by_cases here : plugin = written
    · subst here
      have there := known.resolve_right fun other => other rfl
      rw [there, Assoc.has, Assoc.get?_put_self]
      rfl
    · rw [Assoc.has, Assoc.get?_put_of_ne _ _ here]
      rfl

theorem has_writeEach (store : PluginStore) (ws : List Write)
    (known : Assoc.has store plugin = true ∨ ∀ w ∈ ws, w.plugin ≠ plugin) :
    Assoc.has (store.writeEach ws) plugin = Assoc.has store plugin := by
  induction ws generalizing store with
  | nil => rfl
  | cons w ws ih =>
    have here := known.imp_right fun apart => apart w List.mem_cons_self
    have first := store.has_writeConfig w.target w.config here
    change Assoc.has ((store.writeConfig w.plugin w.target w.config).writeEach ws) plugin = _
    rw [ih _ (known.imp first.trans fun apart v hv => apart v (List.mem_cons_of_mem w hv)), first]

end PluginStore

theorem Plugin.Fits.writeEach_of_none {p : Plugin} {e e' : Entry} {ws : List Write}
    (fits : p.Fits e (.ok ()) ws e') (none : optionsIn e.metadata p.name = .ok [])
    (store : PluginStore) : store.writeEach ws = store := by
  have fitted := fits.comesTo default store
  have listed : optionsIn (p.listed e).metadata p.name = .ok [] := none
  rw [fit_run, listed] at fitted
  dsimp only [List.isEmpty_nil] at fitted
  rw [if_pos rfl] at fitted
  dsimp only at fitted
  rw [notify_run_eq] at fitted
  split at fitted
  · cases fitted
  · exact congrArg (fun answer => answer.2.store) fitted.symm

namespace Router

variable {r r' : Router} {ps : List Plugin} {e e' : Entry} {ws : List Write}

theorem FitsAll.slot?_of_none {plugin : String} (fits : FitsAll ps e ws e')
    (none : Plugin.optionsIn e.metadata plugin = .ok []) (store : PluginStore) (target : Key) :
    (store.writeEach ws).slot? plugin target = store.slot? plugin target := by
  induction fits generalizing store with
  | nil e => rfl
  | @cons p ps e e' e'' ws vs first rest ih =>
    rw [PluginStore.writeEach_append, ih ((first.eq_ok.1 plugin).trans none)]
    by_cases named : p.name = plugin
    · rw [first.writeEach_of_none (named ▸ none)]
    · rw [PluginStore.slot?_writeEach, Write.configsAt_eq_nil]
      · rfl
      · exact fun w hw here => absurd ((first.places w hw).1.symm.trans here) named

theorem FitsAll.optionsIn_eq (fits : FitsAll ps e ws e') (plugin : String) :
    Plugin.optionsIn e'.metadata plugin = Plugin.optionsIn e.metadata plugin := by
  induction fits with
  | nil e => rfl
  | cons first rest ih => exact ih.trans (first.eq_ok.1 plugin)

/-- A router that differs from another one in its chains and its store only. -/
def RestOf (r r' : Router) : Prop :=
  ∃ store handlers errorHandlers, r' = { r with store, handlers, errorHandlers }

/-- A registration that succeeds writes under the key of the new entry only, and for a plugin only
if the entry brings options for it. -/
theorem register_writes {codes : List String} {h : Handler} {error : Bool} {name : Value}
    {derived : Except Failure Value} {found : Except Failure Unit} {options : Assoc Value}
    (done : r.register codes h error name derived found options = (.ok (), r')) :
    ∃ e, r.Gains [e] r' ∧ r.RestOf r' ∧
      (∀ plugin target, (target = e.key → Plugin.optionsIn e.metadata plugin = .ok []) →
        r'.store.slot? plugin target = r.store.slot? plugin target) ∧
      ∀ plugin, (Assoc.has r.store plugin = true ∨ plugin ∉ r.plugins.map Plugin.name) →
        Assoc.has r'.store plugin = Assoc.has r.store plugin := by
  obtain ⟨-, -, e, ws, e', made, fits, rfl⟩ := register_eq_ok_iff.1 done
  obtain ⟨free, -⟩ := newEntry_fresh made
  have key : e'.key = e.key := fits.key_eq
  obtain ⟨hs, fs, rest⟩ := append_rest { r with store := r.store.writeEach ws }
    { e' with layers := r.plugins }
  refine ⟨{ e' with layers := r.plugins }, gains_append (key.symm ▸ free) _,
    ⟨r.store.writeEach ws, hs, fs, rest⟩, fun plugin target apart => ?_, fun plugin known => ?_⟩
  · rw [rest]
    by_cases here : target = e.key
    · have none : Plugin.optionsIn e'.metadata plugin = .ok [] := apart (here.trans key.symm)
      exact fits.slot?_of_none ((fits.optionsIn_eq plugin).symm.trans none) r.store target
    · exact fits.slot?_of_other r.store here
  · rw [rest]
    refine r.store.has_writeEach ws (known.imp_right fun detached w hw same => ?_)
    obtain ⟨⟨p, attached, named⟩, -⟩ := fits.places w hw
    exact detached (List.mem_map.2 ⟨p, attached, named.symm.trans same⟩)

end Router

/-- Whether an entry has options for a plugin, and the key that stands for all handlers. -/
def Entry.ConfiguresAll (e : Entry) (plugin : String) : Prop :=
  e.key = everyHandler ∧ Plugin.optionsIn e.metadata plugin ≠ .ok []

namespace Exec

variable {v w : World} {r : RouterRef} {plugin : String} {name : Value}

theorem pluggable_rest (rest : (w.router r).RestOf (v.router r)) (name : String) (call : Call) :
    (∃ s, pluggable r name call v = ⟨.done, .error s, v⟩ ∧
      pluggable r name call w = ⟨.done, .error s, w⟩) ∨
    (pluggable r name call v = ⟨.done, .ok (v.router r), v⟩ ∧
      pluggable r name call w = ⟨.done, .ok (w.router r), w⟩) := by
  obtain ⟨store, handlers, errorHandlers, rest⟩ := rest
  have expects : (v.router r).expect name call = (w.router r).expect name call := by
    rw [rest]
    rfl
  have tier : (v.router r).tier = (w.router r).tier := by rw [rest]
  have missing : (v.router r).missing name = (w.router r).missing name := by
    rw [rest]
    rfl
  unfold pluggable
  simp only [bind_apply, router_apply, Ended.andThen_ok, expects, tier, missing]
  cases (w.router r).expect name call with
  | error f => exact .inl ⟨.failed f, rfl, rfl⟩
  | ok _ =>
    cases (w.router r).tier with
    | plain => exact .inl ⟨_, rfl, rfl⟩
    | pluggable | application => exact .inr ⟨rfl, rfl⟩

theorem getConfig_congr (rest : (w.router r).RestOf (v.router r))
    (same : ∀ handler : Key, (handler = .null ∨ handler = name.key) →
      (v.router r).store.configuration plugin handler =
        (w.router r).store.configuration plugin handler) :
    (getConfig r (.text plugin) name v).result = (getConfig r (.text plugin) name w).result := by
  unfold getConfig pluginName
  obtain ⟨s, refused, refused'⟩ | ⟨reached, reached'⟩ :=
    pluggable_rest rest "get_config" (.several 2)
  · simp only [bind_apply, refused, refused', Ended.andThen_error]
  · obtain ⟨store, handlers, errorHandlers, rest⟩ := rest
    have plugins : (v.router r).plugin? plugin = (w.router r).plugin? plugin := by
      rw [rest]
      rfl
    have called : (v.router r).name = (w.router r).name := by rw [rest]
    simp only [bind_apply, reached, reached', Ended.andThen_ok, pure_apply, plugins, called]
    cases found : (w.router r).plugin? plugin with
    | none => rfl
    | some p =>
      obtain rfl : p.name = plugin := by simpa using List.find?_some found
      dsimp only
      cases name.isTruthy with
      | false => simp [bind_apply, same .null (.inl rfl)]
      | true =>
        cases hashable : Failure.keyOf name with
        | error f => rfl
        | ok key =>
          have own := same key (.inr (Failure.key_of_keyOf hashable).symm)
          simp [bind_apply, lift, own]

theorem isEnabled_congr (rest : (w.router r).RestOf (v.router r))
    (bucket : Assoc.has (v.router r).store plugin = Assoc.has (w.router r).store plugin)
    (same : (v.router r).store.enabled plugin name.key =
      (w.router r).store.enabled plugin name.key) :
    (isEnabled r name (.text plugin) v).result = (isEnabled r name (.text plugin) w).result := by
  unfold isEnabled bucketName pluginName
  obtain ⟨s, refused, refused'⟩ | ⟨reached, reached'⟩ :=
    pluggable_rest rest "is_plugin_enabled" (.several 2)
  · simp only [bind_apply, refused, refused', Ended.andThen_error]
  · obtain ⟨store, handlers, errorHandlers, rest⟩ := rest
    have expects : (v.router r).expect "_get_plugin_bucket" (.alone "str") =
        (w.router r).expect "_get_plugin_bucket" (.alone "str") := by
      rw [rest]
      rfl
    have called : (v.router r).name = (w.router r).name := by rw [rest]
    simp only [bind_apply, reached, reached', Ended.andThen_ok, expects, called]
    cases (w.router r).expect "_get_plugin_bucket" (.alone "str") with
    | error f => rfl
    | ok _ =>
      simp only [lift, pure_apply, Ended.andThen_ok, bind_apply, bucket]
      cases Assoc.has (w.router r).store plugin with
      | false => rfl
      | true =>
        cases hashable : Failure.keyOf name with
        | error f => rfl
        | ok key =>
          obtain rfl := Failure.key_of_keyOf hashable
          simp [bind_apply, same]

end Exec

theorem World.register_writes {w : World} {self : RouterRef} {h : Handler} {error : Bool}
    {name : Value} {derived : Option String} {options : Assoc Value} {e : Entry}
    (added : e ∈ ((w.register self h error name derived options).2.router self).gained
      (w.router self)) :
    let r' := (w.register self h error name derived options).2.router self
    (w.router self).Gains [e] r' ∧ (w.router self).RestOf r' ∧
      (∀ plugin target, (target = e.key → Plugin.optionsIn e.metadata plugin = .ok []) →
        r'.store.slot? plugin target = (w.router self).store.slot? plugin target) ∧
      ∀ plugin, (Assoc.has (w.router self).store plugin = true ∨
          plugin ∉ (w.router self).plugins.map Plugin.name) →
        Assoc.has r'.store plugin = Assoc.has (w.router self).store plugin := by
  obtain ⟨-, ⟨f, -, none⟩ | ⟨done, -⟩⟩ := w.register_gains self h error name derived options
  · rw [Router.gained_of_gains none (by simp)] at added
    cases added
  · obtain ⟨r', registered, answer⟩ := World.register_eq_ok done
    rw [answer] at added ⊢
    dsimp only at added ⊢
    rw [router_setRouter_self] at added ⊢
    obtain ⟨d, gains, writes⟩ := Router.register_writes registered
    rw [Router.gained_of_gains gains (by simp)] at added
    obtain rfl := List.mem_singleton.1 added
    exact ⟨gains, writes⟩

namespace Exec

/-- A registration call that adds an entry changes no other router, and leaves what each plugin has
for all handlers, and what it has for any other one and whether it is on for that, as they were. It
is different only with an entry that has the key for all handlers and brings options for the
plugin. -/
theorem register_spares_others (w : World) (r : RouterRef) (reg : Registration) :
    let v := (register r reg w).world
    (∀ q, q ≠ r → v.router q = w.router q) ∧
    ∀ e ∈ (v.router r).gained (w.router r),
      (∀ d ∈ (w.router r).entries, d.name.key ≠ e.key) ∧
      ∀ plugin, ¬ e.ConfiguresAll plugin →
        (v.router r).store.configuration plugin .null =
          (w.router r).store.configuration plugin .null ∧
        ∀ name : Value, name.key ≠ e.key →
          (getConfig r (.text plugin) name v).result =
            (getConfig r (.text plugin) name w).result ∧
          ((Assoc.has (w.router r).store plugin = true ∨
              plugin ∉ (w.router r).plugins.map Plugin.name) →
            (isEnabled r name (.text plugin) v).result =
              (isEnabled r name (.text plugin) w).result) := by
  dsimp only
  cases Registers.register r reg w with
  | aside same _ =>
    rw [World.router_congr same r]
    refine ⟨fun q _ => World.router_congr same q, fun e added => ?_⟩
    rw [Router.gained_of_gains (.of_chains fun _ => rfl) (by simp)] at added
    cases added
  | handed u h error given derived options same changed _ _ =>
    obtain ⟨others, -⟩ := u.register_gains r h error given derived options
    refine ⟨fun q apart => ?_, fun e added => ?_⟩
    · rw [World.router_congr changed q, others q apart, World.router_congr same q]
    rw [World.router_congr changed r, ← World.router_congr same r] at added
    obtain ⟨gains, rest, slots, buckets⟩ := World.register_writes added
    rw [← World.router_congr changed r, World.router_congr same r] at gains rest slots buckets
    refine ⟨fun d mem taken => gains.fresh e (by simp) ?_, fun plugin spares => ?_⟩
    · exact List.mem_map.2 ⟨d, mem, taken⟩
    have common := slots plugin everyHandler fun all => by
      by_contra some
      exact spares ⟨all.symm, some⟩
    have common' : (((register r reg w).world).router r).store.configuration plugin .null =
        (w.router r).store.configuration plugin .null := by
      rw [PluginStore.configuration_null, PluginStore.configuration_null, PluginStore.slot_eq,
        common, PluginStore.slot_eq]
    refine ⟨common', fun name other => ?_⟩
    have same := PluginStore.says_congr common (slots plugin name.key fun own => absurd own other)
    constructor
    · apply getConfig_congr rest
      rintro handler (rfl | rfl)
      · exact common'
      · exact same.1
    · exact fun known => isEnabled_congr rest (buckets plugin known) same.2

def countingReport : World :=
  (do let _ ← plug 0 (.text "counting") [] none
      register 0 (reporting [("counting_tag", .text "daily")]) : Exec Reply)
    (Small.world [Small.newRouter]) |>.world

def limiting (name : String) : Registration :=
  .mk (.action .callback (.function "f" [] .null))
    [("name", .text name), ("counting_limit", .int 5), ("counting_enabled", .bool false)] false

def askedForReport (w : World) : Except Stop Reply × Except Stop Reply :=
  ((getConfig 0 (.text "counting") (.text "report") w).result,
    (isEnabled 0 (.text "report") (.text "counting") w).result)

theorem askedForReport_countingReport :
    askedForReport countingReport =
      (.ok (.value (.record [("enabled", .bool true), ("tag", .text "daily")])),
        .ok (.value (.bool true))) := by with_unfolding_all rfl

theorem limiting_gains :
    let v := (register 0 (limiting "summary") countingReport).world
    ((v.router 0).gained (countingReport.router 0)).map Entry.key = [.text "summary"] := by
  decide +kernel

/-- A handler with options for the plugin leaves what `report` has. -/
theorem limiting_spares_report :
    askedForReport (register 0 (limiting "summary") countingReport).world =
      (.ok (.value (.record [("enabled", .bool true), ("tag", .text "daily")])),
        .ok (.value (.bool true))) := by
  obtain ⟨-, spares⟩ := register_spares_others countingReport 0 (limiting "summary")
  obtain ⟨e, one, key⟩ := List.map_eq_singleton_iff.1 limiting_gains
  obtain ⟨-, spares⟩ := spares e (one ▸ List.mem_singleton_self e)
  have apart : ¬ e.ConfiguresAll "counting" := fun all => by
    rw [Entry.ConfiguresAll, key] at all
    exact absurd all.1 (by decide)
  obtain ⟨-, same⟩ := spares "counting" apart
  obtain ⟨config, enabled⟩ := same (.text "report") (by rw [key]; decide)
  rw [askedForReport, config, enabled (.inl (by decide +kernel))]
  exact askedForReport_countingReport

theorem everyNamed_outcome :
    let e := register 0 (limiting everyName) countingReport
    (e.result.toOption.isSome, askedForReport e.world) =
      (true, .ok (.value (.record [("enabled", .bool false), ("limit", .int 5),
        ("tag", .text "daily")])), .ok (.value (.bool false))) := by with_unfolding_all rfl

/-- A handler under the name that stands for all handlers configures `report` as well. -/
theorem everyNamed_configures_report :
    let e := register 0 (limiting everyName) countingReport
    e.result.toOption.isSome = true ∧
      ((e.world.router 0).gained (countingReport.router 0)).map Entry.key = [everyHandler] ∧
      (e.world.router 0).store.configuration "counting" .null ≠
        (countingReport.router 0).store.configuration "counting" .null ∧
      (askedForReport e.world).1 ≠ (askedForReport countingReport).1 ∧
      (askedForReport e.world).2 ≠ (askedForReport countingReport).2 := by
  dsimp only
  obtain ⟨done, now⟩ := Prod.mk.inj everyNamed_outcome
  rw [now, askedForReport_countingReport]
  refine ⟨done, by decide +kernel, fun same => ?_, by simp, by simp⟩
  have fewer := congrArg List.length same
  revert fewer
  decide +kernel

end Exec
end HandlerChains
