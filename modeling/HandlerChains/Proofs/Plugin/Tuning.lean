import HandlerChains.Proofs.Plugin.Flags
import HandlerChains.Proofs.Plugin.Logging

/-!
# Histories of calls for a plugin

A plugin is configured, for all handlers or for some, and it is switched on and off while running.
Asking whether it is on looks at both, and at what was set while running first. So what it is
configured to be decides after every history in which nothing was switched on.
-/

namespace HandlerChains

/-- Where it can be asked whether a plugin is on, the router has no other way to tell. -/
theorem Exec.isEnabled_eq_ok {r : RouterRef} {name : Value} {plugin : String} {w : World}
    {on : Bool} (asked : (isEnabled r name (.text plugin) w).result = .ok (.value (.bool on))) :
    (w.router r).IsOwn "is_plugin_enabled" ∧ (w.router r).IsOwn "_get_plugin_bucket" ∧
      (w.router r).store.enabled plugin name.key = on := by
  obtain ⟨target, v, takes, returns⟩ := (Returns.of_result asked).of_bind
  obtain ⟨s, refused⟩ | taken :=
    pluggable_cases r "is_plugin_enabled" (.several 2) w
  · cases (congrArg Ended.result refused).symm.trans takes.result
  · obtain ⟨-, own⟩ := (pluggable_eq_ok_iff ..).1 taken
    obtain rfl := Except.ok.inj ((congrArg Ended.result taken).symm.trans takes.result)
    obtain rfl := (congrArg Ended.world taken).symm.trans takes.world
    obtain ⟨_, u, opens, returns⟩ := returns.of_bind
    obtain ⟨_, _, expects, names⟩ := opens.of_bind
    obtain ⟨bucket, rfl⟩ := expects.of_lift
    obtain ⟨_, _, named, finds⟩ := names.of_bind
    obtain ⟨rfl, rfl⟩ := named.of_pure
    refine ⟨own, (Router.expect_eq_ok_iff ..).1 bucket, ?_⟩
    split at finds
    · obtain ⟨rfl, rfl⟩ := finds.of_pure
      obtain ⟨key, _, hashes, ends⟩ := returns.of_bind
      obtain rfl := Failure.key_of_keyOf hashes.of_lift.1
      exact Value.bool.inj (Reply.value.inj ends.of_pure.1)
    · cases finds.result

/-- A call that changes whether a plugin is on, or what it is configured to do. -/
inductive Tuning where
  | configure (options : Assoc Value)
  | configureHandler (handler : Value) (options : Assoc Value)
  | setEnabled (handler enabled : Value)

namespace Tuning

def exec (r : RouterRef) (plugin : String) : Tuning → Exec Unit
  | configure options => Exec.configurePlugin r (.text plugin) options
  | configureHandler handler options => Exec.configureHandler r (.text plugin) handler options
  | setEnabled handler enabled => Exec.setEnabled r handler (.text plugin) enabled

/-- Whether a call switches the plugin on while running, for a handler or for all of them. -/
def SwitchesOn (handler : Key) : Tuning → Prop
  | setEnabled target enabled =>
    (target.key = handler ∨ target.key = everyHandler) ∧ enabled.isTruthy = true
  | _ => False

end Tuning

/-- What calls for a plugin make of a world, one after another, be they refused or not. -/
def World.tune (r : RouterRef) (plugin : String) (w : World) (ts : List Tuning) : World :=
  ts.foldl (fun w t => (t.exec r plugin w).world) w

/-- Whether a store has nothing that switches a plugin on for a handler and was set while running,
for this handler or for all of them. Configurations have every option once. -/
structure PluginStore.Unforced (store : PluginStore) (plugin : String) (handler : Key) : Prop where
  distinct : ∀ target, Assoc.Distinct (store.slot plugin target).config
  quiet : ∀ target, target = handler ∨ target = everyHandler →
    ∀ v, Assoc.get? (store.slot plugin target).data (.text enabledName) = some v →
      v.isTruthy = false

theorem Slot.enabled?_eq_none {s : Slot} : s.enabled? = none ↔
    Assoc.get? s.data (.text enabledName) = none ∧ Assoc.get? s.config enabledName = none := by
  rw [enabled?, Option.map_eq_none_iff, Option.or_eq_none_iff]

theorem Slot.enabled?_ne_true {s : Slot}
    (quiet : ∀ v, Assoc.get? s.data (.text enabledName) = some v → v.isTruthy = false)
    (off : ∀ v, Assoc.get? s.config enabledName = some v → v.isTruthy = false) :
    s.enabled? ≠ some true := by
  unfold enabled?
  cases set : Assoc.get? s.data (.text enabledName) with
  | some v => simp [quiet v set]
  | none =>
    cases configured : Assoc.get? s.config enabledName with
    | some v => simp [off v configured]
    | none => simp

namespace PluginStore.Unforced

variable {store other : PluginStore} {plugin : String} {handler : Key}

theorem congr (h : store.Unforced plugin handler)
    (same : ∀ target, other.slot plugin target = store.slot plugin target) :
    other.Unforced plugin handler where
  distinct target := by
    rw [same]
    exact h.distinct target
  quiet target here := by
    rw [same]
    exact h.quiet target here

theorem nil : Unforced [] plugin handler where
  distinct _ := Assoc.Distinct.nil
  quiet _ _ _ set := nomatch set

theorem openBucket (h : store.Unforced plugin handler) (opened : String) :
    (store.openBucket opened).Unforced plugin handler where
  distinct target := distinct_openBucket (h.distinct target) opened
  quiet target here := by
    rw [data_openBucket]
    exact h.quiet target here

theorem writeEach (h : store.Unforced plugin handler) (ws : List Write) :
    (store.writeEach ws).Unforced plugin handler where
  distinct target := by
    rw [slot_eq, slot?_writeEach]
    exact Slot.distinct_foldl_written _ (h.distinct target)
  quiet target here := by
    rw [data_writeEach]
    exact h.quiet target here

theorem writeData (h : store.Unforced plugin handler) {target : Key} {v : Value}
    (leaves : (target = handler ∨ target = everyHandler) → v.isTruthy = false) :
    (store.writeData plugin target (.text enabledName) v).Unforced plugin handler where
  distinct target' := by
    by_cases here : target' = target
    · subst here
      rw [PluginStore.writeData, slot_alterSlot_self]
      exact h.distinct target'
    · rw [PluginStore.writeData, slot_alterSlot_of_ne _ _ (.inr here)]
      exact h.distinct target'
  quiet target' meant u set := by
    by_cases here : target' = target
    · subst here
      rw [PluginStore.writeData, slot_alterSlot_self, Assoc.get?_put_self] at set
      cases set
      exact leaves meant
    · rw [PluginStore.writeData, slot_alterSlot_of_ne _ _ (.inr here)] at set
      exact h.quiet target' meant u set

/-- A plugin that is configured to be off, and was not switched on, is off. -/
theorem enabled_eq_false (h : store.Unforced plugin handler) (truthy : handler.isTruthy = true)
    {v : Value} (set : Assoc.get? (store.configuration plugin handler) enabledName = some v)
    (off : v.isTruthy = false) : store.enabled plugin handler = false := by
  have own := h.quiet handler (.inl rfl)
  have all := h.quiet everyHandler (.inr rfl)
  rw [configuration, if_pos truthy, Assoc.get?_merge (h.distinct handler)] at set
  have notOwn : (store.slot plugin handler).enabled? ≠ some true := by
    refine Slot.enabled?_ne_true own fun u configured => ?_
    rw [configured] at set
    cases set
    exact off
  unfold enabled
  cases told : (store.slot plugin handler).enabled? with
  | some b =>
    cases b with
    | true => exact absurd told notOwn
    | false => rfl
  | none =>
    -- the handler says nothing, so what was configured was configured for all handlers
    rw [(Slot.enabled?_eq_none.1 told).2, Option.none_or] at set
    have notAll : (store.slot plugin everyHandler).enabled? ≠ some true := by
      refine Slot.enabled?_ne_true all fun u configured => ?_
      cases configured.symm.trans set
      exact off
    cases told' : (store.slot plugin everyHandler).enabled? with
    | some b =>
      cases b with
      | true => exact absurd told' notAll
      | false => rfl
    | none => cases (Slot.enabled?_eq_none.1 told').2.symm.trans set

open Dispatch.Layer in
theorem settings_enabled (h : store.Unforced plugin handler) (truthy : handler.isTruthy = true)
    (on : store.enabled plugin handler = true) :
    (LogSettings.ofConfig (store.configuration plugin handler)).enabled = true := by
  unfold LogSettings.ofConfig
  dsimp only
  split
  · rfl
  · rfl
  · next v _ set =>
    by_contra off
    rw [h.enabled_eq_false truthy set (Bool.eq_false_iff.2 off)] at on
    cases on

end PluginStore.Unforced

section

open Exec

variable {r : RouterRef} {plugin : String} {handler : Key}

/-- A relation of worlds: what was not switched on in the first is not in the second. -/
def World.Leaves (r : RouterRef) (plugin : String) (handler : Key) (w : World) (_ : Course)
    (v : World) : Prop :=
  (w.router r).store.Unforced plugin handler → (v.router r).store.Unforced plugin handler

theorem World.leaves_composes : Composes (World.Leaves r plugin handler) where
  done _ := id
  append h h' := h' ∘ h

/-- No call switches a plugin on for a handler but one that says so. -/
theorem Tuning.exec_leaves {t : Tuning} (leaves : ¬ t.SwitchesOn handler) :
    Respects (World.Leaves r plugin handler) (t.exec r plugin) := by
  have hR : Composes (World.Leaves r plugin handler) := World.leaves_composes
  have writes : ∀ {on : Key → Prop} {step : PluginStore → Except Failure PluginStore} {p : Plugin},
      Writes p.name on step → Respects (World.Leaves r plugin handler) (changeStore r step) := by
    rintro on step p writes
    refine changeStore_respects hR fun w store made unforced => ?_
    obtain ⟨ws, -, rfl⟩ := writes.eq_ok made
    rw [World.router_setRouter_self]
    exact unforced.writeEach ws
  cases t with
  | configure options =>
    exact pluginAttribute_respects hR fun p _ => writes (p.configure_writes options)
  | configureHandler target options =>
    exact pluginAttribute_respects hR fun p _ => writes (p.configureHandler_writes target options)
  | setEnabled target enabled =>
    refine setEnabled_respects hR fun w unforced => ?_
    rw [World.router_setRouter_self]
    refine unforced.writeData fun here => ?_
    exact Bool.eq_false_iff.2 fun yes => leaves ⟨here, yes⟩

theorem World.tune_unforced {w : World} {ts : List Tuning}
    (leaves : ∀ t ∈ ts, ¬ t.SwitchesOn handler)
    (unforced : (w.router r).store.Unforced plugin handler) :
    ((w.tune r plugin ts).router r).store.Unforced plugin handler := by
  induction ts generalizing w with
  | nil => exact unforced
  | cons t ts ih =>
    have step : World.Leaves r plugin handler w _ (t.exec r plugin w).world :=
      Tuning.exec_leaves (leaves t List.mem_cons_self) w
    exact ih (fun t' mem => leaves t' (List.mem_cons_of_mem t mem)) (step unforced)

end

end HandlerChains
