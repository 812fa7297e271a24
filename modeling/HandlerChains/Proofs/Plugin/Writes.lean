import HandlerChains.Plugin.Configure

/-!
# What configuring writes

Whether options are accepted, and what they come to, has nothing to do with what a store holds. So
configuring a plugin is refused whatever the store, or it makes the same writes in every store, all
of them for that plugin. What a place holds after several writes depends on those at that place
only, so writes at different places can be made in any order.
-/

namespace HandlerChains

/-- A configuration that is written for a plugin under a key. -/
structure Write where
  plugin : String
  target : Key
  config : Assoc Value

namespace Write

def configsAt (plugin : String) (target : Key) (ws : List Write) : List (Assoc Value) :=
  (ws.filter fun w => w.plugin = plugin ∧ w.target = target).map config

@[simp] theorem configsAt_nil (plugin : String) (target : Key) :
    configsAt plugin target [] = [] := rfl

@[simp] theorem configsAt_cons (plugin : String) (target : Key) (w : Write) (ws : List Write) :
    configsAt plugin target (w :: ws) =
      if w.plugin = plugin ∧ w.target = target then w.config :: configsAt plugin target ws
      else configsAt plugin target ws := by
  simp only [configsAt, List.filter_cons, decide_eq_true_eq]
  split <;> rfl

@[simp] theorem configsAt_append (plugin : String) (target : Key) (ws vs : List Write) :
    configsAt plugin target (ws ++ vs) =
      configsAt plugin target ws ++ configsAt plugin target vs := by
  simp [configsAt]

theorem configsAt_eq_nil {plugin : String} {target : Key} {ws : List Write}
    (apart : ∀ w ∈ ws, w.plugin = plugin → w.target ≠ target) :
    configsAt plugin target ws = [] := by
  induction ws with
  | nil => rfl
  | cons w ws ih =>
    have elsewhere : ¬ (w.plugin = plugin ∧ w.target = target) :=
      fun here => apart w List.mem_cons_self here.1 here.2
    rw [configsAt_cons, if_neg elsewhere]
    exact ih fun v hv => apart v (List.mem_cons_of_mem w hv)

end Write

/-- What a place holds once a configuration was written there. -/
def Slot.written (held : Option Slot) (config : Assoc Value) : Option Slot :=
  if config.isEmpty then held
  else some { held.getD {} with config := Assoc.merge (held.getD {}).config config }

theorem Slot.data_foldl_written (configs : List (Assoc Value)) (held : Option Slot) :
    ((configs.foldl written held).getD {}).data = (held.getD {}).data := by
  induction configs generalizing held with
  | nil => rfl
  | cons config configs ih =>
    rw [List.foldl_cons, ih, written]
    split <;> rfl

namespace PluginStore

def slot? (store : PluginStore) (plugin : String) (target : Key) : Option Slot :=
  Assoc.get? ((Assoc.get? store plugin).getD []) target

theorem slot_eq (store : PluginStore) (plugin : String) (target : Key) :
    store.slot plugin target = (store.slot? plugin target).getD {} := rfl

theorem slot?_alterSlot (store : PluginStore) (plugin plugin' : String) (target target' : Key)
    (f : Slot → Slot) :
    (alterSlot store plugin target f).slot? plugin' target' =
      if plugin' = plugin ∧ target' = target then some (f (slot store plugin target))
      else store.slot? plugin' target' := by
  by_cases same : plugin' = plugin
  · subst same
    by_cases here : target' = target
    · subst here
      simp [slot?, slot, alterSlot, Assoc.alter]
    · simp [slot?, alterSlot, Assoc.alter, Assoc.get?_put_of_ne _ _ here, here]
  · simp [slot?, alterSlot, Assoc.alter, Assoc.get?_put_of_ne _ _ same, same]

theorem slot?_writeConfig (store : PluginStore) (plugin plugin' : String) (target target' : Key)
    (config : Assoc Value) :
    (writeConfig store plugin target config).slot? plugin' target' =
      if plugin' = plugin ∧ target' = target then
        Slot.written (store.slot? plugin' target') config
      else store.slot? plugin' target' := by
  unfold writeConfig Slot.written
  by_cases empty : config.isEmpty = true
  · simp [empty]
  · rw [if_neg empty, slot?_alterSlot]
    by_cases here : plugin' = plugin ∧ target' = target
    · simp [empty, here, slot_eq]
    · simp [here]

theorem slot?_openBucket (store : PluginStore) (plugin plugin' : String) (target : Key) :
    (openBucket store plugin).slot? plugin' target =
      if plugin' = plugin ∧ target = everyHandler then
        (store.slot? plugin' target).or (some { config := [(enabledName, .bool true)] })
      else store.slot? plugin' target := by
  have there : Assoc.has ((Assoc.get? store plugin).getD []) everyHandler =
      (store.slot? plugin everyHandler).isSome := rfl
  unfold openBucket
  rw [there]
  cases held : store.slot? plugin everyHandler with
  | none =>
    rw [Option.isSome_none, if_neg Bool.false_ne_true, slot?_alterSlot]
    by_cases here : plugin' = plugin ∧ target = everyHandler
    · simp [here, held]
    · simp [here]
  | some slot =>
    rw [Option.isSome_some, if_pos rfl]
    by_cases here : plugin' = plugin ∧ target = everyHandler
    · simp [here, held]
    · simp [here]

def writeEach (store : PluginStore) (ws : List Write) : PluginStore :=
  ws.foldl (fun store w => store.writeConfig w.plugin w.target w.config) store

@[simp] theorem writeEach_nil (store : PluginStore) : store.writeEach [] = store := rfl

theorem writeEach_append (store : PluginStore) (ws vs : List Write) :
    store.writeEach (ws ++ vs) = (store.writeEach ws).writeEach vs := List.foldl_append

/-- A place holds what was written there, and has nothing to do with writes elsewhere. -/
theorem slot?_writeEach (store : PluginStore) (ws : List Write) (plugin : String) (target : Key) :
    (store.writeEach ws).slot? plugin target =
      (Write.configsAt plugin target ws).foldl Slot.written (store.slot? plugin target) := by
  induction ws generalizing store with
  | nil => rfl
  | cons w ws ih =>
    change ((store.writeConfig w.plugin w.target w.config).writeEach ws).slot? plugin target = _
    rw [ih, slot?_writeConfig, Write.configsAt_cons]
    by_cases here : w.plugin = plugin ∧ w.target = target
    · simp [here]
    · have elsewhere : ¬ (plugin = w.plugin ∧ target = w.target) :=
        fun h => here ⟨h.1.symm, h.2.symm⟩
      simp [here, elsewhere]

theorem data_writeEach (store : PluginStore) (ws : List Write) (plugin : String) (target : Key) :
    ((store.writeEach ws).slot plugin target).data = (store.slot plugin target).data := by
  rw [slot_eq, slot?_writeEach, Slot.data_foldl_written]
  rfl

theorem data_openBucket (store : PluginStore) (opened plugin : String) (target : Key) :
    ((store.openBucket opened).slot plugin target).data = (store.slot plugin target).data := by
  rw [slot_eq, slot_eq, slot?_openBucket]
  split
  · cases store.slot? plugin target <;> rfl
  · rfl

def Same (s t : PluginStore) : Prop :=
  ∀ plugin target, s.slot? plugin target = t.slot? plugin target

namespace Same

variable {s t u : PluginStore}

theorem refl (s : PluginStore) : Same s s := fun _ _ => rfl

theorem symm (h : Same s t) : Same t s := fun plugin target => (h plugin target).symm

theorem trans (h : Same s t) (h' : Same t u) : Same s u :=
  fun plugin target => (h plugin target).trans (h' plugin target)

theorem slot_eq (h : Same s t) (plugin : String) (target : Key) :
    s.slot plugin target = t.slot plugin target := by
  rw [PluginStore.slot_eq, h]
  rfl

theorem configuration_eq (h : Same s t) (plugin : String) (handler : Key) :
    s.configuration plugin handler = t.configuration plugin handler := by
  simp only [configuration, h.slot_eq]

theorem enabled_eq (h : Same s t) (plugin : String) (handler : Key) :
    s.enabled plugin handler = t.enabled plugin handler := by
  simp only [enabled, h.slot_eq]

end Same

end PluginStore

/-- A step that is refused whatever the store holds, or makes the same writes in every store: for
one plugin, at some of its places. -/
def Writes (plugin : String) (on : Key → Prop)
    (step : PluginStore → Except Failure PluginStore) : Prop :=
  (∃ f, ∀ store, step store = .error f) ∨
    ∃ ws : List Write, (∀ w ∈ ws, w.plugin = plugin ∧ on w.target) ∧
      ∀ store, step store = .ok (store.writeEach ws)

namespace Writes

variable {α : Type} {plugin : String} {on : Key → Prop}

theorem eq_ok {step : PluginStore → Except Failure PluginStore} {store store' : PluginStore}
    (writes : Writes plugin on step) (made : step store = .ok store') :
    ∃ ws : List Write, (∀ w ∈ ws, w.plugin = plugin ∧ on w.target) ∧
      store' = store.writeEach ws := by
  obtain ⟨f, refused⟩ | ⟨ws, places, written⟩ := writes
  · cases (refused store).symm.trans made
  · exact ⟨ws, places, Except.ok.inj (made.symm.trans (written store))⟩

theorem ok : Writes plugin on .ok := .inr ⟨[], by simp, fun _ => rfl⟩

theorem error (f : Failure) : Writes plugin on fun _ => .error f := .inl ⟨f, fun _ => rfl⟩

theorem writeConfig {target : Key} (h : on target) (config : Assoc Value) :
    Writes plugin on fun store => .ok (store.writeConfig plugin target config) :=
  .inr ⟨[⟨plugin, target, config⟩], by simp [h], fun _ => rfl⟩

theorem ite {p : Prop} [Decidable p] {x y : PluginStore → Except Failure PluginStore}
    (hx : Writes plugin on x) (hy : Writes plugin on y) :
    Writes plugin on fun store => if p then x store else y store := by
  split
  · exact hx
  · exact hy

/-- What is worked out without a look at the store can come first. -/
theorem after (x : Except Failure α) {f : α → PluginStore → Except Failure PluginStore}
    (hf : ∀ a, x = .ok a → Writes plugin on (f a)) :
    Writes plugin on fun store => x >>= fun a => f a store := by
  cases x with
  | error e => exact error e
  | ok a => exact hf a rfl

theorem andThen {x y : PluginStore → Except Failure PluginStore} (hx : Writes plugin on x)
    (hy : Writes plugin on y) : Writes plugin on fun store => x store >>= y := by
  rcases hx with ⟨f, refused⟩ | ⟨ws, places, made⟩
  · refine .inl ⟨f, fun store => ?_⟩
    change x store >>= y = _
    rw [refused]
    rfl
  · rcases hy with ⟨f, refused⟩ | ⟨vs, places', made'⟩
    · refine .inl ⟨f, fun store => ?_⟩
      change x store >>= y = _
      rw [made]
      exact refused _
    · refine .inr ⟨ws ++ vs, ?_, fun store => ?_⟩
      · intro w hw
        exact (List.mem_append.1 hw).elim (places w) (places' w)
      · change x store >>= y = _
        rw [made, PluginStore.writeEach_append]
        exact made' _

theorem foldlM {f : PluginStore → α → Except Failure PluginStore}
    (hf : ∀ a, Writes plugin on fun store => f store a) (l : List α) :
    Writes plugin on fun store => l.foldlM f store := by
  induction l with
  | nil => exact ok
  | cons a l ih => exact andThen (hf a) ih

end Writes

namespace Plugin

variable (p : Plugin) {on : Key → Prop}

theorem write_writes {target : Value} (h : on target.key) (options : Assoc Value) :
    Writes p.name on fun store => p.write store target options := by
  refine .ite .ok (.after (Failure.keyOf target) fun key made => ?_)
  exact .writeConfig (Failure.key_of_keyOf made ▸ h) options

theorem configureTarget_writes (rules : Options.Rules) {target : Value} (h : on target.key)
    (options : Assoc Value) :
    Writes p.name on fun store => p.configureTarget rules store target options :=
  .after (checkOptions rules options) fun _ _ => p.write_writes h options

theorem configureHandler_writes (handler : Value) (options : Assoc Value) :
    Writes p.name (· = handler.key) fun store => p.configureHandler store handler options := by
  refine .ite (.error _) ?_
  split
  · exact .after (expandFlags options) fun given _ => p.configureTarget_writes _ (by rfl) given
  · exact .ite (.after (flagsOf _) fun flags _ => p.write_writes (by rfl) flags) (.error _)

theorem configure_writes (options : Assoc Value) :
    Writes p.name (fun _ => True) fun store => p.configure store options := by
  refine .ite (.error _) ?_
  split
  · next rules _ =>
    have listed : ∀ given target, Writes p.name (fun _ => True) fun store =>
        p.configureListed rules given store target := by
      intro given target
      refine .ite (.error _) (.after (expandFlags given) fun flags _ => ?_)
      exact p.configureTarget_writes rules trivial flags
    refine .after (expandFlags _) fun given _ => .after (hasComma _) fun several _ => ?_
    split
    · exact .foldlM (listed given) _
    · exact .error _
    · exact p.configureTarget_writes rules trivial given
  · exact .ite (.after (flagsOf _) fun flags _ => p.write_writes trivial flags) (.error _)

end Plugin
end HandlerChains
