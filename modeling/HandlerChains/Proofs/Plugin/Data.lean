import HandlerChains.Proofs.Plugin.Enabling
import Mathlib

/-!
# Data that are kept for a plugin

While it is running, a plugin keeps data for handlers, each under a key of its choice. That it was
switched on or off is kept among these data, under one key. Under all other keys data are apart from
what is said about the plugin: they are read as they were set last, whatever else was called for,
and the plugin is on for the same handlers as it would be without them.
-/

namespace HandlerChains

/-- A call for a plugin: it is configured or switched, or data are set for a handler. -/
inductive PluginCall where
  | tune (call : Tuning)
  | set (handler key v : Value)

namespace PluginCall

def exec (r : RouterRef) (plugin : String) : PluginCall → Exec Unit
  | tune call => call.exec r plugin
  | set handler key v => Exec.setData r handler (.text plugin) key v

/-- Whether a call sets data under another key than the one that a plugin is switched under. -/
def setsData : PluginCall → Bool
  | tune _ => false
  | set _ key _ => decide (key.key ≠ .text enabledName)

/-- What a call sets for a handler under a key. Values that are no keys name neither. -/
def value? (handler key : Key) : PluginCall → Option Value
  | tune _ => none
  | set h k v =>
    if h.key? = some handler ∧ k.key? = some key then some v else none

def latest? (plugin : String) (handler key : Key) (calls : List (String × PluginCall)) :
    Option Value :=
  (calls.filterMap fun call =>
    if call.1 = plugin then call.2.value? handler key else none).getLast?

end PluginCall

theorem Failure.keyOf_eq_ok_iff {v : Value} {key : Key} :
    Failure.keyOf v = .ok key ↔ v.key? = some key := by
  unfold keyOf
  cases v.key? <;> simp

/-- What calls for plugins of a router make of a world, one after another, be they refused or
not. -/
def World.afterCalls (r : RouterRef) (w : World) (calls : List (String × PluginCall)) : World :=
  calls.foldl (fun w call => (call.2.exec r call.1 w).world) w

theorem World.afterCalls_cons (r : RouterRef) (w : World) (call : String × PluginCall)
    (rest : List (String × PluginCall)) :
    w.afterCalls r (call :: rest) = (call.2.exec r call.1 w).world.afterCalls r rest := rfl

namespace PluginStore

variable {s t : PluginStore} {plugin : String}

theorem has_alterSlot (s : PluginStore) (altered plugin : String) (target : Key)
    (f : Slot → Slot) :
    Assoc.has (s.alterSlot altered target f) plugin =
      (decide (plugin = altered) || Assoc.has s plugin) := by
  unfold alterSlot Assoc.alter Assoc.has
  by_cases here : plugin = altered
  · subst here
    simp
  · simp [here, Assoc.get?_put_of_ne _ _ here]

theorem data?_writeData (s : PluginStore) (written plugin : String) (target handler k key : Key)
    (v : Value) :
    (s.writeData written target k v).data? plugin handler key =
      if plugin = written ∧ handler = target ∧ key = k then some v
      else s.data? plugin handler key := by
  unfold data? writeData
  by_cases here : plugin = written ∧ handler = target
  · obtain ⟨rfl, rfl⟩ := here
    rw [slot_alterSlot_self]
    by_cases same : key = k
    · subst same
      simp
    · simp [same, Assoc.get?_put_of_ne _ _ same]
  · rw [slot_alterSlot_of_ne _ _ (by tauto), if_neg (by tauto)]

theorem data?_writeEach (s : PluginStore) (ws : List Write) (plugin : String)
    (handler key : Key) :
    (s.writeEach ws).data? plugin handler key = s.data? plugin handler key := by
  rw [data?, data_writeEach, data?]

/-- Stores that have the same buckets, with the same configurations and with the same switches in
them. Other data may differ. -/
structure Agrees (s t : PluginStore) : Prop where
  has : ∀ plugin, Assoc.has s plugin = Assoc.has t plugin
  config : ∀ plugin target, (s.slot plugin target).config = (t.slot plugin target).config
  switch : ∀ plugin target, Assoc.get? (s.slot plugin target).data (.text enabledName) =
    Assoc.get? (t.slot plugin target).data (.text enabledName)

namespace Agrees

theorem refl (s : PluginStore) : s.Agrees s := ⟨fun _ => rfl, fun _ _ => rfl, fun _ _ => rfl⟩

theorem alterSlot (h : s.Agrees t) (plugin : String) (target : Key) {f g : Slot → Slot}
    (config : ∀ a b : Slot, a.config = b.config → (f a).config = (g b).config)
    (switch : ∀ a b : Slot,
      Assoc.get? a.data (.text enabledName) = Assoc.get? b.data (.text enabledName) →
      Assoc.get? (f a).data (.text enabledName) = Assoc.get? (g b).data (.text enabledName)) :
    (s.alterSlot plugin target f).Agrees (t.alterSlot plugin target g) where
  has other := by rw [has_alterSlot, has_alterSlot, h.has]
  config other k := by
    by_cases here : other = plugin ∧ k = target
    · obtain ⟨rfl, rfl⟩ := here
      rw [slot_alterSlot_self, slot_alterSlot_self]
      exact config _ _ (h.config other k)
    · rw [slot_alterSlot_of_ne _ _ (by tauto), slot_alterSlot_of_ne _ _ (by tauto)]
      exact h.config other k
  switch other k := by
    by_cases here : other = plugin ∧ k = target
    · obtain ⟨rfl, rfl⟩ := here
      rw [slot_alterSlot_self, slot_alterSlot_self]
      exact switch _ _ (h.switch other k)
    · rw [slot_alterSlot_of_ne _ _ (by tauto), slot_alterSlot_of_ne _ _ (by tauto)]
      exact h.switch other k

theorem writeEach (h : s.Agrees t) (ws : List Write) :
    (s.writeEach ws).Agrees (t.writeEach ws) := by
  induction ws generalizing s t with
  | nil => exact h
  | cons w ws ih =>
    have first : (s.writeConfig w.plugin w.target w.config).Agrees
        (t.writeConfig w.plugin w.target w.config) := by
      unfold writeConfig
      split
      · exact h
      · refine h.alterSlot w.plugin w.target (fun a b same => ?_) fun a b same => same
        simp only [same]
    exact ih first

theorem writeData (h : s.Agrees t) (plugin : String) (target key : Key) (v : Value) :
    (s.writeData plugin target key v).Agrees (t.writeData plugin target key v) := by
  refine h.alterSlot plugin target (fun a b same => same) fun a b same => ?_
  by_cases switches : Key.text enabledName = key
  · subst switches
    simp
  · simpa [Assoc.get?_put_of_ne _ _ switches] using same

theorem writeData_left (h : s.Agrees t) (known : Assoc.has s plugin = true) (target : Key)
    {key : Key} (ne : key ≠ .text enabledName) (v : Value) :
    (s.writeData plugin target key v).Agrees t where
  has other := by
    rw [PluginStore.writeData, has_alterSlot, ← h.has]
    by_cases here : other = plugin
    · simp [here, known]
    · simp [here]
  config other k := by
    rw [← h.config, PluginStore.writeData]
    by_cases here : other = plugin ∧ k = target
    · rw [here.1, here.2, slot_alterSlot_self]
    · rw [slot_alterSlot_of_ne _ _ (by tauto)]
  switch other k := by
    rw [← h.switch, PluginStore.writeData]
    by_cases here : other = plugin ∧ k = target
    · rw [here.1, here.2, slot_alterSlot_self, Assoc.get?_put_of_ne _ _ ne.symm]
    · rw [slot_alterSlot_of_ne _ _ (by tauto)]

theorem enabled_eq (h : s.Agrees t) (plugin : String) (handler : Key) :
    s.enabled plugin handler = t.enabled plugin handler := by
  simp only [enabled, Slot.enabled?, h.config, h.switch]

end Agrees
end PluginStore

namespace World

variable {r : RouterRef} {w v : World}

/-- Worlds in which a router is the same but for data that switch no plugin. -/
def Agrees (r : RouterRef) (w v : World) : Prop :=
  ∃ store, v.router r = { w.router r with store } ∧ (w.router r).store.Agrees store

namespace Agrees

theorem refl (r : RouterRef) (w : World) : w.Agrees r w := ⟨_, rfl, .refl _⟩

theorem store (h : Agrees r w v) : (w.router r).store.Agrees (v.router r).store := by
  obtain ⟨store, same, agrees⟩ := h
  rwa [same]

theorem rest (h : Agrees r w v) : (w.router r).RestOf (v.router r) := by
  obtain ⟨store, same, -⟩ := h
  exact ⟨store, _, _, same⟩

theorem setRouter (h : Agrees r w v) {s t : PluginStore} (agrees : s.Agrees t) :
    (w.setRouter r { w.router r with store := s }).Agrees r
      (v.setRouter r { v.router r with store := t }) := by
  obtain ⟨store, same, -⟩ := h
  refine ⟨t, ?_, ?_⟩
  · rw [router_setRouter_self, router_setRouter_self, same]
  · rwa [router_setRouter_self]

theorem setRouter_left (h : Agrees r w v) {s : PluginStore}
    (agrees : s.Agrees (v.router r).store) :
    (w.setRouter r { w.router r with store := s }).Agrees r v := by
  obtain ⟨store, same, -⟩ := h
  rw [same] at agrees
  refine ⟨store, ?_, ?_⟩
  · rw [router_setRouter_self, same]
  · rwa [router_setRouter_self]

end Agrees
end World

namespace Exec

variable {r : RouterRef} {v w : World}

/-- What is done in the bucket of a plugin is refused in worlds that agree, or it is done in
both. -/
theorem bucket_cases (h : w.Agrees r v) (name : String) (call : Call) (plugin : String)
    (f : String → Exec Unit) :
    let x := do f (← bucketName (← pluggable r name call) (.text plugin))
    (∃ s, x w = ⟨.done, .error s, w⟩ ∧ x v = ⟨.done, .error s, v⟩) ∨
      (Assoc.has (w.router r).store plugin = true ∧ x w = f plugin w ∧ x v = f plugin v) := by
  intro x
  simp only [x, bind_apply, bucketName, pluginName]
  obtain ⟨s, refused, refused'⟩ | ⟨reached, reached'⟩ := pluggable_rest h.rest name call
  · exact .inl ⟨s, by rw [refused']; rfl, by rw [refused]; rfl⟩
  · obtain ⟨store, same, agrees⟩ := h
    simp only [reached, reached', same, Ended.andThen_ok]
    have expects : ({ w.router r with store } : Router).expect "_get_plugin_bucket" (.alone "str") =
        (w.router r).expect "_get_plugin_bucket" (.alone "str") := rfl
    rw [expects]
    cases (w.router r).expect "_get_plugin_bucket" (.alone "str") with
    | error g => exact .inl ⟨.failed g, by simp [lift, bind_apply]⟩
    | ok _ =>
      simp only [lift, bind_apply, pure_apply, Ended.andThen_ok, ← agrees.has plugin]
      by_cases known : Assoc.has (w.router r).store plugin = true
      · exact .inr ⟨known, by simp [known]⟩
      · exact .inl ⟨.failed (.notAttached plugin (w.router r).name), by simp [known]⟩

theorem setEnabled_agrees (h : w.Agrees r v) (handler enabled : Value) (plugin : String) :
    (setEnabled r handler (.text plugin) enabled w).world.Agrees r
      (setEnabled r handler (.text plugin) enabled v).world := by
  obtain ⟨s, refused, refused'⟩ | ⟨-, opened, opened'⟩ :=
    bucket_cases h "set_plugin_enabled" (.several 3) plugin fun plugin => do
      let key ← lift (Failure.keyOf handler)
      changeStore r fun store =>
        return store.writeData plugin key (.text enabledName) (.bool enabled.isTruthy)
  · unfold setEnabled
    rw [refused, refused']
    exact h
  · unfold setEnabled
    rw [opened, opened', bind_apply, bind_apply]
    cases Failure.keyOf handler with
    | error g => exact h
    | ok key =>
      dsimp only [lift]
      rw [pure_apply, pure_apply, Ended.andThen_ok, Ended.andThen_ok, changeStore_apply,
        changeStore_apply]
      exact h.setRouter (h.store.writeData plugin key (.text enabledName) _)

/-- Data are set in neither of two worlds that agree, or in both. They are only set for a handler
under a key. -/
theorem setData_cases (h : w.Agrees r v) (handler key x : Value) (plugin : String) :
    (∃ s, setData r handler (.text plugin) key x w = ⟨.done, .error s, w⟩ ∧
      setData r handler (.text plugin) key x v = ⟨.done, .error s, v⟩) ∨
    (Assoc.has (w.router r).store plugin = true ∧ handler.key? = some handler.key ∧
      key.key? = some key.key ∧
      ∀ u ∈ [w, v], setData r handler (.text plugin) key x u =
        ⟨.done, .ok (), u.setRouter r { u.router r with
          store := (u.router r).store.writeData plugin handler.key key.key x }⟩) := by
  let sets (plugin : String) : Exec Unit := do
    let handler ← lift (Failure.keyOf handler)
    let key ← lift (Failure.keyOf key)
    changeStore r fun store => return store.writeData plugin handler key x
  obtain ⟨s, refused, refused'⟩ | ⟨known, opened, opened'⟩ :=
    bucket_cases h "set_runtime_data" (.several 4) plugin sets
  · exact .inl ⟨s, refused, refused'⟩
  · cases named : Failure.keyOf handler with
    | error g =>
      have fails : ∀ u, sets plugin u = ⟨.done, .error (.failed g), u⟩ := by
        intro u
        simp only [sets, named]
        rfl
      exact .inl ⟨.failed g, opened.trans (fails w), opened'.trans (fails v)⟩
    | ok k =>
      cases keyed : Failure.keyOf key with
      | error g =>
        have fails : ∀ u, sets plugin u = ⟨.done, .error (.failed g), u⟩ := by
          intro u
          simp only [sets, named, keyed]
          rfl
        exact .inl ⟨.failed g, opened.trans (fails w), opened'.trans (fails v)⟩
      | ok k' =>
        obtain rfl := Failure.key_of_keyOf named
        obtain rfl := Failure.key_of_keyOf keyed
        have writes : ∀ u, sets plugin u = ⟨.done, .ok (), u.setRouter r { u.router r with
            store := (u.router r).store.writeData plugin handler.key key.key x }⟩ := by
          intro u
          simp only [sets, named, keyed]
          exact changeStore_apply r u fun store =>
            .ok (store.writeData plugin handler.key key.key x)
        refine .inr ⟨known, Failure.keyOf_eq_ok_iff.1 named, Failure.keyOf_eq_ok_iff.1 keyed, ?_⟩
        simp only [List.mem_cons, List.not_mem_nil, or_false]
        rintro u (rfl | rfl)
        · exact opened.trans (writes u)
        · exact opened'.trans (writes u)

end Exec

namespace PluginCall

open Exec

variable {r : RouterRef} {v w : World} {plugin : String}

/-- Every call keeps worlds in agreement. -/
theorem exec_agrees (call : PluginCall) (h : w.Agrees r v) :
    (call.exec r plugin w).world.Agrees r (call.exec r plugin v).world := by
  have configures : ∀ {f : Plugin → PluginStore → Except Failure PluginStore} {on : Key → Prop},
      (∀ p, Writes p.name on (f p)) →
      ((pluginAttribute r (.text plugin) >>= fun p => changeStore r (f p)) w).world.Agrees r
        ((pluginAttribute r (.text plugin) >>= fun p => changeStore r (f p)) v).world := by
    intro f on writes
    have found : (v.router r).pluginAttribute plugin =
        (w.router r).pluginAttribute plugin := by
      obtain ⟨store, same, -⟩ := h
      rw [same]
      rfl
    rw [pluginAttribute_changeStore, pluginAttribute_changeStore, found]
    cases (w.router r).pluginAttribute plugin with
    | error g => exact h
    | ok p =>
      simp only [bind, Except.bind]
      obtain ⟨g, refused⟩ | ⟨ws, -, written⟩ := writes p
      · rw [refused, refused]
        exact h
      · rw [written, written]
        exact h.setRouter (h.store.writeEach ws)
  cases call with
  | tune call =>
    cases call with
    | configure options => exact configures fun p => p.configure_writes options
    | configureHandler handler options =>
      exact configures fun p => p.configureHandler_writes handler options
    | setEnabled handler enabled => exact setEnabled_agrees h handler enabled plugin
  | set handler key x =>
    obtain ⟨s, refused, refused'⟩ | ⟨-, -, -, writes⟩ := setData_cases h handler key x plugin
    · rw [exec, refused, refused']
      exact h
    · rw [exec, writes w (by simp), writes v (by simp)]
      exact h.setRouter (h.store.writeData plugin handler.key key.key x)

/-- A call that sets data keeps a world in agreement with one in which it is not made. -/
theorem exec_agrees_left {call : PluginCall} (data : call.setsData = true) (h : w.Agrees r v) :
    (call.exec r plugin w).world.Agrees r v := by
  cases call with
  | tune call => cases data
  | set handler key x =>
    have ne : key.key ≠ .text enabledName := by simpa [setsData] using data
    obtain ⟨s, refused, -⟩ | ⟨known, -, -, writes⟩ := setData_cases h handler key x plugin
    · rw [exec, refused]
      exact h
    · rw [exec, writes w (by simp)]
      exact h.setRouter_left (h.store.writeData_left known handler.key ne x)

end PluginCall

theorem World.afterCalls_agrees {r : RouterRef} {w v : World} (h : w.Agrees r v)
    (calls : List (String × PluginCall)) :
    (w.afterCalls r calls).Agrees r
      (v.afterCalls r (calls.filter fun call => !call.2.setsData)) := by
  induction calls generalizing w v with
  | nil => exact h
  | cons call rest ih =>
    cases data : call.2.setsData with
    | true =>
      rw [List.filter_cons_of_neg (by simp [data])]
      exact ih (call.2.exec_agrees_left data h)
    | false =>
      rw [List.filter_cons_of_pos (by simp [data])]
      exact ih (call.2.exec_agrees h)

/-- A router that keeps data for a plugin: it has a bucket for it, and leaves to itself what is
done there. -/
structure World.KeepsData (w : World) (r : RouterRef) (plugin : String) : Prop where
  tier : (w.router r).tier ≠ .plain
  own : ∀ name ∈ ["is_plugin_enabled", "set_runtime_data", "get_runtime_data",
    "_get_plugin_bucket"], (w.router r).IsOwn name
  known : Assoc.has (w.router r).store plugin = true

namespace World.KeepsData

open Exec

variable {r : RouterRef} {w : World} {plugin : String} {handler key : Value}

theorem bucket (keeps : w.KeepsData r plugin) :
    bucketName (w.router r) (.text plugin) w = ⟨.done, .ok plugin, w⟩ := by
  have own : (w.router r).IsOwn "_get_plugin_bucket" := keeps.own _ (by simp)
  unfold bucketName pluginName
  simp [bind_apply, lift, (Router.expect_eq_ok_iff ..).2 own, keeps.known]

theorem setData_ok (keeps : w.KeepsData r plugin) (named : handler.key? = some handler.key)
    (keyed : key.key? = some key.key) (x : Value) :
    (setData r handler (.text plugin) key x w).result = .ok () := by
  have own : (w.router r).IsOwn "set_runtime_data" := keeps.own _ (by simp)
  unfold setData
  rw [bind_apply, (pluggable_eq_ok_iff ..).2 ⟨keeps.tier, own⟩, Ended.andThen_ok, bind_apply,
    keeps.bucket, Ended.andThen_ok, Failure.keyOf_eq_ok_iff.2 named,
    Failure.keyOf_eq_ok_iff.2 keyed]
  rfl

theorem getData_eq (keeps : w.KeepsData r plugin) (named : handler.key? = some handler.key)
    (keyed : key.key? = some key.key) (default : Value) :
    getData r handler (.text plugin) key default w =
      ⟨.done, .ok (.value (((w.router r).store.data? plugin handler.key key.key).getD default)),
        w⟩ := by
  have own : (w.router r).IsOwn "get_runtime_data" := keeps.own _ (by simp)
  unfold getData
  simp [bind_apply, (pluggable_eq_ok_iff ..).2 ⟨keeps.tier, own⟩, keeps.bucket, lift,
    Failure.keyOf_eq_ok_iff.2 named, Failure.keyOf_eq_ok_iff.2 keyed]

theorem isEnabled_eq (keeps : w.KeepsData r plugin) (named : handler.key? = some handler.key) :
    isEnabled r handler (.text plugin) w =
      ⟨.done, .ok (.value (.bool ((w.router r).store.enabled plugin handler.key))), w⟩ :=
  isEnabled_of_hashable keeps.tier (keeps.own _ (by simp)) (keeps.own _ (by simp)) keeps.known
    (Failure.keyOf_eq_ok_iff.2 named)

theorem setRouter (keeps : w.KeepsData r plugin) {store : PluginStore}
    (known : Assoc.has store plugin = true) :
    (w.setRouter r { w.router r with store }).KeepsData r plugin where
  tier := by
    rw [router_setRouter_self]
    exact keeps.tier
  own name mem := by
    rw [router_setRouter_self]
    exact keeps.own name mem
  known := by rwa [router_setRouter_self]

end World.KeepsData

theorem Tuning.Changes.data? {target : Router} {named plugin : String} {t : Tuning}
    {store : PluginStore} (changes : t.Changes target named store) (handler : Key) {key : Key}
    (ne : key ≠ .text enabledName) :
    store.data? plugin handler key = target.store.data? plugin handler key := by
  have writes : ∀ {on : Key → Prop} {p : Plugin} {step : PluginStore → Except Failure PluginStore},
      Writes p.name on step → step target.store = .ok store →
      store.data? plugin handler key = target.store.data? plugin handler key := by
    intro on p step writes made
    obtain ⟨ws, -, rfl⟩ := writes.eq_ok made
    rw [PluginStore.data?_writeEach]
  cases changes with
  | configure found made => exact writes (Plugin.configure_writes _ _) made
  | configureHandler found made => exact writes (Plugin.configureHandler_writes _ _ _) made
  | setEnabled => rw [PluginStore.data?_writeData, if_neg fun h => ne h.2.2]

namespace World.KeepsData

open Exec

variable {r : RouterRef} {w : World} {plugin : String}

/-- One call: data are kept on, and under every key but that of the switch they are as the call set
them, or else as they were. -/
theorem exec (keeps : w.KeepsData r plugin) (call : String × PluginCall) :
    let e := call.2.exec r call.1 w
    e.world.KeepsData r plugin ∧ ∀ (handler key : Key), key ≠ .text enabledName →
      (e.world.router r).store.data? plugin handler key =
        (PluginCall.latest? plugin handler key [call]).or
          ((w.router r).store.data? plugin handler key) := by
  obtain ⟨name, call⟩ := call
  cases call with
  | tune t =>
    have silent : ∀ handler key,
        PluginCall.latest? plugin handler key [(name, .tune t)] = none := by
      intro handler key
      simp [PluginCall.latest?, PluginCall.value?]
    obtain ⟨s, refused⟩ | ⟨store, changes, done⟩ := t.exec_cases r name w
    · simp only [PluginCall.exec, refused]
      exact ⟨keeps, fun handler key _ => by rw [silent, Option.none_or]⟩
    · simp only [PluginCall.exec, done, silent, Option.none_or, router_setRouter_self]
      exact ⟨keeps.setRouter (changes.has keeps.known),
        fun handler key ne => changes.data? handler ne⟩
  | set h k x =>
    obtain ⟨s, refused, -⟩ | ⟨known, named, keyed, writes⟩ :=
      setData_cases (World.Agrees.refl r w) h k x name
    · have silent : ∀ handler key,
          PluginCall.latest? plugin handler key [(name, .set h k x)] = none := by
        intro handler key
        -- for this plugin data are only refused where the handler or the key is no key
        have nothing : name = plugin → ¬ (h.key? = some handler ∧ k.key? = some key) := by
          rintro rfl ⟨named, keyed⟩
          have done : (setData r h (.text name) k x w).result = .ok () :=
            keeps.setData_ok (by simp [Value.key, named]) (by simp [Value.key, keyed]) x
          rw [refused] at done
          cases done
        by_cases mine : name = plugin
        · simp [PluginCall.latest?, PluginCall.value?, mine, if_neg (nothing mine)]
        · simp [PluginCall.latest?, mine]
      simp only [PluginCall.exec, refused]
      exact ⟨keeps, fun handler key _ => by rw [silent, Option.none_or]⟩
    · simp only [PluginCall.exec, writes w (by simp), router_setRouter_self]
      refine ⟨keeps.setRouter ?_, fun handler key _ => ?_⟩
      · rw [PluginStore.writeData, PluginStore.has_alterSlot, keeps.known, Bool.or_true]
      · rw [PluginStore.data?_writeData]
        by_cases mine : name = plugin
        · subst mine
          by_cases here : handler = h.key ∧ key = k.key
          · obtain ⟨rfl, rfl⟩ := here
            simp [PluginCall.latest?, PluginCall.value?, named, keyed]
          · rw [if_neg (by tauto)]
            have elsewhere : ¬ (h.key = handler ∧ k.key = key) := by tauto
            simp [PluginCall.latest?, PluginCall.value?, named, keyed, elsewhere]
        · rw [if_neg fun h => mine h.1.symm]
          simp [PluginCall.latest?, mine]

theorem afterCalls (keeps : w.KeepsData r plugin) (calls : List (String × PluginCall)) :
    (w.afterCalls r calls).KeepsData r plugin ∧ ∀ (handler key : Key), key ≠ .text enabledName →
      ((w.afterCalls r calls).router r).store.data? plugin handler key =
        (PluginCall.latest? plugin handler key calls).or
          ((w.router r).store.data? plugin handler key) := by
  induction calls generalizing w with
  | nil => exact ⟨keeps, fun _ _ _ => rfl⟩
  | cons call rest ih =>
    obtain ⟨stays, first⟩ := keeps.exec call
    obtain ⟨ends, later⟩ := ih stays
    refine ⟨ends, fun handler key ne => ?_⟩
    have split : PluginCall.latest? plugin handler key (call :: rest) =
        (PluginCall.latest? plugin handler key rest).or
          (PluginCall.latest? plugin handler key [call]) := by
      rw [PluginCall.latest?, ← List.singleton_append, List.filterMap_append,
        List.getLast?_append]
      rfl
    rw [afterCalls_cons, later handler key ne, first handler key ne, split, Option.or_assoc]

end World.KeepsData

theorem Exec.plug_data? {w : World} {r : RouterRef} {p : Plugin} {plugin : Value}
    {config options : Assoc Value} {logger : Option Logger} {reply : Reply}
    (chosen : (w.router r).chosen w.pluginClasses plugin config logger = .ok (p, options))
    (fresh : Assoc.has (w.router r).store p.name = false)
    (done : (Exec.plug r plugin config logger w).result = .ok reply) (handler key : Key) :
    ((Exec.plug r plugin config logger w).world.router r).store.data? p.name handler key =
      none := by
  obtain ⟨-, -, r', plugged, changed⟩ := plug_eq_ok done
  obtain ⟨q, _, cs, choice, -, -, attaches⟩ := Router.plug_eq_ok_iff.1 plugged
  cases chosen.symm.trans choice
  obtain ⟨-, ws, vs, hs, fs, -, -, rfl⟩ := Router.attach_eq_ok_iff.1 attaches
  have none : Assoc.get? (w.router r).store p.name = none := by simpa [Assoc.has] using fresh
  rw [changed, World.router_setRouter_self]
  change ((((w.router r).store.openBucket p.name).writeEach cs).writeEach
    (ws ++ vs)).data? _ _ _ = _
  rw [PluginStore.data?_writeEach, PluginStore.data?_writeEach, PluginStore.data?,
    PluginStore.data_openBucket, PluginStore.slot, none]
  rfl

/-- Data of a plugin and what is said about it are apart, after any calls that configure plugins of
its router, switch them or set data for them, accepted or not. Without the calls that set data under
other keys than that of the switch, the plugin would be on for the same handlers. What is read for a
handler under such a key was set last for this handler under this key, or else was there before the
calls; a plugin that was attached anew has nothing there, so that then the default is read. -/
theorem Exec.data_apart {w : World} {r : RouterRef} {plugin : String}
    {calls : List (String × PluginCall)} (keeps : w.KeepsData r plugin) :
    (∀ name : Value, name.key? = some name.key → ∃ on : Bool,
      (isEnabled r name (.text plugin) (w.afterCalls r calls)).result = .ok (.value (.bool on)) ∧
      (isEnabled r name (.text plugin)
        (w.afterCalls r (calls.filter fun call => !call.2.setsData))).result =
          .ok (.value (.bool on))) ∧
    (∀ name key default : Value, name.key? = some name.key → key.key? = some key.key →
      key.key ≠ .text enabledName →
      let held := (PluginCall.latest? plugin name.key key.key calls).or
        ((w.router r).store.data? plugin name.key key.key)
      getData r name (.text plugin) key default (w.afterCalls r calls) =
        ⟨.done, .ok (.value (held.getD default)), w.afterCalls r calls⟩) ∧
    ∀ (u : World) (p : Plugin) (name : Value) (config options : Assoc Value)
      (logger : Option Logger) (reply : Reply),
      (u.router r).chosen u.pluginClasses name config logger = .ok (p, options) →
      Assoc.has (u.router r).store p.name = false →
      (plug r name config logger u).result = .ok reply →
      ∀ handler key, ((plug r name config logger u).world.router r).store.data? p.name handler key =
        none := by
  obtain ⟨stays, data⟩ := keeps.afterCalls calls
  refine ⟨fun name named => ?_, fun name key default named keyed ne => ?_,
    fun u p name config options logger reply chosen fresh done => plug_data? chosen fresh done⟩
  · obtain ⟨keeps', -⟩ := keeps.afterCalls (calls.filter fun call => !call.2.setsData)
    have agrees := World.afterCalls_agrees (World.Agrees.refl r w) calls
    refine ⟨_, congrArg Ended.result (stays.isEnabled_eq named), ?_⟩
    rw [agrees.store.enabled_eq]
    exact congrArg Ended.result (keeps'.isEnabled_eq named)
  · rw [stays.getData_eq named keyed, data name.key key.key ne]

/-- Calls that count how often two handlers were seen, and switch logging off for one of them
between. The last one names no handler. -/
def seenCalls : List (String × PluginCall) :=
  [("logging", .set (.text "a") (.text "seen") (.int 1)),
    ("logging", .tune (.setEnabled (.text "a") (.bool false))),
    ("logging", .set (.text "a") (.text "seen") (.int 2)),
    ("logging", .set (.text "b") (.text "on") (.bool false)),
    ("logging", .set (.list []) (.text "seen") (.int 3))]

/-- The handler `a` was seen twice and is switched off, with or without the counts; `b` was not
seen, and stays on. -/
theorem seenCalls_apart :
    let w := loggingOnly.afterCalls 0 seenCalls
    loggingOnly.KeepsData 0 "logging" ∧
      (∀ row ∈ [("a", false), ("b", true)],
        (Exec.isEnabled 0 (.text row.1) (.text "logging") w).result =
          .ok (.value (.bool row.2))) ∧
      ∀ row ∈ [("a", Value.int 2), ("b", .int 0)],
        (Exec.getData 0 (.text row.1) (.text "logging") (.text "seen") (.int 0) w).result =
          .ok (.value row.2) := by
  intro w
  have keeps : loggingOnly.KeepsData 0 "logging" := by
    refine ⟨?_, ?_, ?_⟩ <;> rw [router_loggingOnly]
    · decide
    · simp only [List.mem_cons, List.not_mem_nil, or_false]
      rintro name (rfl | rfl | rfl | rfl) <;> rfl
    · rfl
  obtain ⟨switched, read, -⟩ := @Exec.data_apart _ _ _ seenCalls keeps
  refine ⟨keeps, fun row mem => ?_, fun row mem => ?_⟩
  · obtain ⟨on, here, without⟩ := switched (.text row.1) rfl
    rw [here, ← without]
    simp only [List.mem_cons, List.not_mem_nil, or_false] at mem
    obtain rfl | rfl := mem <;> cbv
  · rw [read (.text row.1) (.text "seen") (.int 0) rfl rfl (by decide)]
    simp only [List.mem_cons, List.not_mem_nil, or_false] at mem
    obtain rfl | rfl := mem <;> cbv

/-- The key of the switch is an exception. What is set under it as data switches logging off, and
after logging was switched off that is read as data, although none were set. -/
theorem loggingOnly_switched_by_data :
    (Exec.isEnabled 0 (.text "x") (.text "logging") (loggingOnly.afterCalls 0
      [("logging", .set (.text "x") (.text "enabled") (.bool false))])).result =
        .ok (.value (.bool false)) ∧
    (Exec.isEnabled 0 (.text "x") (.text "logging") loggingOnly).result =
      .ok (.value (.bool true)) ∧
    (Exec.getData 0 (.text "x") (.text "logging") (.text "enabled") (.text "none")
      (loggingOnly.afterCalls 0
        [("logging", .tune (.setEnabled (.text "x") (.bool false)))])).result =
        .ok (.value (.bool false)) := by
  refine ⟨?_, ?_, ?_⟩ <;> cbv

end HandlerChains
