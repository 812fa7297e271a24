import HandlerChains.Proofs.Router.FailedRegistration

/-!
# What a failed attempt to attach a plugin leaves

An attempt fails before anything has changed, or when the plugin refuses its own options, or when it
refuses an entry or what the entry has for it. In the second case the plugin keeps the bucket that
was opened for it. In the last one it stays attached, although no call goes through it yet. Other
plugins keep what they have, and the calls of all entries are what they were.
-/

namespace HandlerChains

/-- An entry with no more than what its calls go by. -/
def Entry.asCalled (e : Entry) : Entry := { e with plugins := [], metadata := [], told := [] }

namespace Router

variable {r r' : Router} {p : Plugin}

/-- Fitting one entry makes the same writes in every store, all of them for the plugin, and the
calls of the entry stay what they are. -/
theorem exists_fit (r : Router) (p : Plugin) (e : Entry) :
    ∃ result ws e', (∀ es, ((r.withEntries es).fit p).ComesTo e result ws e') ∧
      e'.asCalled = e.asCalled ∧ ∀ w ∈ ws, w.plugin = p.name := by
  have expects : ∀ es, (r.withEntries es).expect "_apply_plugin" (.several 2) =
      r.expect "_apply_plugin" (.several 2) := fun _ => rfl
  unfold fit
  simp only [expects]
  cases r.expect "_apply_plugin" (.several 2) with
  | error f =>
    exact ⟨.error f, [], e, fun _ => (Fitting.ComesTo.lift _ e).bind_error, rfl, by simp⟩
  | ok _ =>
    obtain ⟨result, ws, e', fits⟩ := p.exists_fits e
    refine ⟨result, [] ++ ws, e', fun _ => (Fitting.ComesTo.lift _ e).bind (fits.comesTo _), ?_, ?_⟩
    · obtain ⟨metadata, told, rfl⟩ := fits.revised
      rfl
    · intro w hw
      exact (fits.places w hw).1

theorem exists_fitEach (r : Router) (p : Plugin) (es : List Entry) :
    ∃ result ws es',
      (∀ done store, r.fitEach p done es store = (result, store.writeEach ws, es')) ∧
      es'.map Entry.asCalled = es.map Entry.asCalled ∧ ∀ w ∈ ws, w.plugin = p.name := by
  induction es with
  | nil => exact ⟨.ok (), [], [], fun _ _ => rfl, rfl, by simp⟩
  | cons e es ih =>
    obtain ⟨result, ws, e', fits, same, places⟩ := r.exists_fit p e
    cases result with
    | error f =>
      refine ⟨.error f, ws, e' :: es, fun done store => ?_, by simp [same], places⟩
      unfold fitEach
      rw [fits]
    | ok _ =>
      obtain ⟨result, vs, es', each, same', places'⟩ := ih
      refine ⟨result, ws ++ vs, e' :: es', fun done store => ?_, by simp [same, same'], ?_⟩
      · unfold fitEach
        rw [fits]
        dsimp only
        rw [each, PluginStore.writeEach_append]
      · intro w hw
        exact (List.mem_append.1 hw).elim (places w) (places' w)

/-- Where a plugin does not fit all entries, calls are what they were, and at most the plugin's own
part of the store is another one. -/
theorem fitEntries_failed {f : Failure} (failed : (r.fitEntries p).1 = .error f) :
    ∃ ws handlers errorHandlers,
      (r.fitEntries p).2 = { r with store := r.store.writeEach ws, handlers, errorHandlers } ∧
      handlers.map Entry.asCalled = r.handlers.map Entry.asCalled ∧
      errorHandlers.map Entry.asCalled = r.errorHandlers.map Entry.asCalled ∧
      ∀ w ∈ ws, w.plugin = p.name := by
  obtain ⟨result, ws, es, each, same, places⟩ := r.exists_fitEach p r.entries
  have left : (es.take r.handlers.length).map Entry.asCalled = r.handlers.map Entry.asCalled := by
    rw [List.map_take, same, ← List.map_take]
    simp [entries]
  have right : (es.drop r.handlers.length).map Entry.asCalled =
      r.errorHandlers.map Entry.asCalled := by
    rw [List.map_drop, same, ← List.map_drop]
    simp [entries]
  unfold fitEntries at failed ⊢
  cases list : r.expect "_all_entries" .bare with
  | error g => exact ⟨[], r.handlers, r.errorHandlers, rfl, rfl, rfl, by simp⟩
  | ok _ =>
    rw [list] at failed
    dsimp only at failed ⊢
    rw [each] at failed ⊢
    refine ⟨ws, _, _, ?_, left, right, places⟩
    cases result with
    | error g => rfl
    | ok _ =>
      dsimp only at failed ⊢
      cases rebuilds :
        ({ r with store := r.store.writeEach ws }.withEntries es).expectRebuilding with
      | error g => rfl
      | ok _ =>
        rw [rebuilds] at failed
        cases failed

/-- How an attempt to attach a plugin that fails leaves a router. -/
inductive LeftByPlug (r : Router) (chosen : Except Failure (Plugin × Assoc Value)) :
    Router → Prop
  | untouched : LeftByPlug r chosen r
  | unconfigured {p : Plugin} {options : Assoc Value} {f : Failure}
      (choice : chosen = .ok (p, options))
      (refused : p.configure (r.store.openBucket p.name) options = .error f) :
      LeftByPlug r chosen { r with store := r.store.openBucket p.name }
  | unfitted {p : Plugin} {options : Assoc Value} {store : PluginStore}
      {handlers errorHandlers : List Entry} {ws : List Write} (choice : chosen = .ok (p, options))
      (accepted : p.configure (r.store.openBucket p.name) options = .ok store)
      (calls : handlers.map Entry.asCalled = r.handlers.map Entry.asCalled)
      (errorCalls : errorHandlers.map Entry.asCalled = r.errorHandlers.map Entry.asCalled)
      (places : ∀ w ∈ ws, w.plugin = p.name) :
      LeftByPlug r chosen { r with
        plugins := r.plugins ++ [p], store := store.writeEach ws, handlers, errorHandlers }

variable {registry : Assoc PluginClass} {plugin : Value} {config : Assoc Value}
variable {logger : Option Logger}

theorem plug_failed {f : Failure} (failed : (r.plug registry plugin config logger).1 = .error f) :
    r.LeftByPlug (r.chosen registry plugin config logger)
      (r.plug registry plugin config logger).2 := by
  rw [plug_eq] at failed ⊢
  cases choice : r.chosen registry plugin config logger with
  | error g => exact .untouched
  | ok answer =>
    obtain ⟨p, options⟩ := answer
    rw [choice] at failed
    dsimp only at failed ⊢
    cases configured : p.configure (r.store.openBucket p.name) options with
    | error g => exact .unconfigured rfl configured
    | ok store =>
      rw [configured] at failed
      obtain ⟨ws, handlers, errorHandlers, left, calls, errorCalls, places⟩ :=
        fitEntries_failed failed
      dsimp only
      unfold attach
      rw [left]
      exact .unfitted rfl configured calls errorCalls places

namespace LeftByPlug

variable {chosen : Except Failure (Plugin × Assoc Value)}

theorem asCalled (left : r.LeftByPlug chosen r') :
    r'.handlers.map Entry.asCalled = r.handlers.map Entry.asCalled ∧
      r'.errorHandlers.map Entry.asCalled = r.errorHandlers.map Entry.asCalled := by
  cases left with
  | untouched => exact ⟨rfl, rfl⟩
  | unconfigured => exact ⟨rfl, rfl⟩
  | unfitted _ _ calls errorCalls _ => exact ⟨calls, errorCalls⟩

theorem others (left : r.LeftByPlug chosen r') {plugin : String}
    (other : ∀ p options, chosen = .ok (p, options) → p.name ≠ plugin) (target : Key) :
    r'.store.slot? plugin target = r.store.slot? plugin target := by
  have opened : ∀ {p : Plugin} {options : Assoc Value}, chosen = .ok (p, options) →
      (r.store.openBucket p.name).slot? plugin target = r.store.slot? plugin target := by
    intro p options choice
    rw [PluginStore.slot?_openBucket, if_neg fun here => other p options choice here.1.symm]
  have written : ∀ {p : Plugin} {options : Assoc Value} {ws : List Write} {store : PluginStore},
      chosen = .ok (p, options) → (∀ w ∈ ws, w.plugin = p.name) →
      (store.writeEach ws).slot? plugin target = store.slot? plugin target := by
    intro p options ws store choice places
    rw [PluginStore.slot?_writeEach, Write.configsAt_eq_nil]
    · rfl
    · intro w hw same
      exact absurd ((places w hw).symm.trans same) (other p options choice)
  cases left with
  | untouched => rfl
  | unconfigured choice _ => exact opened choice
  | @unfitted p options store _ _ ws choice accepted _ _ places =>
    dsimp only
    rw [written choice places]
    obtain ⟨cs, within, rfl⟩ := (p.configure_writes options).eq_ok accepted
    rw [written choice fun w hw => (within w hw).1, opened choice]

theorem plugins_eq (left : r.LeftByPlug chosen r') :
    r'.plugins = r.plugins ∨ ∃ p options store, chosen = .ok (p, options) ∧
      p.configure (r.store.openBucket p.name) options = .ok store ∧
        r'.plugins = r.plugins ++ [p] := by
  cases left with
  | untouched => exact .inl rfl
  | unconfigured => exact .inl rfl
  | unfitted choice accepted _ _ _ => exact .inr ⟨_, _, _, choice, accepted, rfl⟩

end LeftByPlug
end Router

namespace Exec

variable {w : World} {r : RouterRef} {plugin : Value} {config : Assoc Value}
variable {logger : Option Logger}

/-- An attempt to attach a plugin that fails leaves all other routers as they were, and on its own
router the calls of all entries and what other plugins have. The plugin stays attached only if it
accepted its own options. -/
theorem plug_failed_leaves {s : Stop}
    (failed : (Exec.plug r plugin config logger w).result = .error s) :
    let before := w.router r
    let chosen := before.chosen w.pluginClasses plugin config logger
    let after := (Exec.plug r plugin config logger w).world
    (∀ q, q ≠ r → after.router q = w.router q) ∧
      before.LeftByPlug chosen (after.router r) ∧
      (after.router r).handlers.map Entry.asCalled = before.handlers.map Entry.asCalled ∧
      (after.router r).errorHandlers.map Entry.asCalled =
        before.errorHandlers.map Entry.asCalled ∧
      (∀ other, (∀ p options, chosen = .ok (p, options) → p.name ≠ other) → ∀ target,
        (after.router r).store.slot? other target = before.store.slot? other target) ∧
      ((after.router r).plugins = before.plugins ∨ ∃ p options store, chosen = .ok (p, options) ∧
        p.configure (before.store.openBucket p.name) options = .ok store ∧
        (after.router r).plugins = before.plugins ++ [p]) := by
  dsimp only
  have left : (∀ q, q ≠ r → (Exec.plug r plugin config logger w).world.router q = w.router q) ∧
      (w.router r).LeftByPlug ((w.router r).chosen w.pluginClasses plugin config logger)
        ((Exec.plug r plugin config logger w).world.router r) := by
    obtain ⟨s', same⟩ | ⟨changed, succeeds⟩ := plug_cases r plugin config logger w
    · rw [same]
      exact ⟨fun _ _ => rfl, .untouched⟩
    · rw [changed, World.router_setRouter_self]
      refine ⟨fun q apart => World.router_setRouter_of_ne w _ apart, ?_⟩
      cases answer : ((w.router r).plug w.pluginClasses plugin config logger).1 with
      | error f => exact Router.plug_failed answer
      | ok _ =>
        obtain ⟨reply, ok⟩ := succeeds.2 answer
        cases ok.symm.trans failed
  obtain ⟨others, left⟩ := left
  obtain ⟨calls, errorCalls⟩ := left.asCalled
  exact ⟨others, left, calls, errorCalls, fun _ => left.others, left.plugins_eq⟩

/-- A router with a handler that has an option which its plugin will not accept. -/
def unacceptable : World :=
  (register 0 (reporting [("counting_limit", .list [])]) (Small.world [Small.newRouter])).world

def plugCounting : Exec Reply := Exec.plug 0 (.text "counting") [] none

def isAlreadyAttached : Except Stop Reply → Bool
  | .error (.failed (.alreadyAttached _)) => true
  | _ => false

theorem unacceptable_outcome :
    let failed := plugCounting unacceptable
    (failed.result.toOption.isNone, (unacceptable.router 0).plugins.length,
        (failed.world.router 0).plugins.map Plugin.name,
        isAlreadyAttached (plugCounting failed.world).result) =
      (true, 0, ["counting"], true) := by cbv

def plugRefused : Exec Reply := Exec.plug 0 (.text "counting") [("limit", .list [])] none

def asksCounting : Exec Reply := isEnabled 0 (.text "report") (.text "counting")

theorem plugRefused_outcome :
    let start := Small.world [Small.newRouter]
    let failed := plugRefused start
    (failed.result.toOption.isNone, (failed.world.router 0).plugins.length,
        (asksCounting start).result.toOption.isNone, (asksCounting failed.world).result.toOption) =
      (true, 0, true, some (.value (.bool true))) := by cbv

theorem unacceptable_keeps_calls :
    (plugCounting unacceptable).result.toOption = none ∧
      ((plugCounting unacceptable).world.router 0).handlers.map Entry.asCalled =
        (unacceptable.router 0).handlers.map Entry.asCalled := by
  obtain ⟨answer, -⟩ : _ ∧ _ := by simpa using unacceptable_outcome
  refine ⟨answer, ?_⟩
  cases failed : (plugCounting unacceptable).result with
  | ok reply =>
    rw [failed] at answer
    cases answer
  | error s =>
    obtain ⟨-, -, calls, -⟩ := plug_failed_leaves failed
    exact calls

/-- Where the plugin refuses a handler's option, it stays attached, and cannot be attached again.
Where it refuses its own options, it is not attached, and the router still says that it is on. -/
theorem failed_plugCounting_leaves_plugin :
    ((plugCounting unacceptable).result.toOption = none ∧
      (unacceptable.router 0).plugins = [] ∧
      ((plugCounting unacceptable).world.router 0).plugins.map Plugin.name = ["counting"] ∧
      isAlreadyAttached (plugCounting (plugCounting unacceptable).world).result = true) ∧
    let start := Small.world [Small.newRouter]
    let failed := plugRefused start
    failed.result.toOption = none ∧ (failed.world.router 0).plugins = [] ∧
      (asksCounting start).result.toOption = none ∧
      (asksCounting failed.world).result.toOption = some (.value (.bool true)) := by
  constructor
  · obtain ⟨answer, before, after, again⟩ : _ ∧ _ ∧ _ ∧ _ := by simpa using unacceptable_outcome
    exact ⟨answer, before, by simpa using after, again⟩
  · obtain ⟨answer, bare, silent, on⟩ : _ ∧ _ ∧ _ ∧ _ := by simpa using plugRefused_outcome
    exact ⟨answer, bare, silent, by simpa using on⟩

end Exec
end HandlerChains
