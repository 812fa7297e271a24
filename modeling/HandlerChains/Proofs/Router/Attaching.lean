import HandlerChains.Perform.Plugins
import HandlerChains.Proofs.Plugin.Fitting

/-!
# When registering and attaching succeed

A registration succeeds if the entry can be named, every plugin fits it in turn, and no class has
something else in the place of a step; attaching a plugin succeeds if the plugin accepts its own
options and fits every entry in turn. Both are put in terms of what the plugins write, so that
nothing is said about the store that it is written to.
-/

namespace HandlerChains
namespace Router

variable {r r' : Router} {p : Plugin} {ps : List Plugin} {e e' e'' : Entry} {ws vs : List Write}

/-- Whether a class leaves the place of a name to its routers. -/
def IsOwn (r : Router) (name : String) : Prop := Assoc.get? r.overrides name = none

theorem expect_eq_ok_iff (r : Router) (name : String) (call : Call) :
    r.expect name call = .ok () ↔ r.IsOwn name := by
  unfold expect IsOwn
  cases Assoc.get? r.overrides name <;> simp

theorem standIn?_of_isOwn {name : String} (own : r.IsOwn name) : r.standIn? name = none := by
  unfold standIn?
  rw [show Assoc.get? r.overrides name = none from own]

theorem reach_of_isOwn {name : String} (own : r.IsOwn name) : r.reach name = .ok () := by
  unfold reach
  rw [show Assoc.get? r.overrides name = none from own]

theorem expectLayers_eq_ok_iff (r : Router) (found : Except Failure Unit) :
    r.expectLayers found = .ok () ↔
      found = .ok () ∧ r.IsOwn "_wrap_handler" ∧ (r.plugins = [] ∨ r.IsOwn "_create_wrapper") := by
  constructor
  · intro h
    unfold expectLayers at h
    cases reached : r.reach "_wrap_handler" with
    | error f =>
      rw [reached] at h
      cases h
    | ok _ =>
      cases found with
      | error f =>
        rw [reached] at h
        cases h
      | ok _ =>
        cases wraps : r.expect "_wrap_handler" (.several 2) with
        | error f =>
          rw [reached, wraps] at h
          cases h
        | ok _ =>
          rw [reached, wraps] at h
          refine ⟨rfl, (expect_eq_ok_iff ..).1 wraps, ?_⟩
          by_cases empty : r.plugins = []
          · exact .inl empty
          · right
            have creates : (if r.plugins.isEmpty then (pure () : Except Failure Unit)
              else r.expect "_create_wrapper" (.several 4)) = .ok () := h
            rw [if_neg (by simpa using empty)] at creates
            exact (expect_eq_ok_iff ..).1 creates
  · rintro ⟨rfl, wraps, creates⟩
    unfold expectLayers
    rw [reach_of_isOwn wraps, (expect_eq_ok_iff ..).2 wraps]
    rcases creates with empty | own
    · rw [empty]
      rfl
    · rw [(expect_eq_ok_iff ..).2 own]
      cases r.plugins <;> rfl

/-! ## Registering, step by step -/

section

variable [Telling]

theorem fit_of_isOwn (own : r.IsOwn "_apply_plugin") (p : Plugin) : r.fit p = p.fit r := by
  unfold fit
  rw [(expect_eq_ok_iff ..).2 own]
  rfl

theorem isOwn_of_fit {s s' : Fit} (fitted : (r.fit p).run s = (.ok (), s')) :
    r.IsOwn "_apply_plugin" := by
  cases own : r.expect "_apply_plugin" (.several 2) with
  | error f =>
    unfold fit at fitted
    rw [own] at fitted
    cases fitted
  | ok _ => exact (expect_eq_ok_iff ..).1 own

theorem forM_fit_iff {s s' : Fit} :
    (ps.forM r.fit).run s = (.ok (), s') ↔
      (ps = [] ∨ r.IsOwn "_apply_plugin") ∧
        (ps.forM fun p => p.fit r).run s = (.ok (), s') := by
  cases ps with
  | nil => simp
  | cons p ps =>
    constructor
    · intro fitted
      have own : r.IsOwn "_apply_plugin" := by
        change ((r.fit p) >>= fun _ => ps.forM r.fit).run s = _ at fitted
        rw [Fitting.run_bind] at fitted
        rcases first : (r.fit p).run s with ⟨f | _, s₁⟩
        · rw [first] at fitted
          cases fitted
        · exact isOwn_of_fit first
      rw [funext (fit_of_isOwn own)] at fitted
      exact ⟨.inr own, fitted⟩
    · rintro ⟨own, fitted⟩
      rwa [funext (fit_of_isOwn (own.resolve_left (by simp)))]

structure OwnsRegistering (r : Router) : Prop where
  after : r.IsOwn "_after_entry_registered"
  wrap : r.IsOwn "_wrap_handler"
  fit : r.plugins = [] ∨ r.IsOwn "_apply_plugin"
  layer : r.plugins = [] ∨ r.IsOwn "_create_wrapper"

theorem fitAll_iff {found : Except Failure Unit} {s s' : Fit} :
    (r.fitAll found).run s = (.ok (), s') ↔
      found = .ok () ∧ r.OwnsRegistering ∧
        (r.plugins.forM fun p => p.fit r).run s = (.ok (), s') := by
  constructor
  · intro fitted
    unfold fitAll at fitted
    rw [Fitting.run_bind, Fitting.run_lift] at fitted
    cases after : r.expect "_after_entry_registered" (.alone "HandlerEntry") with
    | error f =>
      rw [after] at fitted
      cases fitted
    | ok _ =>
      rw [after] at fitted
      dsimp only at fitted
      rw [Fitting.run_bind] at fitted
      rcases all : (r.plugins.forM r.fit).run s with ⟨f | _, s₁⟩
      · rw [all] at fitted
        cases fitted
      · rw [all] at fitted
        dsimp only at fitted
        rw [Fitting.run_lift] at fitted
        obtain ⟨own, fits⟩ := forM_fit_iff.1 all
        cases layers : r.expectLayers found with
        | error f =>
          rw [layers] at fitted
          cases fitted
        | ok _ =>
          rw [layers] at fitted
          cases fitted
          obtain ⟨leads, wraps, creates⟩ := (expectLayers_eq_ok_iff ..).1 layers
          exact ⟨leads, ⟨(expect_eq_ok_iff ..).1 after, wraps, own, creates⟩, fits⟩
  · rintro ⟨rfl, own, fits⟩
    have layers := (expectLayers_eq_ok_iff r (.ok ())).2 ⟨rfl, own.wrap, own.layer⟩
    unfold fitAll
    rw [Fitting.run_bind, Fitting.run_lift, (expect_eq_ok_iff ..).2 own.after]
    dsimp only
    rw [Fitting.run_bind, forM_fit_iff.2 ⟨own.fit, fits⟩, layers]
    dsimp only
    rw [Fitting.run_lift]

theorem register_iff {codes : List String} {h : Handler} {error : Bool} {name : Value}
    {derived : Except Failure Value} {found : Except Failure Unit} {options : Assoc Value} :
    r.register codes h error name derived found options = (.ok (), r') ↔
      found = .ok () ∧ r.OwnsRegistering ∧ ∃ e s,
        r.newEntry codes h error name derived options = .ok e ∧
          (r.plugins.forM fun p => p.fit r).run ⟨r.store, e⟩ = (.ok (), s) ∧
            r' = { r with store := s.store }.append { s.entry with layers := r.plugins } := by
  unfold register
  cases made : r.newEntry codes h error name derived options with
  | error f => simp
  | ok e =>
    dsimp only
    unfold addEntry
    constructor
    · intro added
      rcases fitted : (r.fitAll found).run ⟨r.store, e⟩ with ⟨f | _, s⟩
      · rw [fitted] at added
        cases added
      · rw [fitted] at added
        obtain ⟨leads, own, fits⟩ := fitAll_iff.1 fitted
        exact ⟨leads, own, e, s, rfl, fits, (Prod.mk.inj added).2.symm⟩
    · rintro ⟨leads, own, e₀, s, ⟨⟩, fits, rfl⟩
      rw [fitAll_iff.2 ⟨leads, own, fits⟩]

end

/-! ## Attaching, step by step -/

theorem withEntries_append {hs : List Entry} (same : hs.length = r.handlers.length)
    (fs : List Entry) :
    r.withEntries (hs ++ fs) = { r with handlers := hs, errorHandlers := fs } := by
  simp [withEntries, ← same]

theorem layer_eq (r : Router) :
    r.layer = { r with
      handlers := r.handlers.map fun e => { e with layers := r.plugins }
      errorHandlers := r.errorHandlers.map fun e => { e with layers := r.plugins } } := by
  unfold layer entries
  rw [List.map_append, withEntries_append (List.length_map _)]

theorem expectRebuilding_eq_ok_iff (r : Router) :
    r.expectRebuilding = .ok () ↔
      r.IsOwn "_rebuild_handlers" ∧ (r.entries = [] ∨ r.expectLayers (.ok ()) = .ok ()) := by
  unfold expectRebuilding
  constructor
  · intro h
    cases own : r.expect "_rebuild_handlers" .bare with
    | error f =>
      rw [own] at h
      cases h
    | ok _ =>
      refine ⟨(expect_eq_ok_iff ..).1 own, ?_⟩
      rw [own] at h
      by_cases empty : r.entries = []
      · exact .inl empty
      · have layers : (if r.entries.isEmpty then (pure () : Except Failure Unit)
          else r.expectLayers (.ok ())) = .ok () := h
        rw [if_neg (by simpa using empty)] at layers
        exact .inr layers
  · rintro ⟨own, empty | layers⟩
    · rw [(expect_eq_ok_iff ..).2 own, empty]
      rfl
    · rw [(expect_eq_ok_iff ..).2 own, layers]
      cases r.entries <;> rfl

structure OwnsAttaching (r : Router) : Prop where
  list : r.IsOwn "_all_entries"
  rebuild : r.IsOwn "_rebuild_handlers"
  fit : r.entries = [] ∨ r.IsOwn "_apply_plugin"
  wrap : r.entries = [] ∨ r.IsOwn "_wrap_handler"
  layer : r.entries = [] ∨ r.IsOwn "_create_wrapper"

/-- A router to which a plugin was attached, with what became of its chains. -/
def attached (r : Router) (p : Plugin) (store : PluginStore) (handlers errorHandlers : List Entry) :
    Router :=
  let plugins := r.plugins ++ [p]
  { r with
    plugins, store
    handlers := handlers.map fun e => { e with layers := plugins }
    errorHandlers := errorHandlers.map fun e => { e with layers := plugins } }

/-- The plugin that a call attaches, with the options that it is configured with. -/
def chosen (r : Router) (registry : Assoc PluginClass) (plugin : Value) (config : Assoc Value)
    (logger : Option Logger) : Except Failure (Plugin × Assoc Value) :=
  if callArguments.any (Assoc.has config) then
    .error (.badCall "multiple values for an argument")
  else do
    let c ← r.pluginClass registry plugin
    if Assoc.has config "router" then .error (.badCall "multiple values for an argument")
    else return takeLogger c config logger

/-- Fitting keeps the number of entries, so there are calls to send through plugins afterwards only
if there were before. -/
theorem expectRebuilding_fitted_iff {hs fs : List Entry} (left : hs.length = r.handlers.length)
    (right : fs.length = r.errorHandlers.length) (store : PluginStore) :
    ({ r with store, handlers := hs, errorHandlers := fs } : Router).expectRebuilding = .ok () ↔
      r.IsOwn "_rebuild_handlers" ∧ (r.entries = [] ∨ r.expectLayers (.ok ()) = .ok ()) := by
  have none_iff : hs ++ fs = [] ↔ r.entries = [] := by
    simp only [entries, ← List.length_eq_zero_iff, List.length_append, left, right]
  rw [expectRebuilding_eq_ok_iff, expectLayers_eq_ok_iff, expectLayers_eq_ok_iff]
  exact and_congr_right fun _ => or_congr_left none_iff

section

variable [Telling] {done es es' hs fs : List Entry} {store store' : PluginStore}

theorem length_fitEach {result : Except Failure Unit}
    (fitted : r.fitEach p done es store = (result, store', es')) : es'.length = es.length := by
  induction es generalizing done store store' es' result with
  | nil =>
    cases fitted
    rfl
  | cons e es ih =>
    unfold fitEach at fitted
    rcases first : ((r.withEntries (done ++ e :: es)).fit p).run ⟨store, e⟩ with ⟨f | _, s⟩
    · rw [first] at fitted
      cases fitted
      rfl
    · rw [first] at fitted
      rcases rest : r.fitEach p (done ++ [s.entry]) es s.store with ⟨_, later, fitted'⟩
      dsimp only at fitted
      rw [rest] at fitted
      cases fitted
      exact congrArg Nat.succ (ih rest)

theorem fitEach_cons_iff {e : Entry} :
    r.fitEach p done (e :: es) store = (.ok (), store', es') ↔
      r.IsOwn "_apply_plugin" ∧ ∃ s fitted,
        (p.fit (r.withEntries (done ++ e :: es))).run ⟨store, e⟩ = (.ok (), s) ∧
          r.fitEach p (done ++ [s.entry]) es s.store = (.ok (), store', fitted) ∧
            es' = s.entry :: fitted := by
  let seen := r.withEntries (done ++ e :: es)
  constructor
  · intro fits
    unfold fitEach at fits
    rcases first : (seen.fit p).run ⟨store, e⟩ with ⟨f | _, s⟩
    · rw [first] at fits
      cases fits
    · have own : seen.IsOwn "_apply_plugin" := isOwn_of_fit first
      rw [first] at fits
      dsimp only at fits
      rcases rest : r.fitEach p (done ++ [s.entry]) es s.store with ⟨_, later, fitted⟩
      rw [rest] at fits
      cases fits
      rw [fit_of_isOwn own] at first
      exact ⟨own, s, fitted, first, rest, rfl⟩
  · rintro ⟨own, s, fitted, first, rest, rfl⟩
    have own' : seen.IsOwn "_apply_plugin" := own
    rw [fitEach, fit_of_isOwn own', first]
    dsimp only
    rw [rest]

theorem isOwn_of_fitEach (fitted : r.fitEach p done es store = (.ok (), store', es')) :
    es = [] ∨ r.IsOwn "_apply_plugin" := by
  cases es with
  | nil => exact .inl rfl
  | cons e es => exact .inr (fitEach_cons_iff.1 fitted).1

theorem chains_of_fitEach (fitted : r.fitEach p [] r.entries r.store = (.ok (), store, es)) :
    ∃ hs fs, es = hs ++ fs ∧ hs.length = r.handlers.length := by
  have both := length_fitEach fitted
  rw [entries, List.length_append] at both
  exact ⟨es.take r.handlers.length, es.drop r.handlers.length, (List.take_append_drop ..).symm,
    List.length_take_of_le (by omega)⟩

theorem length_of_fitEach (fitted : r.fitEach p [] r.entries r.store = (.ok (), store, hs ++ fs))
    (left : hs.length = r.handlers.length) : fs.length = r.errorHandlers.length := by
  have both := length_fitEach fitted
  rw [entries, List.length_append, List.length_append, left] at both
  exact Nat.add_left_cancel both

theorem fitEntries_iff :
    r.fitEntries p = (.ok (), r') ↔
      r.IsOwn "_all_entries" ∧ r.IsOwn "_rebuild_handlers" ∧
        (r.entries = [] ∨ r.expectLayers (.ok ()) = .ok ()) ∧
        ∃ store hs fs, r.fitEach p [] r.entries r.store = (.ok (), store, hs ++ fs) ∧
          hs.length = r.handlers.length ∧
          r' = { r with
            store
            handlers := hs.map fun e => { e with layers := r.plugins }
            errorHandlers := fs.map fun e => { e with layers := r.plugins } } := by
  constructor
  · intro fits
    unfold fitEntries at fits
    cases list : r.expect "_all_entries" .bare with
    | error f =>
      rw [list] at fits
      cases fits
    | ok _ =>
      rw [list] at fits
      dsimp only at fits
      rcases fitted : r.fitEach p [] r.entries r.store with ⟨f | _, store, es⟩
      · rw [fitted] at fits
        cases fits
      · rw [fitted] at fits
        dsimp only at fits
        obtain ⟨hs, fs, rfl, left⟩ := chains_of_fitEach fitted
        have right := length_of_fitEach fitted left
        have same : hs.length = ({ r with store } : Router).handlers.length := left
        rw [withEntries_append same] at fits
        cases rebuilds : ({ r with store, handlers := hs, errorHandlers := fs } :
            Router).expectRebuilding with
        | error f =>
          rw [rebuilds] at fits
          cases fits
        | ok _ =>
          rw [rebuilds] at fits
          dsimp only at fits
          obtain ⟨rebuild, layers⟩ := (expectRebuilding_fitted_iff left right store).1 rebuilds
          refine ⟨(expect_eq_ok_iff ..).1 list, rebuild, layers, store, hs, fs, rfl, left, ?_⟩
          rw [← (Prod.mk.inj fits).2, layer_eq]
  · rintro ⟨list, rebuild, layers, store, hs, fs, fitted, left, rfl⟩
    have right := length_of_fitEach fitted left
    have same : hs.length = ({ r with store } : Router).handlers.length := left
    unfold fitEntries
    rw [(expect_eq_ok_iff ..).2 list]
    dsimp only
    rw [fitted]
    dsimp only
    rw [withEntries_append same, (expectRebuilding_fitted_iff left right _).2 ⟨rebuild, layers⟩]
    dsimp only
    rw [layer_eq]

theorem attach_iff :
    r.attach p = (.ok (), r') ↔
      r.OwnsAttaching ∧ ∃ store hs fs,
        { r with plugins := r.plugins ++ [p] }.fitEach p [] r.entries r.store =
            (.ok (), store, hs ++ fs) ∧
          hs.length = r.handlers.length ∧ r' = r.attached p store hs fs := by
  have some_plugins : r.plugins ++ [p] ≠ [] := by simp
  unfold attach
  rw [fitEntries_iff, expectLayers_eq_ok_iff]
  constructor
  · rintro ⟨list, rebuild, layers, store, hs, fs, fitted, made⟩
    have fit : r.entries = [] ∨ r.IsOwn "_apply_plugin" :=
      isOwn_of_fitEach (r := { r with plugins := r.plugins ++ [p] }) fitted
    refine ⟨⟨list, rebuild, fit, ?_, ?_⟩, store, hs, fs, fitted, made⟩
    · exact layers.imp_right fun own => own.2.1
    · exact layers.imp_right fun own => own.2.2.resolve_left some_plugins
  · rintro ⟨own, made⟩
    refine ⟨own.list, own.rebuild, ?_, made⟩
    rcases own.wrap with empty | wraps
    · exact .inl empty
    · exact own.layer.imp_right fun creates => ⟨rfl, wraps, .inr creates⟩

theorem plug_eq (r : Router) (registry : Assoc PluginClass) (plugin : Value) (config : Assoc Value)
    (logger : Option Logger) :
    r.plug registry plugin config logger =
      match r.chosen registry plugin config logger with
      | .error f => (.error f, r)
      | .ok (p, options) =>
        match p.configure (r.store.openBucket p.name) options with
        | .error f => (.error f, { r with store := r.store.openBucket p.name })
        | .ok store => { r with store }.attach p := by
  unfold plug chosen
  split
  · rfl
  · cases r.pluginClass registry plugin with
    | error f => rfl
    | ok c =>
      dsimp only [bind, Except.bind]
      split
      · rfl
      · rfl

theorem plug_iff {registry : Assoc PluginClass} {plugin : Value} {config : Assoc Value}
    {logger : Option Logger} :
    r.plug registry plugin config logger = (.ok (), r') ↔
      ∃ p options store, r.chosen registry plugin config logger = .ok (p, options) ∧
        p.configure (r.store.openBucket p.name) options = .ok store ∧
          { r with store }.attach p = (.ok (), r') := by
  rw [plug_eq]
  cases chosen : r.chosen registry plugin config logger with
  | error f => simp
  | ok answer =>
    obtain ⟨p, options⟩ := answer
    dsimp only
    cases made : p.configure (r.store.openBucket p.name) options with
    | error f =>
      constructor
      · intro h
        cases h
      · rintro ⟨_, _, _, ⟨⟩, made', -⟩
        rw [made] at made'
        cases made'
    | ok store =>
      constructor
      · intro attaches
        exact ⟨p, options, store, rfl, made, attaches⟩
      · rintro ⟨_, _, _, ⟨⟩, made', attaches⟩
        rw [made] at made'
        cases made'
        exact attaches

end

/-! ## Registering, by what is written -/

/-- Plugins fit an entry one after another, each of them as the one before left it. -/
inductive FitsAll : List Plugin → Entry → List Write → Entry → Prop
  | nil (e : Entry) : FitsAll [] e [] e
  | cons {p : Plugin} {ps : List Plugin} {e e' e'' : Entry} {ws vs : List Write}
      (first : p.Fits e (.ok ()) ws e') (rest : FitsAll ps e' vs e'') :
      FitsAll (p :: ps) e (ws ++ vs) e''

namespace FitsAll

theorem eq_of_kept {α : Type} {f : Entry → α}
    (kept : ∀ {p : Plugin} {e result ws e'}, p.Fits e result ws e' → f e' = f e)
    (fits : FitsAll ps e ws e') : f e' = f e := by
  induction fits with
  | nil e => rfl
  | cons first rest ih => exact ih.trans (kept first)

theorem key_eq (fits : FitsAll ps e ws e') : e'.key = e.key := fits.eq_of_kept Plugin.Fits.key_eq

theorem places (fits : FitsAll ps e ws e') :
    ∀ w ∈ ws, (∃ p ∈ ps, w.plugin = p.name) ∧ w.target = e.key := by
  induction fits with
  | nil e => simp
  | cons first rest ih =>
    intro w hw
    rcases List.mem_append.1 hw with now | later
    · obtain ⟨plugin, target⟩ := first.places w now
      exact ⟨⟨_, List.mem_cons_self, plugin⟩, target⟩
    · obtain ⟨⟨q, mem, plugin⟩, target⟩ := ih w later
      exact ⟨⟨q, List.mem_cons_of_mem _ mem, plugin⟩, target.trans first.key_eq⟩

end FitsAll

/-- Plugins of the catalogue fit an entry in any store, and do to it what they write. -/
theorem fitsAll_iff {store : PluginStore} {s : Fit} :
    (ps.forM fun p => p.fit r).run ⟨store, e⟩ = (.ok (), s) ↔
      ∃ ws, FitsAll ps e ws s.entry ∧ s.store = store.writeEach ws := by
  induction ps generalizing store e with
  | nil =>
    constructor
    · intro fitted
      cases fitted
      exact ⟨[], .nil e, rfl⟩
    · rintro ⟨ws, ⟨⟩, written⟩
      exact Prod.ext rfl (congrArg (Fit.mk · s.entry) written.symm)
  | cons p ps ih =>
    change ((p.fit r) >>= fun _ => ps.forM fun p => p.fit r).run ⟨store, e⟩ = _ ↔ _
    rw [Fitting.run_bind]
    constructor
    · intro fitted
      rcases first : (p.fit r).run ⟨store, e⟩ with ⟨f | _, s'⟩
      · rw [first] at fitted
        cases fitted
      · rw [first] at fitted
        obtain ⟨ws, fits, written⟩ := Plugin.fits_of_run first
        obtain ⟨vs, rest, written'⟩ := (@ih s'.entry s'.store).1 fitted
        refine ⟨ws ++ vs, .cons fits rest, ?_⟩
        rw [written', written, PluginStore.writeEach_append]
    · rintro ⟨_, fits, written⟩
      cases fits with
      | cons first rest =>
        rw [first.comesTo r store]
        rw [PluginStore.writeEach_append] at written
        exact ih.2 ⟨_, rest, written⟩

theorem fitAll_eq_ok_iff {found : Except Failure Unit} {store : PluginStore} {s : Fit} :
    (r.fitAll found).run ⟨store, e⟩ = (.ok (), s) ↔
      found = .ok () ∧ r.OwnsRegistering ∧
        ∃ ws, FitsAll r.plugins e ws s.entry ∧ s.store = store.writeEach ws := by
  rw [fitAll_iff, fitsAll_iff]

theorem register_eq_ok_iff {codes : List String} {h : Handler} {error : Bool} {name : Value}
    {derived : Except Failure Value} {found : Except Failure Unit} {options : Assoc Value} :
    r.register codes h error name derived found options = (.ok (), r') ↔
      found = .ok () ∧ r.OwnsRegistering ∧ ∃ e ws e',
        r.newEntry codes h error name derived options = .ok e ∧ FitsAll r.plugins e ws e' ∧
          r' = { r with store := r.store.writeEach ws }.append { e' with layers := r.plugins } := by
  rw [register_iff]
  refine and_congr_right fun _ => and_congr_right fun _ => exists_congr fun e => ?_
  constructor
  · rintro ⟨⟨store, e'⟩, made, fitted, rfl⟩
    obtain ⟨ws, fits, rfl⟩ := fitsAll_iff.1 fitted
    exact ⟨ws, e', made, fits, rfl⟩
  · rintro ⟨ws, e', made, fits, rfl⟩
    exact ⟨⟨_, e'⟩, made, fitsAll_iff.2 ⟨ws, fits, rfl⟩, rfl⟩

/-! ## Attaching, by what is written -/

inductive FitsEach (p : Plugin) : List Entry → List Write → List Entry → Prop
  | nil : FitsEach p [] [] []
  | cons {e e' : Entry} {es es' : List Entry} {ws vs : List Write}
      (first : p.Fits e (.ok ()) ws e') (rest : FitsEach p es vs es') :
      FitsEach p (e :: es) (ws ++ vs) (e' :: es')

namespace FitsEach

variable {es es' fs fs' gs : List Entry}

theorem length_eq (fits : FitsEach p es ws es') : es'.length = es.length := by
  induction fits with
  | nil => rfl
  | cons first rest ih => rw [List.length_cons, List.length_cons, ih]

theorem map_eq {α : Type} {f : Entry → α}
    (kept : ∀ {e result ws e'}, p.Fits e result ws e' → f e' = f e) (fits : FitsEach p es ws es') :
    es'.map f = es.map f := by
  induction fits with
  | nil => rfl
  | cons first rest ih => rw [List.map_cons, List.map_cons, ih, kept first]

theorem places (fits : FitsEach p es ws es') :
    ∀ w ∈ ws, w.plugin = p.name ∧ w.target ∈ es.map Entry.key := by
  induction fits with
  | nil => simp
  | cons first rest ih =>
    intro w hw
    rcases List.mem_append.1 hw with now | later
    · obtain ⟨plugin, target⟩ := first.places w now
      exact ⟨plugin, by simp [target]⟩
    · obtain ⟨plugin, target⟩ := ih w later
      exact ⟨plugin, List.mem_cons_of_mem _ target⟩

theorem places_in_chains {hs fs : List Entry} (left : FitsEach p r.handlers ws hs)
    (right : FitsEach p r.errorHandlers vs fs) :
    ∀ w ∈ ws ++ vs, w.plugin = p.name ∧ w.target ∈ r.keys := by
  intro w hw
  rw [keys, entries, List.map_append]
  rcases List.mem_append.1 hw with early | late
  · exact (left.places w early).imp_right (List.mem_append_left _)
  · exact (right.places w late).imp_right (List.mem_append_right _)

theorem append (fits : FitsEach p es ws es') (fits' : FitsEach p fs vs fs') :
    FitsEach p (es ++ fs) (ws ++ vs) (es' ++ fs') := by
  induction fits with
  | nil => exact fits'
  | cons first rest ih =>
    rw [List.append_assoc]
    exact cons first ih

theorem of_append (fits : FitsEach p (es ++ fs) ws gs) :
    ∃ ws₁ ws₂ es' fs', ws = ws₁ ++ ws₂ ∧ gs = es' ++ fs' ∧ FitsEach p es ws₁ es' ∧
      FitsEach p fs ws₂ fs' := by
  induction es generalizing ws gs with
  | nil => exact ⟨[], ws, [], gs, rfl, rfl, .nil, fits⟩
  | cons e es ih =>
    rw [List.cons_append] at fits
    cases fits with
    | cons first rest =>
      obtain ⟨ws₁, ws₂, es', fs', rfl, rfl, left, right⟩ := ih rest
      exact ⟨_, ws₂, _, fs', (List.append_assoc ..).symm, rfl, .cons first left, right⟩

end FitsEach

theorem fitsEach_iff {done es es' : List Entry} {store store' : PluginStore} :
    r.fitEach p done es store = (.ok (), store', es') ↔
      (es = [] ∨ r.IsOwn "_apply_plugin") ∧
        ∃ ws, FitsEach p es ws es' ∧ store' = store.writeEach ws := by
  induction es generalizing done store store' es' with
  | nil =>
    constructor
    · intro fitted
      cases fitted
      exact ⟨.inl rfl, [], .nil, rfl⟩
    · rintro ⟨-, ws, ⟨⟩, rfl⟩
      rfl
  | cons e es ih =>
    rw [fitEach_cons_iff]
    constructor
    · rintro ⟨own, s, fitted, first, rest, rfl⟩
      obtain ⟨ws, fits, written⟩ := Plugin.fits_of_run first
      obtain ⟨-, vs, fits', rfl⟩ := ih.1 rest
      refine ⟨.inr own, ws ++ vs, .cons fits fits', ?_⟩
      rw [written, PluginStore.writeEach_append]
    · rintro ⟨own, ws, fits, rfl⟩
      have own : r.IsOwn "_apply_plugin" := own.resolve_left (by simp)
      cases fits with
      | @cons _ e' _ es' ws vs first rest =>
        have later : r.fitEach p (done ++ [e']) es (store.writeEach ws) =
            (.ok (), store.writeEach (ws ++ vs), es') :=
          ih.2 ⟨.inr own, vs, rest, PluginStore.writeEach_append ..⟩
        exact ⟨own, _, es', first.comesTo _ store, later, rfl⟩

theorem attach_eq_ok_iff :
    r.attach p = (.ok (), r') ↔
      r.OwnsAttaching ∧ ∃ ws vs hs fs, FitsEach p r.handlers ws hs ∧
        FitsEach p r.errorHandlers vs fs ∧
          r' = r.attached p (r.store.writeEach (ws ++ vs)) hs fs := by
  rw [attach_iff]
  refine and_congr_right fun own => ?_
  constructor
  · rintro ⟨store, hs, fs, fitted, length, rfl⟩
    obtain ⟨-, us, fits, rfl⟩ := fitsEach_iff.1 fitted
    obtain ⟨ws, vs, hs', fs', rfl, same, left, right⟩ := FitsEach.of_append fits
    obtain ⟨rfl, rfl⟩ := List.append_inj same (length.trans left.length_eq.symm)
    exact ⟨ws, vs, hs, fs, left, right, rfl⟩
  · rintro ⟨ws, vs, hs, fs, left, right, rfl⟩
    exact ⟨_, hs, fs, fitsEach_iff.2 ⟨own.fit, _, left.append right, rfl⟩, left.length_eq, rfl⟩

theorem plug_eq_ok_iff {registry : Assoc PluginClass} {plugin : Value} {config : Assoc Value}
    {logger : Option Logger} :
    r.plug registry plugin config logger = (.ok (), r') ↔
      ∃ p options cs, r.chosen registry plugin config logger = .ok (p, options) ∧
        (∀ w ∈ cs, w.plugin = p.name) ∧
        (∀ store, p.configure store options = .ok (store.writeEach cs)) ∧
        { r with store := (r.store.openBucket p.name).writeEach cs }.attach p = (.ok (), r') := by
  rw [plug_iff]
  refine exists_congr fun p => exists_congr fun options => ?_
  constructor
  · rintro ⟨store, chosen, made, attaches⟩
    obtain ⟨f, refused⟩ | ⟨cs, places, made'⟩ := p.configure_writes options
    · have both := (refused (r.store.openBucket p.name)).symm.trans made
      cases both
    · obtain rfl := Except.ok.inj (made.symm.trans (made' _))
      exact ⟨cs, chosen, fun w hw => (places w hw).1, made', attaches⟩
  · rintro ⟨cs, chosen, -, made, attaches⟩
    exact ⟨_, chosen, made _, attaches⟩

end Router

namespace Exec

theorem pluggable_cases (r : RouterRef) (name : String) (call : Call) (w : World) :
    (∃ s, pluggable r name call w = ⟨.done, .error s, w⟩) ∨
      pluggable r name call w = ⟨.done, .ok (w.router r), w⟩ := by
  unfold pluggable
  rw [bind_apply, router_apply, Ended.andThen_ok, bind_apply]
  cases (w.router r).expect name call with
  | error f => exact .inl ⟨.failed f, rfl⟩
  | ok _ =>
    dsimp only [lift]
    rw [pure_apply, Ended.andThen_ok]
    cases (w.router r).tier with
    | plain => exact .inl ⟨_, rfl⟩
    | pluggable => exact .inr rfl
    | application => exact .inr rfl

theorem plug_cases (r : RouterRef) (plugin : Value) (config : Assoc Value) (logger : Option Logger)
    (w : World) :
    (∃ s, Exec.plug r plugin config logger w = ⟨.done, .error s, w⟩) ∨
      let answer := (w.router r).plug w.pluginClasses plugin config logger
      (Exec.plug r plugin config logger w).world = w.setRouter r answer.2 ∧
        ((∃ reply, (Exec.plug r plugin config logger w).result = .ok reply) ↔
          answer.1 = .ok ()) := by
  unfold Exec.plug
  rw [bind_apply]
  obtain ⟨s, refused⟩ | taken := pluggable_cases r "plug" (.ofCounts plugin.kindName 1
    (config.length + if logger.isSome then 1 else 0)) w
  · rw [refused]
    exact .inl ⟨s, rfl⟩
  · rw [taken, Ended.andThen_ok]
    right
    rcases answer : (w.router r).plug w.pluginClasses plugin config logger with ⟨f | _, r'⟩
    · simp [settle, bind_apply, answer, lift]
    · simp [settle, bind_apply, answer, lift]

end Exec
end HandlerChains
