import HandlerChains.Proofs.Execution
import HandlerChains.Proofs.Router.Orderly
import HandlerChains.Proofs.Tables

/-!
# Plugins are addressed by their names

A plugin is attached under the name of the call, and goes by the code of its class from then on. As
long as each call names a class by its code, these are one name: it is taken once the plugin is
attached, the plugin answers to it, and the options for it among those of a handler reach the
plugin, whether the handler comes before the plugin or after it. A class that is registered under
another name can be attached under that one any number of times.
-/

namespace HandlerChains
namespace Router

variable {r r' : Router} {p : Plugin} {e e' : Entry}

/-- Whether the options that an entry asks a plugin for are in the configuration that the plugin has
for it, the flags expanded. -/
def Honours (r : Router) (plugin : String) (e : Entry) : Prop :=
  ∀ options, Plugin.optionsIn e.metadata plugin = .ok (Options.takenBy plugin options) →
    Options.takenBy plugin options ≠ [] →
      ∃ flags, Plugin.SetsFlags (Options.takenBy plugin options) flags ∧
        ∀ option v,
          Assoc.get? (Plugin.overlaid (Options.takenBy plugin options) flags) option = some v →
            Assoc.get? (r.store.slot plugin e.key).config option = some v

namespace Honours

variable {plugin : String}

theorem of_asks (honours : r.Honours plugin e) (asks : e'.asks = e.asks)
    (same : r'.store.slot? plugin e.key = r.store.slot? plugin e.key) : r'.Honours plugin e' := by
  obtain ⟨key, found⟩ := Prod.mk.inj asks
  intro options given some
  rw [show Plugin.optionsIn e'.metadata plugin = _ from congrFun found plugin] at given
  obtain ⟨flags, sets, stored⟩ := honours options given some
  refine ⟨flags, sets, fun option v overlaid => ?_⟩
  rw [show e'.key = e.key from key, PluginStore.slot_eq, same]
  exact stored option v overlaid

theorem of_written
    (written : ∀ options,
      Plugin.optionsIn e.metadata plugin = .ok (Options.takenBy plugin options) →
      Options.takenBy plugin options ≠ [] →
        ∃ flags held, Plugin.SetsFlags (Options.takenBy plugin options) flags ∧
          r.store.slot? plugin e.key =
            Slot.written held (Plugin.overlaid (Options.takenBy plugin options) flags)) :
    r.Honours plugin e := by
  intro options given some
  obtain ⟨flags, held, sets, stored⟩ := written options given some
  refine ⟨flags, sets, fun option v overlaid => ?_⟩
  rw [PluginStore.slot_eq, stored]
  exact Slot.get?_written (Plugin.distinct_overlaid (Options.distinct_takenBy _ _) flags) held
    overlaid

end Honours

/-- A plugin that fits entries one after another has written for each of them what it asks for. -/
theorem FitsEach.slot?_of_mem {es es' : List Entry} {ws : List Write} (fits : FitsEach p es ws es')
    (distinct : (es.map Entry.key).Nodup) (mem : e ∈ es) {given : Assoc Value}
    (found : Plugin.optionsIn e.metadata p.name = .ok given) (some : given ≠ []) :
    ∃ flags, Plugin.SetsFlags given flags ∧ ∀ store : PluginStore,
      (store.writeEach ws).slot? p.name e.key =
        Slot.written (store.slot? p.name e.key) (Plugin.overlaid given flags) := by
  induction fits with
  | nil => cases mem
  | @cons d d' es es' ws vs first rest ih =>
    obtain ⟨alone, distinct⟩ := List.nodup_cons.1 distinct
    rcases List.mem_cons.1 mem with rfl | later
    · obtain ⟨flags, sets, written⟩ := first.eq_ok.2 given found some
      refine ⟨flags, sets, fun store => ?_⟩
      rw [PluginStore.writeEach_append, PluginStore.slot?_writeEach, Write.configsAt_eq_nil]
      · rw [written, List.foldl_nil, PluginStore.slot?_writeConfig, if_pos ⟨rfl, rfl⟩]
      · exact fun w hw _ here => alone (here ▸ (rest.places w hw).2)
    · obtain ⟨flags, sets, written⟩ := ih distinct later
      refine ⟨flags, sets, fun store => ?_⟩
      rw [PluginStore.writeEach_append, written, PluginStore.slot?_writeEach,
        Write.configsAt_eq_nil]
      · rfl
      · intro w hw _ here
        have same : d.key = e.key := (first.places w hw).2.symm.trans here
        exact alone (same ▸ List.mem_map_of_mem later)

theorem exists_of_asks (asks : r'.entries.map Entry.asks = r.entries.map Entry.asks)
    (mem : e' ∈ r'.entries) : ∃ e ∈ r.entries, e'.asks = e.asks := by
  have listed := List.mem_map_of_mem (f := Entry.asks) mem
  rw [asks] at listed
  obtain ⟨e, mem, same⟩ := List.mem_map.1 listed
  exact ⟨e, mem, same.symm⟩

/-- A plugin that was attached has what all entries ask it for. -/
theorem plug_honours {registry : Assoc PluginClass} {plugin : Value} {config : Assoc Value}
    {logger : Option Logger} (distinct : r.keys.Nodup)
    (done : r.plug registry plugin config logger = (.ok (), r')) :
    ∃ p options, r.chosen registry plugin config logger = .ok (p, options) ∧
      r'.plugins = r.plugins ++ [p] ∧ ∀ e ∈ r'.entries, r'.Honours p.name e := by
  obtain ⟨p, options, cs, choice, -, -, attaches⟩ := plug_eq_ok_iff.1 done
  obtain ⟨-, ws, vs, hs, fs, left, right, attached⟩ := attach_eq_ok_iff.1 attaches
  have fits : FitsEach p r.entries (ws ++ vs) (hs ++ fs) := left.append right
  refine ⟨p, options, choice, by rw [attached]; rfl, fun e' mem => ?_⟩
  have asks : r'.entries.map Entry.asks = r.entries.map Entry.asks := by
    have layered : ∀ es : List Entry,
        (es.map fun e => { e with layers := r.plugins ++ [p] }).map Entry.asks =
          es.map Entry.asks := fun es => List.map_map
    rw [← fits.map_eq Plugin.Fits.asks_eq, List.map_append, ← layered hs, ← layered fs,
      ← List.map_append, attached]
    rfl
  obtain ⟨e, mem, same⟩ := exists_of_asks asks mem
  have honours : r'.Honours p.name e := .of_written fun options given some => by
    obtain ⟨flags, sets, written⟩ := fits.slot?_of_mem distinct mem given some
    exact ⟨flags, _, sets,
      (congrArg (fun q : Router => q.store.slot? p.name e.key) attached).trans (written _)⟩
  exact honours.of_asks same rfl

theorem Gains.mem_entries {new : List Entry} (gains : r.Gains new r') (mem : e ∈ r'.entries) :
    e ∈ r.entries ∨ e ∈ new := by
  have listed : ∀ error, e ∈ r'.chain error → e ∈ r.entries ∨ e ∈ new := by
    intro error there
    rw [gains.chain] at there
    exact (List.mem_append.1 there).imp chain_subset List.mem_of_mem_filter
  exact (List.mem_append.1 mem).elim (listed false) (listed true)

/-- A plugin that has what all entries ask it for has what a new one does, and it keeps what it has
for the others. A registration that fails changes nothing about that. -/
theorem register_honours {codes : List String} {h : Handler} {error : Bool} {name : Value}
    {derived : Except Failure Value} {found : Except Failure Unit} {options : Assoc Value}
    (attached : p ∈ r.plugins) (all : ∀ e ∈ r.entries, r.Honours p.name e) :
    let r' := (r.register codes h error name derived found options).2
    ∀ e ∈ r'.entries, r'.Honours p.name e := by
  dsimp only
  rcases answer : r.register codes h error name derived found options with ⟨f | _, r'⟩
  · have left := register_failed (f := f) (by rw [answer])
    rw [answer] at left
    obtain same | ⟨key, free, kept⟩ := left
    · dsimp only at same ⊢
      rwa [same]
    · intro e mem
      dsimp only at kept mem ⊢
      have mem : e ∈ r.entries := by
        rw [kept.rest] at mem
        exact mem
      refine (all e mem).of_asks rfl (kept.elsewhere _ _ (.inr fun here => free ?_))
      exact here ▸ List.mem_map_of_mem mem
  · obtain ⟨-, -, e, ws, e', made, fits, rfl⟩ := register_eq_ok_iff.1 answer
    obtain ⟨free, -⟩ := newEntry_fresh made
    have key : e'.key = e.key := fits.key_eq
    have asks : e'.asks = e.asks := fits.eq_of_kept Plugin.Fits.asks_eq
    obtain ⟨hs, fs, rest⟩ := append_rest { r with store := r.store.writeEach ws }
      { e' with layers := r.plugins }
    have gains : r.Gains [{ e' with layers := r.plugins }]
        ({ r with store := r.store.writeEach ws }.append { e' with layers := r.plugins }) :=
      gains_append (key.symm ▸ free) _
    intro d mem
    dsimp only at mem ⊢
    obtain old | new := gains.mem_entries mem
    · refine (all d old).of_asks rfl ?_
      rw [rest]
      exact fits.slot?_of_other r.store fun here => free (here ▸ List.mem_map_of_mem old)
    · obtain rfl := List.mem_singleton.1 new
      have honours : Honours (append { r with store := r.store.writeEach ws }
          { e' with layers := r.plugins }) p.name e := .of_written fun options given some => by
        obtain ⟨flags, sets, written⟩ := fits.slot?_of_named ⟨p, attached, rfl⟩ given some
          (Options.distinct_takenBy _ _)
        exact ⟨flags, _, sets,
          (congrArg (fun q : Router => q.store.slot? p.name e.key) rest).trans (written r.store)⟩
      exact honours.of_asks asks rfl

theorem Gains.mem_of_new {new : List Entry} (gains : r.Gains new r') (mem : e ∈ new) :
    e ∈ r'.entries := by
  have last : e ∈ r'.chain e.error := by
    rw [gains.chain]
    exact List.mem_append_right _ (List.mem_filter.2 ⟨mem, by simp⟩)
  exact chain_subset last

theorem register_asks {codes : List String} {h : Handler} {error : Bool} {name : Value}
    {derived : Except Failure Value} {found : Except Failure Unit} {options : Assoc Value}
    {code : String} (tier : r.tier ≠ .plain) (known : code ∈ codes)
    (some : Options.takenBy code options ≠ [])
    (done : r.register codes h error name derived found options = (.ok (), r')) :
    ∃ e, r.Gains [e] r' ∧ e.handler = h ∧
      Plugin.optionsIn e.metadata code = .ok (Options.takenBy code options) := by
  obtain ⟨-, -, e, ws, e', made, fits, rfl⟩ := register_eq_ok_iff.1 done
  obtain ⟨free, -⟩ := newEntry_fresh made
  obtain ⟨-, name', -, rfl⟩ := newEntry_eq_ok_iff.1 made
  have key := fits.key_eq
  refine ⟨{ e' with layers := r.plugins }, gains_append (key.symm ▸ free) _,
    fits.eq_of_kept Plugin.Fits.handler_eq, ?_⟩
  exact (fits.optionsIn_eq code).trans (optionsIn_entryMetadata tier known some)

/-- What a call can make of a router. -/
inductive Step (r : Router) : Router → Prop
  | same : Step r r
  | registered (codes : List String) (h : Handler) (error : Bool) (name : Value)
      (derived : Except Failure Value) (found : Except Failure Unit) (options : Assoc Value) :
      Step r (r.register codes h error name derived found options).2
  | plugged {p : Plugin} {r' : Router} (new : p.name ∉ r.plugins.map Plugin.name)
      (plugged : r.PluggedTo p r') : Step r r'

namespace Step

theorem orderly (step : r.Step r') (orderly : r.Orderly) : r'.Orderly := by
  cases step with
  | same => exact orderly
  | plugged new plugged => exact plugged.orderly orderly new
  | registered codes h error name derived found options =>
    obtain ⟨⟨store, handlers, errorHandlers, rest⟩, ws, written⟩ :=
      r.register_outcome codes h error name derived found options
    have plugins : (r.register codes h error name derived found options).2.plugins = r.plugins := by
      rw [rest]
    refine ⟨plugins ▸ orderly.plugins, ?_, written ▸ orderly.configs.writeEach ws⟩
    rcases answer : r.register codes h error name derived found options with ⟨f | _, r'⟩
    · have left := register_failed (f := f) (by rw [answer])
      rw [answer] at left
      obtain same | ⟨key, -, kept⟩ := left
      · dsimp only at same ⊢
        exact same ▸ orderly.entries
      · dsimp only at kept ⊢
        rw [kept.rest]
        exact orderly.entries
    · obtain ⟨e, gains, -⟩ := register_gains answer
      exact gains.keys_nodup orderly.entries

theorem keeps (step : r.Step r') :
    r'.tier = r.tier ∧ r'.overrides = r.overrides ∧ r.plugins <+: r'.plugins := by
  cases step with
  | same => exact ⟨rfl, rfl, List.prefix_refl _⟩
  | registered codes h error name derived found options =>
    obtain ⟨⟨store, handlers, errorHandlers, rest⟩, -⟩ :=
      r.register_outcome codes h error name derived found options
    rw [rest]
    exact ⟨rfl, rfl, List.prefix_refl _⟩
  | plugged new plugged =>
    cases plugged with
    | opened same =>
      rw [same]
      exact ⟨rfl, rfl, List.prefix_refl _⟩
    | listed fitted places =>
      obtain ⟨store, handlers, errorHandlers, rest⟩ := fitted.rest
      rw [rest]
      exact ⟨rfl, rfl, List.prefix_append _ _⟩

theorem honours (step : r.Step r') (attached : p ∈ r.plugins)
    (all : ∀ e ∈ r.entries, r.Honours p.name e) : ∀ e ∈ r'.entries, r'.Honours p.name e := by
  cases step with
  | same => exact all
  | registered => exact register_honours attached all
  | plugged new plugged =>
    obtain ⟨asks, slots⟩ := plugged.spares fun same =>
      new (same ▸ List.mem_map_of_mem attached)
    intro e' mem
    obtain ⟨e, mem, same⟩ := exists_of_asks asks mem
    exact (all e mem).of_asks same (slots e.key)

end Step
end Router

theorem Cells.write_read {α : Type} [Inhabited α] {cells : Cells α} {n : Nat}
    (inside : n < cells.length) : write cells n (read cells n) = cells := by
  induction n generalizing cells with
  | zero =>
    cases cells with
    | nil => cases inside
    | cons a rest => rfl
  | succ n ih =>
    cases cells with
    | nil => cases inside
    | cons a rest => exact congrArg (a :: ·) (ih (Nat.lt_of_succ_lt_succ inside))

namespace World

variable {v w : World} {r : RouterRef}

theorem setRouter_router (tier : (w.router r).tier ≠ .plain) : w.setRouter r (w.router r) = w := by
  have inside : r < w.routers.length := by
    by_contra outside
    refine tier ?_
    have absent : w.router r = default := by
      simp [router, Cells.read, List.getD_eq_getElem?_getD,
        List.getElem?_eq_none (Nat.le_of_not_lt outside)]
    rw [absent]
    rfl
  unfold setRouter router
  rw [Cells.write_read inside]

/-- Whether a name is no plugin's, or that of a class with that code. -/
def NamesByCode (w : World) (plugin : Value) : Prop :=
  ∀ name c, plugin = .text name → Assoc.get? w.pluginClasses name = some c → c.code = name

/-- What a call can make of a world. -/
structure Step (w v : World) : Prop where
  routers : ∀ r, (w.router r).Step (v.router r)
  registry : ∀ name ∈ Assoc.names w.pluginClasses, name ∈ Assoc.names v.pluginClasses

theorem step_of_setRouter {r' : Router} (step : (w.router r).Step r') :
    w.Step (w.setRouter r r') where
  routers q := by
    by_cases here : q = r
    · rw [here, router_setRouter_self]
      exact step
    · rw [router_setRouter_of_ne w _ here]
      exact .same
  registry _ known := known

theorem register_step (w : World) (self : RouterRef) (h : Handler) (error : Bool) (name : Value)
    (derived : Option String) (options : Assoc Value) :
    w.Step (w.register self h error name derived options).2 := by
  cases passes : w.expectNoCycle self h with
  | error f =>
    rw [w.register_of_refused self h error name derived options passes]
    exact ⟨fun _ => .same, fun _ known => known⟩
  | ok _ =>
    rw [w.register_of_passes self h error name derived options passes]
    exact step_of_setRouter (.registered ..)

/-- Registering a plugin class adds to the registry, and replaces at most a class there. -/
def Enrols (w : World) (_ : Course) (v : World) : Prop :=
  v.routers = w.routers ∧ ∀ name ∈ Assoc.names w.pluginClasses, name ∈ Assoc.names v.pluginClasses

theorem registerPlugin_enrols (c : Value) (isClass : Bool) (name : Option String) :
    Exec.Respects Enrols (Exec.registerPlugin c isClass name) := by
  have hR : Composes Enrols :=
    ⟨fun _ => ⟨rfl, fun _ known => known⟩,
      fun h h' => ⟨h'.1.trans h.1, fun name known => h'.2 name (h.2 name known)⟩⟩
  have put : ∀ code c, Exec.Respects Enrols (modify fun w =>
      { w with pluginClasses := Assoc.put w.pluginClasses code c } : Exec Unit) := by
    refine fun code c => .modify fun w => ⟨rfl, fun name known => ?_⟩
    dsimp only
    rw [Assoc.names_put]
    split
    · exact known
    · exact List.mem_append_left _ known
  unfold Exec.registerPlugin
  split
  · split
    · exact .stop hR _
    · refine .bind hR (.get hR) fun _ => ?_
      dsimp only
      split
      · exact .bind hR (.fail hR _) fun _ => .ite (.bind hR (.fail hR _) fun _ => put _ _) (put _ _)
      · exact .ite (.bind hR (.fail hR _) fun _ => put _ _) (put _ _)
  · exact .fail hR _

theorem registerPlugin_step (w : World) (c : Value) (isClass : Bool) (name : Option String) :
    w.Step (Exec.registerPlugin c isClass name w).world := by
  obtain ⟨same, known⟩ := registerPlugin_enrols c isClass name w
  exact ⟨fun r => router_congr same r ▸ .same, known⟩

theorem plug_step (byCode : w.NamesByCode plugin) (r : RouterRef) (config : Assoc Value)
    (logger : Option Logger) : w.Step (Exec.plug r plugin config logger w).world := by
  obtain ⟨s, refused⟩ | ⟨changed, -⟩ := Exec.plug_cases r plugin config logger w
  · rw [refused]
    exact ⟨fun _ => .same, fun _ known => known⟩
  · rw [changed]
    refine step_of_setRouter ?_
    obtain same | ⟨p, options, choice, plugged⟩ :=
      (w.router r).plug_outcome w.pluginClasses plugin config logger
    · rw [same]
      exact .same
    · obtain ⟨name, text, registered, new⟩ := Router.chosen_eq_ok choice
      have code : p.name = name := byCode name p.pluginClass text registered
      exact .plugged (code.symm ▸ new) plugged

/-- The worlds that calls make of a first one that register plugin classes, under whatever names,
register handlers, or attach plugins, each class by its code. They may succeed or fail. -/
inductive Plugs (w : World) : World → Prop
  | start : Plugs w w
  | registerPlugin {v : World} (before : Plugs w v) (c : Value) (isClass : Bool)
      (name : Option String) : Plugs w (Exec.registerPlugin c isClass name v).world
  | register {v : World} (before : Plugs w v) (r : RouterRef) (h : Handler) (error : Bool)
      (name : Value) (derived : Option String) (options : Assoc Value) :
      Plugs w (v.register r h error name derived options).2
  | plug {v : World} (before : Plugs w v) (r : RouterRef) {plugin : Value}
      (byCode : v.NamesByCode plugin) (config : Assoc Value) (logger : Option Logger) :
      Plugs w (Exec.plug r plugin config logger v).world

/-- What every step keeps is kept by all calls. -/
theorem Plugs.keep {P : World → Prop} (step : ∀ {u v : World}, u.Step v → P u → P v)
    (calls : w.Plugs v) (start : P w) : P v := by
  induction calls with
  | start => exact start
  | registerPlugin before c isClass name ih => exact step (registerPlugin_step _ c isClass name) ih
  | register before r h error name derived options ih => exact step (register_step ..) ih
  | plug before r byCode config logger ih => exact step (plug_step byCode r config logger) ih

/-- A router with an attached plugin that has what the entries ask it for. -/
structure Serves (w : World) (r : RouterRef) (p : Plugin) : Prop where
  attached : p ∈ (w.router r).plugins
  registered : p.name ∈ Assoc.names w.pluginClasses
  tier : (w.router r).tier ≠ .plain
  honours : ∀ e ∈ (w.router r).entries, (w.router r).Honours p.name e

theorem Step.serves {p : Plugin} (step : w.Step v) (serves : w.Serves r p) : v.Serves r p := by
  obtain ⟨tier, -, plugins⟩ := (step.routers r).keeps
  exact ⟨plugins.subset serves.attached, step.registry _ serves.registered, tier ▸ serves.tier,
    (step.routers r).honours serves.attached serves.honours⟩

end World

namespace Exec

open World

variable {v w u : World} {r : RouterRef} {name : String} {config : Assoc Value}
variable {logger : Option Logger} {reply : Reply}

theorem pluggable_eq_ok_iff (r : RouterRef) (place : String) (call : Call) (w : World) :
    pluggable r place call w = ⟨.done, .ok (w.router r), w⟩ ↔
      (w.router r).tier ≠ .plain ∧ (w.router r).IsOwn place := by
  rw [← Router.expect_eq_ok_iff _ place call]
  unfold pluggable
  simp only [bind_apply, router_apply, Ended.andThen_ok]
  cases (w.router r).expect place call with
  | error f => simp [lift]
  | ok _ => cases (w.router r).tier <;> simp [lift]

/-- A call that attaches a plugin is one on a router that can have plugins, and whose class leaves
that to it. -/
theorem plug_eq_ok {plugin : Value}
    (done : (Exec.plug r plugin config logger w).result = .ok reply) :
    (w.router r).tier ≠ .plain ∧ (w.router r).IsOwn "plug" ∧
      ∃ r', (w.router r).plug w.pluginClasses plugin config logger = (.ok (), r') ∧
        (Exec.plug r plugin config logger w).world = w.setRouter r r' := by
  obtain ⟨s, refused⟩ | ⟨changed, succeeds⟩ := plug_cases r plugin config logger w
  · rw [refused] at done
    cases done
  · have asked : ∃ call, pluggable r "plug" call w = ⟨.done, .ok (w.router r), w⟩ := by
      unfold Exec.plug at done
      rw [bind_apply] at done
      obtain ⟨s, refused⟩ | taken := pluggable_cases r "plug" (.ofCounts plugin.kindName 1
        (config.length + if logger.isSome then 1 else 0)) w
      · rw [refused] at done
        cases done
      · exact ⟨_, taken⟩
    obtain ⟨call, taken⟩ := asked
    obtain ⟨tier, own⟩ := (pluggable_eq_ok_iff ..).1 taken
    exact ⟨tier, own, _, Prod.ext (succeeds.1 ⟨reply, done⟩) rfl, changed⟩

theorem plug_of_attached {p : Plugin} (serves : w.Serves r p) (own : (w.router r).IsOwn "plug")
    (apart : Router.callArguments.any (Assoc.has config) = false) :
    Exec.plug r (.text p.name) config logger w =
      ⟨.done, .error (.failed (.alreadyAttached p.name)), w⟩ := by
  have refused : (w.router r).plug w.pluginClasses (.text p.name) config logger =
      (.error (.alreadyAttached p.name), w.router r) := by
    obtain ⟨q, found, -⟩ := Router.plugin?_of_mem serves.attached
    have known : ∃ c, Assoc.get? w.pluginClasses p.name = some c := by
      cases found : Assoc.get? w.pluginClasses p.name with
      | some c => exact ⟨c, rfl⟩
      | none => exact absurd serves.registered (Assoc.not_mem_names found)
    obtain ⟨c, known⟩ := known
    unfold Router.plug Router.pluginClass
    simp [apart, known, found]
  have taken : ∀ call, pluggable r "plug" call w = ⟨.done, .ok (w.router r), w⟩ :=
    fun call => (pluggable_eq_ok_iff ..).2 ⟨serves.tier, own⟩
  unfold Exec.plug
  rw [bind_apply, taken, Ended.andThen_ok]
  simp [bind_apply, settle, refused, lift, setRouter_router serves.tier]

end Exec

namespace World

variable {u v w : World} {r : RouterRef} {name : String} {config : Assoc Value}
variable {logger : Option Logger} {reply : Reply}

theorem plug_serves (distinct : (w.router r).keys.Nodup) (byCode : w.NamesByCode (.text name))
    (done : (Exec.plug r (.text name) config logger w).result = .ok reply) :
    ∃ p, p.name = name ∧ (Exec.plug r (.text name) config logger w).world.Serves r p := by
  obtain ⟨tier, -, r', plugged, changed⟩ := Exec.plug_eq_ok done
  obtain ⟨p, options, choice, plugins, honours⟩ := Router.plug_honours distinct plugged
  obtain ⟨_, ⟨⟩, registered, -⟩ := Router.chosen_eq_ok choice
  have code : p.name = name := byCode name p.pluginClass rfl registered
  have step := plug_step byCode r config logger
  refine ⟨p, code, ?_, ?_, (step.routers r).keeps.1 ▸ tier, ?_⟩
  · rw [changed, router_setRouter_self, plugins]
    exact List.mem_append_right _ (List.mem_singleton_self p)
  · rw [code]
    refine step.registry name ?_
    by_contra unknown
    rw [Assoc.get?_eq_none unknown] at registered
    cases registered
  · rw [changed, router_setRouter_self]
    exact honours

/-- A handler that is registered with options for a plugin that is attached has them. -/
theorem register_honours {p : Plugin} (serves : w.Serves r p) {h : Handler} {error : Bool}
    {given : Value} {derived : Option String} {options : Assoc Value}
    (done : (w.register r h error given derived options).1 = .ok ())
    (some : Options.takenBy p.name options ≠ []) :
    let r' := (w.register r h error given derived options).2.router r
    ∃ e flags, (w.router r).Gains [e] r' ∧ e.handler = h ∧
      Plugin.SetsFlags (Options.takenBy p.name options) flags ∧ ∀ option v,
        Assoc.get? (Plugin.overlaid (Options.takenBy p.name options) flags) option = .some v →
          Assoc.get? (r'.store.slot p.name e.key).config option = .some v := by
  obtain ⟨r', registered, answer⟩ := World.register_eq_ok done
  obtain ⟨e, gains, handler, asks⟩ :=
    Router.register_asks serves.tier serves.registered some registered
  have later := (w.register_step r h error given derived options).serves serves
  rw [answer] at later ⊢
  have honours := later.honours
  dsimp only at honours ⊢
  rw [router_setRouter_self] at honours ⊢
  obtain ⟨flags, sets, stored⟩ :=
    honours e (gains.mem_of_new (List.mem_singleton_self e)) options asks some
  exact ⟨e, flags, gains, handler, sets, stored⟩

/-- Once a plugin was attached, under the code of its class, no plugins of a router have one name,
whatever classes are registered under whatever names, whatever handlers are registered and whatever
other plugins are attached by their codes. The name is refused from then on, without a change; the
plugin answers to it; it has the options for it of all handlers that there are, and of any that are
registered afterwards; and what it has for a handler is what is read, if the name of the handler
counts as one. -/
theorem plug_addressable (orderly : ∀ q, (w.router q).Orderly) (before : w.Plugs v)
    (byCode : v.NamesByCode (.text name))
    (done : (Exec.plug r (.text name) config logger v).result = .ok reply)
    (later : (Exec.plug r (.text name) config logger v).world.Plugs u) :
    (∀ q, ((u.router q).plugins.map Plugin.name).Nodup) ∧
    (∀ config' logger', Router.callArguments.any (Assoc.has config') = false →
      Exec.plug r (.text name) config' logger' u =
        ⟨.done, .error (.failed (.alreadyAttached name)), u⟩) ∧
    ((u.router r).IsOwn "get_config" → ∃ common,
      Exec.getConfig r (.text name) .null u = ⟨.done, .ok (.value (.record common)), u⟩) ∧
    (∀ e ∈ (u.router r).entries, (u.router r).Honours name e) ∧
    (∀ h error given derived options,
      let answer := u.register r h error given derived options
      answer.1 = .ok () → Options.takenBy name options ≠ [] →
        ∃ e flags, (u.router r).Gains [e] (answer.2.router r) ∧ e.handler = h ∧
          Plugin.SetsFlags (Options.takenBy name options) flags ∧ ∀ option x,
            Assoc.get? (Plugin.overlaid (Options.takenBy name options) flags) option = some x →
              Assoc.get? ((answer.2.router r).store.slot name e.key).config option = some x) ∧
    ∀ key : Key, key.isTruthy = true → ∀ option x,
      Assoc.get? ((u.router r).store.slot name key).config option = some x →
        Assoc.get? ((u.router r).store.configuration name key) option = some x := by
  have kept : ∀ {w v : World}, w.Step v → (∀ q, (w.router q).Orderly) →
      ∀ q, (v.router q).Orderly := fun step all q => (step.routers q).orderly (all q)
  have orderly : ∀ q, (v.router q).Orderly := before.keep kept orderly
  obtain ⟨p, rfl, serves⟩ := plug_serves (orderly r).entries byCode done
  have step := plug_step byCode r config logger
  have serves : u.Serves r p := later.keep Step.serves serves
  have own : (u.router r).IsOwn "plug" := by
    have overrides : (u.router r).overrides = (v.router r).overrides :=
      later.keep (P := fun u => (u.router r).overrides = (v.router r).overrides)
        (fun step same => (step.routers r).keeps.2.1.trans same) (step.routers r).keeps.2.1
    have own := (Exec.plug_eq_ok done).2.1
    unfold Router.IsOwn at own ⊢
    rwa [overrides]
  have orderly : ∀ q, (u.router q).Orderly := later.keep kept (kept step orderly)
  exact ⟨fun q => (orderly q).plugins,
    fun config' logger' apart => Exec.plug_of_attached serves own apart,
    fun asks => ⟨_, Exec.getConfig_of_hashable asks serves.tier serves.attached rfl⟩,
    serves.honours,
    fun h error given derived options done some => register_honours serves done some,
    fun key truthy option x given => (orderly r).configs.get?_configuration truthy given⟩

/-- A new router, in a world where the counting class is registered under a second name. -/
def renamed : World :=
  (Exec.registerPlugin (.text "CountingPlugin") true (some "tally")
    (Small.world [Small.newRouter])).world

def plugging (name : String) : Exec Reply := Exec.plug 0 (.text name) [] none

def limitingReport (option : String) (w : World) : Except Failure Unit × World :=
  w.register 0 (.callback (Small.action [])) false (.text "report") none [(option, .int 5)]

theorem plugging_outcome :
    let e := plugging "counting" renamed
    (e.result.toOption.isSome, (limitingReport "counting_limit" e.world).1.toOption.isSome,
        ((limitingReport "counting_limit" e.world).2.router 0).keys) =
      (true, true, [.text "report"]) := by decide +kernel

/-- The plugin is attached once by its code, and has the option of the handler. -/
theorem plugging_addressable :
    let u := (limitingReport "counting_limit" (plugging "counting" renamed).world).2
    plugging "counting" u = ⟨.done, .error (.failed (.alreadyAttached "counting")), u⟩ ∧
      ((u.router 0).plugins.map Plugin.name).Nodup ∧
      Assoc.get? ((u.router 0).store.configuration "counting" (.text "report")) "limit" =
        some (.int 5) := by
  have orderly : ∀ q, ((Small.world [Small.newRouter]).router q).Orderly := by
    intro q
    match q with
    | 0 | _ + 1 => exact ⟨List.nodup_nil, List.nodup_nil, fun _ _ => .nil⟩
  have known : Assoc.get? renamed.pluginClasses "counting" = some .counting := by decide +kernel
  have byCode : renamed.NamesByCode (.text "counting") := by
    rintro _ c ⟨⟩ registered
    cases known.symm.trans registered
    rfl
  have before : (Small.world [Small.newRouter]).Plugs renamed := .registerPlugin .start ..
  obtain ⟨attached, registered, keys⟩ : _ ∧ _ ∧ _ := by simpa using plugging_outcome
  cases done : (plugging "counting" renamed).result with
  | error s =>
    rw [done] at attached
    cases attached
  | ok reply =>
    -- the option is stored when the handler is registered, and read in the world after that
    obtain ⟨-, -, -, -, stored, -⟩ := plug_addressable orderly before byCode done .start
    obtain ⟨distinct, refused, -, -, -, read⟩ := plug_addressable orderly before byCode done
      (.register .start 0 (.callback (Small.action [])) false (.text "report") none
        [("counting_limit", .int 5)])
    have given : Options.takenBy "counting" [("counting_limit", .int 5)] = [("limit", .int 5)] := by
      cbv
    have done :
        (limitingReport "counting_limit" (plugging "counting" renamed).world).1 = .ok () := by
      cases answer : (limitingReport "counting_limit" (plugging "counting" renamed).world).1 with
      | ok _ => rfl
      | error f =>
        rw [answer] at registered
        cases registered
    obtain ⟨e, flags, gains, -, sets, stored⟩ :=
      stored (.callback (Small.action [])) false (.text "report") none _ done (by rw [given]; simp)
    have key : e.key = .text "report" := by
      have listed := List.mem_map_of_mem (f := Entry.key)
        (gains.mem_of_new (List.mem_singleton_self e))
      exact List.mem_singleton.1 (keys ▸ listed)
    rw [given] at sets stored
    cases sets
    rw [key] at stored
    exact ⟨refused [] none rfl, distinct 0, read _ rfl _ _ (stored "limit" (.int 5) rfl)⟩

/-- Under its second name the class is attached twice. The name is no plugin's, so the plugin does
not answer to it, and an option for it goes nowhere. -/
theorem renamed_plugs_twice :
    let first := plugging "tally" renamed
    let second := plugging "tally" first.world
    let limited := limitingReport "tally_limit" first.world
    first.result.toOption.isSome = true ∧ second.result.toOption.isSome = true ∧
      (second.world.router 0).plugins.map Plugin.name = ["counting", "counting"] ∧
      (Exec.getConfig 0 (.text "tally") .null first.world).result.toOption.isNone = true ∧
      limited.1.toOption.isSome = true ∧
      (Assoc.get? ((limited.2.router 0).store.configuration "counting" (.text "report"))
        "limit").isNone = true := by
  decide +kernel

end World
end HandlerChains
