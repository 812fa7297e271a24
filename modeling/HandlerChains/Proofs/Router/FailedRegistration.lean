import HandlerChains.Example.Routers
import HandlerChains.Proofs.Router.Attaching
import HandlerChains.Proofs.Router.Calls
import Mathlib

/-!
# What a failed registration leaves

A registration that fails adds no entry, takes no name and changes no entry and no plugin. What the
plugins that had fitted the entry wrote for it before another one refused it stays in the store,
though, under a name that no entry has.
-/

namespace HandlerChains

/-- A step that makes the same writes in every store, all of them for some plugins and under the key
of the entry, which keeps it. -/
def Fitting.WritesFor {α : Type} (plugins : List String) (x : Fitting α) : Prop :=
  ∀ e, ∃ result ws e', x.ComesTo e result ws e' ∧ e'.key = e.key ∧
    ∀ w ∈ ws, w.plugin ∈ plugins ∧ w.target = e.key

namespace Fitting.WritesFor

variable {α β : Type} {plugins : List String}

theorem lift (x : Except Failure α) : WritesFor plugins (Fitting.lift x) :=
  fun e => ⟨x, [], e, .lift x e, rfl, by simp⟩

theorem bind {x : Fitting α} {f : α → Fitting β} (hx : WritesFor plugins x)
    (hf : ∀ a, WritesFor plugins (f a)) : WritesFor plugins (x >>= f) := by
  intro e
  obtain ⟨result, ws, e', first, key, places⟩ := hx e
  cases result with
  | error g => exact ⟨.error g, ws, e', first.bind_error, key, places⟩
  | ok a =>
    obtain ⟨result, vs, e'', next, key', places'⟩ := hf a e'
    refine ⟨result, ws ++ vs, e'', first.bind next, key'.trans key, ?_⟩
    intro w hw
    rcases List.mem_append.1 hw with now | later
    · exact places w now
    · obtain ⟨plugin, target⟩ := places' w later
      exact ⟨plugin, target.trans key⟩

theorem fit {p : Plugin} (listed : p.name ∈ plugins) (r : Router) :
    WritesFor plugins (p.fit r) := by
  intro e
  obtain ⟨result, ws, e', fits⟩ := p.exists_fits e
  refine ⟨result, ws, e', fits.comesTo r, fits.key_eq, fun w hw => ?_⟩
  obtain ⟨plugin, target⟩ := fits.places w hw
  exact ⟨plugin ▸ listed, target⟩

end Fitting.WritesFor

namespace Router

variable {r r' : Router} {key : Key}

theorem fitAll_writesFor (r : Router) (found : Except Failure Unit) :
    (r.fitAll found).WritesFor (r.plugins.map Plugin.name) := by
  have each : ∀ ps : List Plugin, (∀ p ∈ ps, p ∈ r.plugins) →
      Fitting.WritesFor (r.plugins.map Plugin.name) (ps.forM r.fit) := by
    intro ps attached
    induction ps with
    | nil => exact .lift (.ok ())
    | cons p ps ih =>
      have listed : p.name ∈ r.plugins.map Plugin.name :=
        List.mem_map_of_mem (attached p List.mem_cons_self)
      exact .bind (.bind (.lift _) fun _ => .fit listed r)
        fun _ => ih fun q hq => attached q (List.mem_cons_of_mem p hq)
  exact .bind (.lift _) fun _ => .bind (each r.plugins fun _ h => h) fun _ => .lift _

/-- A router that differs from another one at most in what its store has under one key for plugins
that are attached. What was set there while running is the same. -/
structure KeptBut (r : Router) (key : Key) (r' : Router) : Prop where
  rest : r' = { r with store := r'.store }
  elsewhere : ∀ plugin target, plugin ∉ r.plugins.map Plugin.name ∨ target ≠ key →
    r'.store.slot? plugin target = r.store.slot? plugin target
  data : ∀ plugin, (r'.store.slot plugin key).data = (r.store.slot plugin key).data
  bare : r.plugins = [] → r' = r

namespace KeptBut

theorem of_writes {ws : List Write}
    (places : ∀ w ∈ ws, w.plugin ∈ r.plugins.map Plugin.name ∧ w.target = key) :
    r.KeptBut key { r with store := r.store.writeEach ws } where
  rest := rfl
  elsewhere plugin target away := by
    rw [PluginStore.slot?_writeEach, Write.configsAt_eq_nil]
    · rfl
    · intro w hw same here
      obtain ⟨attached, there⟩ := places w hw
      rcases away with detached | apart
      · exact detached (same ▸ attached)
      · exact apart (here.symm.trans there)
  data plugin := r.store.data_writeEach ws plugin key
  bare none := by
    have nothing : ws = [] := by
      refine List.eq_nil_iff_forall_not_mem.2 fun w hw => ?_
      have attached := (places w hw).1
      rw [none] at attached
      cases attached
    rw [nothing]
    rfl

theorem says_same (kept : r.KeptBut key r') (one : key ≠ everyHandler) {handler : Key}
    (other : handler ≠ key) (plugin : String) :
    r'.store.configuration plugin handler = r.store.configuration plugin handler ∧
      r'.store.enabled plugin handler = r.store.enabled plugin handler := by
  have same : ∀ target, target ≠ key →
      r'.store.slot plugin target = r.store.slot plugin target := by
    intro target apart
    rw [PluginStore.slot_eq, kept.elsewhere plugin target (.inr apart)]
    rfl
  have common := same everyHandler one.symm
  have own := same handler other
  constructor
  · simp only [PluginStore.configuration, common, own]
  · simp only [PluginStore.enabled, common, own]

end KeptBut

/-- A registration that fails changes nothing before the entry has a name of its own, and afterwards
only what plugins have in the store under that name. -/
theorem register_failed {codes : List String} {h : Handler} {error : Bool} {name : Value}
    {derived : Except Failure Value} {found : Except Failure Unit} {options : Assoc Value}
    {f : Failure} (failed : (r.register codes h error name derived found options).1 = .error f) :
    (r.register codes h error name derived found options).2 = r ∨
      ∃ key, key ∉ r.keys ∧
        r.KeptBut key (r.register codes h error name derived found options).2 := by
  unfold register at failed ⊢
  cases made : r.newEntry codes h error name derived options with
  | error g => exact .inl rfl
  | ok e =>
    rw [made] at failed
    dsimp only at failed ⊢
    obtain ⟨free, -⟩ := newEntry_fresh made
    obtain ⟨result, ws, e', comesTo, -, places⟩ := r.fitAll_writesFor found e
    unfold addEntry at failed ⊢
    rw [comesTo] at failed ⊢
    cases result with
    | ok _ => cases failed
    | error g => exact .inr ⟨e.key, free, .of_writes places⟩

end Router

namespace World

variable {w : World} {self : RouterRef}

theorem register_failed {h : Handler} {error : Bool} {name : Value} {derived : Option String}
    {options : Assoc Value} {f : Failure}
    (failed : (w.register self h error name derived options).1 = .error f) :
    let after := (w.register self h error name derived options).2
    (∀ q, q ≠ self → after.router q = w.router q) ∧
      (after.router self = w.router self ∨
        ∃ key, key ∉ (w.router self).keys ∧ (w.router self).KeptBut key (after.router self)) := by
  dsimp only
  cases passes : w.expectNoCycle self h with
  | error g =>
    rw [w.register_of_refused self h error name derived options passes]
    exact ⟨fun _ _ => rfl, .inl rfl⟩
  | ok _ =>
    rw [w.register_of_passes self h error name derived options passes] at failed ⊢
    dsimp only at failed ⊢
    refine ⟨fun q apart => router_setRouter_of_ne w _ apart, ?_⟩
    rw [router_setRouter_self]
    exact Router.register_failed failed

end World

namespace Exec

variable {w : World} {r : RouterRef} {reg : Registration}

/-- A registration call that fails leaves all routers as they were, but for what the plugins of the
router that it was made on have in its store under one name, which no entry of the router has. -/
theorem register_failed_keeps {s : Stop} (failed : (Exec.register r reg w).result = .error s)
    (inTime : ¬ reg.FailsLate) :
    let after := (Exec.register r reg w).world
    (∀ q, q ≠ r → after.router q = w.router q) ∧
      (after.router r = w.router r ∨ ∃ key, key ∉ (w.router r).keys ∧
        (w.router r).KeptBut key (after.router r) ∧
        (key ≠ everyHandler → ∀ e ∈ (w.router r).entries, ∀ plugin,
          (after.router r).store.configuration plugin e.key =
            (w.router r).store.configuration plugin e.key ∧
          (after.router r).store.enabled plugin e.key =
            (w.router r).store.enabled plugin e.key)) := by
  dsimp only
  cases Registers.register r reg w with
  | aside same _ => exact ⟨fun q _ => World.router_congr same q, .inl (World.router_congr same r)⟩
  | handed v h error name derived options same changed _ fails =>
    obtain ⟨f, refused⟩ := (fails s failed).resolve_left inTime
    obtain ⟨others, self⟩ := World.register_failed refused
    rw [World.router_congr changed r]
    refine ⟨fun q apart => ?_, ?_⟩
    · rw [World.router_congr changed q, others q apart, World.router_congr same q]
    · rw [World.router_congr same r] at self
      refine self.imp_right fun ⟨key, free, kept⟩ => ⟨key, free, kept, fun one e mem plugin => ?_⟩
      refine kept.says_same one (fun taken => free ?_) plugin
      exact taken ▸ List.mem_map_of_mem mem

def countingAndGate : World :=
  (do let _ ← plug 0 (.text "counting") [] none
      plug 0 (.text "gate") [] none : Exec Reply) (Small.world [Small.newRouter]) |>.world

def reporting (options : Assoc Value) : Registration :=
  .mk (.action .callback (.function "f" [] .null)) (("name", .text "report") :: options) false

/-- Options of which the first plugin accepts one and the second one refuses the other. -/
def halfAccepted : Assoc Value := [("counting_limit", .int 5), ("gate_force", .int 3)]

def countingOfReport (w : World) : Assoc Value :=
  (w.router 0).store.configuration "counting" (.text "report")

theorem halfAccepted_outcome :
    let failed := register 0 (reporting halfAccepted) countingAndGate
    let next := register 0 (reporting []) failed.world
    (failed.result.toOption.isNone, (countingAndGate.router 0).handlers.length,
        countingOfReport countingAndGate, countingOfReport failed.world,
        countingOfReport next.world) =
      (true, 0, [("enabled", .bool true)], [("enabled", .bool true), ("limit", .int 5)],
        [("enabled", .bool true), ("limit", .int 5)]) := by cbv

theorem halfAccepted_keeps :
    let failed := register 0 (reporting halfAccepted) countingAndGate
    failed.result.toOption = none ∧ (failed.world.router 0).handlers = [] := by
  obtain ⟨answer, handlers, -⟩ : _ ∧ _ ∧ _ := by simpa using halfAccepted_outcome
  refine ⟨answer, ?_⟩
  cases failed : (register 0 (reporting halfAccepted) countingAndGate).result with
  | ok reply =>
    rw [failed] at answer
    cases answer
  | error s =>
    obtain ⟨-, same | ⟨key, -, kept, -⟩⟩ := register_failed_keeps failed (by rintro ⟨⟨⟩, -⟩)
    · rw [same]
      exact handlers
    · rw [kept.rest]
      exact handlers

/-- The options that the first plugin accepted stay in the store, and a handler that takes the name
later has them. -/
theorem halfAccepted_leaves_limit :
    let failed := register 0 (reporting halfAccepted) countingAndGate
    failed.result.toOption = none ∧
      countingOfReport failed.world ≠ countingOfReport countingAndGate ∧
      countingOfReport (register 0 (reporting []) failed.world).world =
        [("enabled", .bool true), ("limit", .int 5)] := by
  obtain ⟨answer, -, before, after, next⟩ : _ ∧ _ ∧ _ ∧ _ ∧ _ := by
    simpa using halfAccepted_outcome
  refine ⟨answer, ?_, next⟩
  simp [before, after]

end Exec
end HandlerChains
