import HandlerChains.Proofs.Commands
import HandlerChains.Proofs.Router.FailedPlug
import HandlerChains.Proofs.Router.Naming

/-!
# Chains only grow

Whatever commands are performed, by scripts or by actions, a router keeps what was registered with
it: the entries of each chain stay in their places, under their names and with their handlers. More
may come after them, and plugins may be put around them.
-/

namespace HandlerChains

/-- An entry as it was registered, without what plugins made of it. -/
def Entry.bare (e : Entry) : Entry := { e.asCalled with layers := [] }

theorem Plugin.Fits.bare_eq {p : Plugin} {e e' : Entry} {result : Except Failure Unit}
    {ws : List Write} (fits : p.Fits e result ws e') : e'.bare = e.bare := by
  obtain ⟨metadata, told, rfl⟩ := fits.revised
  rfl

namespace Router

variable {r r' r'' : Router}

def registered (r : Router) (error : Bool) : List Entry := (r.chain error).map Entry.bare

theorem length_handlers_registered (r : Router) : (r.registered false).length = r.handlers.length :=
  List.length_map _

theorem length_errors_registered (r : Router) :
    (r.registered true).length = r.errorHandlers.length :=
  List.length_map _

def Grows (r r' : Router) : Prop := ∀ error, r.registered error <+: r'.registered error

namespace Grows

theorem refl (r : Router) : r.Grows r := fun _ => List.prefix_refl _

theorem trans (h : r.Grows r') (h' : r'.Grows r'') : r.Grows r'' :=
  fun error => (h error).trans (h' error)

theorem of_same (same : ∀ error, r'.registered error = r.registered error) : r.Grows r' := by
  intro error
  exists []
  rw [List.append_nil, same]

theorem of_empty (empty : ∀ error, r.chain error = []) : r.Grows r' := by
  intro error
  unfold registered
  rw [empty]
  exact List.nil_prefix

end Grows

theorem Gains.grows {new : List Entry} (gains : r.Gains new r') : r.Grows r' := by
  intro error
  unfold registered
  rw [gains.chain, List.map_append]
  apply List.prefix_append

theorem LeftByPlug.grows {chosen : Except Failure (Plugin × Assoc Value)}
    (left : r.LeftByPlug chosen r') : r.Grows r' := by
  have bare : Entry.bare = (fun e => { e with layers := [] }) ∘ Entry.asCalled := rfl
  obtain ⟨calls, errorCalls⟩ := left.asCalled
  apply Grows.of_same
  intro error
  unfold registered
  rw [bare, ← List.map_map, ← List.map_map]
  cases error with
  | false => exact congrArg _ calls
  | true => exact congrArg _ errorCalls

theorem attach_grows {p : Plugin} (done : r.attach p = (.ok (), r')) : r.Grows r' := by
  obtain ⟨-, ws, vs, hs, fs, left, right, rfl⟩ := attach_eq_ok_iff.1 done
  have layered : ∀ (es : List Entry) (layers : List Plugin),
      (es.map fun e => { e with layers }).map Entry.bare = es.map Entry.bare :=
    fun es layers => List.map_map
  apply Grows.of_same
  intro error
  cases error with
  | false => exact (layered hs _).trans (left.map_eq Plugin.Fits.bare_eq)
  | true => exact (layered fs _).trans (right.map_eq Plugin.Fits.bare_eq)

theorem plug_grows (r : Router) (registry : Assoc PluginClass) (plugin : Value)
    (config : Assoc Value) (logger : Option Logger) :
    r.Grows (r.plug registry plugin config logger).2 := by
  rcases answer : r.plug registry plugin config logger with ⟨f | _, r'⟩
  · have left : r.LeftByPlug (r.chosen registry plugin config logger)
        (r.plug registry plugin config logger).2 := plug_failed (f := f) (by rw [answer])
    -- the plugin may be left attached, but no entry is taken away
    rw [answer] at left
    exact left.grows
  · obtain ⟨p, options, cs, -, -, -, attached⟩ := plug_eq_ok_iff.1 answer
    exact fun error => attach_grows attached error

end Router

namespace World

variable {w w' w'' : World} {r : RouterRef}

def Grows (w w' : World) : Prop := ∀ r, (w.router r).Grows (w'.router r)

namespace Grows

theorem refl (w : World) : w.Grows w := fun _ => .refl _

theorem trans (h : w.Grows w') (h' : w'.Grows w'') : w.Grows w'' := fun r => (h r).trans (h' r)

theorem of_routers (same : w'.routers = w.routers) : w.Grows w' := by
  intro r
  rw [router_congr same]
  apply Router.Grows.refl

theorem setRouter {target : Router} (h : (w.router r).Grows target) :
    w.Grows (w.setRouter r target) := by
  intro s
  by_cases here : s = r
  · rw [here, router_setRouter_self]
    exact h
  · rw [router_setRouter_of_ne w target here]
    apply Router.Grows.refl

end Grows

theorem register_grows (w : World) (self : RouterRef) (h : Handler) (error : Bool) (name : Value)
    (derived : Option String) (options : Assoc Value) :
    w.Grows (w.register self h error name derived options).2 := by
  obtain ⟨others, own⟩ := w.register_gains self h error name derived options
  intro r
  by_cases here : r = self
  · rw [here]
    obtain ⟨f, -, gains⟩ | ⟨-, e, gains, -⟩ := own
    · exact gains.grows
    · exact gains.grows
  · rw [others r here]
    apply Router.Grows.refl

end World

namespace Exec

/-- All routers keep what was registered with them, whatever an execution goes through. -/
def Growth (w : World) (_ : Course) (w' : World) : Prop := w.Grows w'

theorem growth_composes : Composes Growth where
  done w := .refl w
  append := .trans

namespace Growth

theorem steps : Dispatch.SideInvariant Growth where
  toComposes := growth_composes
  event _ _ := .of_routers rfl
  line _ _ := .of_routers rfl
  modules _ _ := .of_routers rfl
  store _ _ _ := .setRouter (.refl _)

theorem invariant {calls : Calls} (grow : calls.Respect Growth) (c : ContextRef) :
    Dispatch.Invariant calls c Growth where
  toSideInvariant := steps
  context _ _ _ := .of_routers rfl
  run _ _ _ _ _ h := h
  entry _ _ _ _ _ _ _ h := h
  handler _ _ _ _ _ h := h
  action _ u := steps.take (fun f => grow.act f c) u
  predicate p := grow.ask p c
  override _ _ f := grow.act f c
  recovery _ _ _ _ _ _ h := h

/-- Whatever command is performed and however it ends, all routers keep what was registered with
them. What lies outside all routers has nothing registered, so a new router can be put there. -/
theorem commands : CommandInvariant Growth where
  toComposes := growth_composes
  aside same _ := .of_routers same
  store := steps.store
  add w target := by
    apply World.Grows.setRouter
    apply Router.Grows.of_empty
    intro error
    have outside : w.router w.routers.length = default := by
      simp [World.router, Cells.read]
    rw [outside]
    cases error <;> rfl
  register := World.register_grows
  plug w r registry plugin config logger :=
    .setRouter ((w.router r).plug_grows registry plugin config logger)
  debugLine := steps.debugLine
  override _ _ _ _ _ _ h := h
  run grow depth r c := (invariant grow c).respects_run depth r
  handle grow _ inner h c := (invariant grow c).handle (fun r => inner r c) h

end Growth
end Exec
end HandlerChains
