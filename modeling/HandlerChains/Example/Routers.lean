import HandlerChains.Perform

/-!
# Small routers

Routers, actions and worlds without names, plugins and metadata, for cases of general results.
-/

namespace HandlerChains
namespace Small

def action (body : List Instruction) : Action := .callable ⟨0, "", none, body, .null⟩

def entry (error : Bool) (h : Handler) : Entry := { name := .null, handler := h, error }

def router (handlers : List Handler) (errorHandlers : List Handler := []) : Router :=
  { className := "Router", tier := .plain
    handlers := handlers.map (entry false)
    errorHandlers := errorHandlers.map (entry true) }

/-- A router that has nothing yet and can have plugins. -/
def newRouter : Router := { className := "Router", tier := .pluggable }

def world (routers : List Router) (ctx : Context := {}) : World := { contexts := [ctx], routers }

def letter (c : Char) : Pattern := ⟨String.singleton c, [], .literal c .done⟩

/-- Calls of actions that perform no commands. -/
def calls : Calls := Exec.callsWithin 1

theorem agree_of_pairs {α β : Type} {f g : α → β} {xs : List α} {ys : List β}
    (h : xs.map (fun x => (f x, g x)) = ys.map fun y => (y, y)) : ∀ x ∈ xs, f x = g x := by
  intro x hx
  have seen : (f x, g x) ∈ ys.map fun y => (y, y) := h ▸ List.mem_map_of_mem hx
  obtain ⟨y, -, hy⟩ := List.mem_map.1 seen
  obtain ⟨hf, hg⟩ := Prod.mk.inj hy
  exact hf.symm.trans hg

end Small
end HandlerChains
