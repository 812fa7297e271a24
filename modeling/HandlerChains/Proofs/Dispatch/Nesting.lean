import HandlerChains.Proofs.Dispatch.Places
import HandlerChains.Proofs.Pattern.Starts
import HandlerChains.Proofs.Tables
import Mathlib

/-!
# What is seen under nested mounts

Each mount takes the start of the route that its pattern matches and writes its captures over the
parameters. So under nested mounts an action finds the route that is left behind all those starts,
and parameters in which the captures of every level stand in the order in which their names first
came up, each with the value from the innermost level that captured it.
-/

namespace HandlerChains

/-- Patterns take the start of a route one after another, each what it matches of what is left. -/
inductive Pattern.Consumes : List Pattern → (route : String) → (starts : List String) →
    (captures : List Params) → (rest : String) → Prop where
  | nil {route} : Consumes [] route [] [] route
  | cons {p patterns start left captured starts captures rest} :
      p.matchStart? (start ++ left) = some (captured, left) →
      Consumes patterns left starts captures rest →
      Consumes (p :: patterns) (start ++ left) (start :: starts) (captured :: captures) rest

theorem Pattern.Consumes.route_eq {patterns : List Pattern} {route rest : String}
    {starts : List String} {captures : List Params}
    (h : Consumes patterns route starts captures rest) : route = String.join starts ++ rest := by
  induction h with
  | nil => simp
  | cons _ _ ih => rw [String.join_cons, String.append_assoc, ← ih]

/-- Parameters with captures written over them level by level. Names stay where they are, new ones
come behind them in the order of their first captures; a value is the one captured last, and a name
that no level has captured keeps the value it had. -/
structure Overlaid (initial : Assoc Value) (captures : List Params) (ps : Assoc Value) : Prop where
  names : Assoc.names ps = Assoc.names initial ++
    ((Assoc.names captures.flatten).filter fun name => name ∉ Assoc.names initial).eraseDups
  values : ∀ name, Assoc.get? ps name =
    ((Assoc.get? captures.flatten.reverse name).map .text).or (Assoc.get? initial name)

theorem Params.names_values (captured : Params) :
    Assoc.names captured.values = Assoc.names captured := by
  simp [Params.values, Assoc.names, Function.comp_def]

theorem Params.get?_values (captured : Params) (name : String) :
    Assoc.get? captured.values name = (Assoc.get? captured name).map .text := by
  induction captured with
  | nil => rfl
  | cons row rest ih =>
    obtain ⟨k, v⟩ := row
    by_cases here : k = name
    · simp [Params.values, Assoc.get?, here]
    · simpa [Params.values, Assoc.get?, here] using ih

theorem overlaid_merge (initial : Assoc Value) (captures : List Params) :
    Overlaid initial captures (Assoc.merge initial (Params.values captures.flatten)) where
  names := by rw [Assoc.names_merge, Params.names_values]
  values name := by
    have reversed : (Params.values captures.flatten).reverse =
        Params.values captures.flatten.reverse := by
      simp [Params.values]
    rw [Assoc.get?_merge_last, reversed, Params.get?_values]

namespace Handler

def mountPattern? : Handler → Option Pattern
  | mount p _ => some p
  | _ => none

/-- An action is registered under a pattern that has to match all that is left of the route. -/
inductive Serves (q : Pattern) (a : Action) : Handler → Prop where
  | route : Serves q a (.route q a)
  | endpoint {method} : Serves q a (.endpoint method q a)

theorem Serves.child?_eq {q : Pattern} {a : Action} {h : Handler} (serves : h.Serves q a) :
    h.child? = none := by
  cases serves <;> rfl

theorem Serves.mountPattern?_eq {q : Pattern} {a : Action} {h : Handler} (serves : h.Serves q a) :
    h.mountPattern? = none := by
  cases serves <;> rfl

theorem Serves.opens {q : Pattern} {a : Action} {h : Handler} {here there : Place}
    (serves : h.Serves q a) (opens : h.Opens here there) :
    ∃ route captured, here.route = .text route ∧ q.matchWhole? route = some captured ∧
      there = here.capture captured := by
  cases serves with
  | route =>
    cases opens with
    | route at_ found => exact ⟨_, _, at_, found, rfl⟩
    | other plain => cases plain
  | endpoint =>
    cases opens with
    | endpoint at_ found => exact ⟨_, _, at_, found, rfl⟩
    | other plain => cases plain

end Handler

/-- The patterns of the mounts around a passage, the outermost one first. -/
def Site.mounts (s : Site) : List Pattern := s.around.filterMap Handler.mountPattern?

/-- From the place outside all mounts to the one of an action. -/
theorem Enters.consumes {around : List Handler} {here there : Place} {q : Pattern} {a : Action}
    {h : Handler} (enters : Enters around here there) (last : around.getLast? = some h)
    (serves : h.Serves q a) :
    ∃ route starts captures rest captured, here.route = .text route ∧
      Pattern.Consumes (around.filterMap Handler.mountPattern?) route starts captures rest ∧
      q.matchWhole? rest = some captured ∧
      there = ⟨.text rest, some (Assoc.merge (here.parameters.getD [])
        (Params.values (captures ++ [captured]).flatten))⟩ := by
  induction enters with
  | nil => cases last
  | @leaf g here there _ opens =>
    obtain rfl : g = h := by simpa using last
    obtain ⟨route, captured, at_, found, rfl⟩ := serves.opens opens
    refine ⟨route, [], [], route, captured, at_, ?_, found, ?_⟩
    · simpa [serves.mountPattern?_eq] using Pattern.Consumes.nil
    · simp [Place.capture, at_]
  | @inside g r around here next there child opens enters ih =>
    have deeper : around.getLast? = some h := by
      cases around with
      | nil =>
        obtain rfl : g = h := by simpa using last
        rw [serves.child?_eq] at child
        cases child
      | cons first others => simpa using last
    obtain ⟨route, starts, captures, rest, captured, at_, consumes, found, rfl⟩ := ih deeper
    cases opens with
    | @mount p child outer more left _ here' cut =>
      obtain rfl : left = route := by simpa using at_
      obtain ⟨start, rfl, -⟩ := (p.matchStart?_agrees outer).1 more left cut
      refine ⟨_, _, _, rest, captured, here', .cons cut consumes, found, ?_⟩
      simp [Place.capture, Params.values_append, Assoc.merge_append]
    | route => cases child
    | endpoint => cases child
    | other plain =>
      have unmounted : g.mountPattern? = none := by
        cases g <;> first | rfl | cases plain
      refine ⟨route, starts, captures, rest, captured, at_, ?_, found, rfl⟩
      simpa [unmounted] using consumes

namespace Dispatch

/-- The action of a route or an endpoint under nested mounts finds the route that the mounts leave,
each having taken the start that its pattern matches, and the parameters from before with the
captures of the mounts and its own written over them. What declined before at any level leaves no
trace, as long as nothing but patterns changes the place in the route. Only where something failed,
so that error handlers are called, is more than that to be found. -/
theorem run_sees_route_behind_mounts (calls : Calls) (depth : Nat) (r : RouterRef) (c : ContextRef)
    (w : World)
    (keeps : ∀ s ∈ (run calls depth r c w).course.sites, s.passage.KeepsPlace c) :
    ∀ s ∈ (run calls depth r c w).course.sites, ∀ a q h, s.passage.stage = .action a →
      s.around.getLast? = some h → h.Serves q a →
      let seen := s.passage.before.context c
      ∃ route starts captures rest captured ps, (w.context c).route = .text route ∧
        Pattern.Consumes s.mounts route starts captures rest ∧
        route = String.join starts ++ rest ∧ seen.route = .text rest ∧
        q.matchWhole? rest = some captured ∧ seen.parameters = some ps ∧
        Overlaid ((w.context c).parameters.getD []) (captures ++ [captured]) ps := by
  intro s hs a q h _ last serves seen
  have enters := (run_tracks calls depth r c w keeps).sites s hs
  obtain ⟨route, starts, captures, rest, captured, at_, consumes, found, there⟩ :=
    enters.consumes last serves
  refine ⟨route, starts, captures, rest, captured, _, at_, consumes, consumes.route_eq, ?_, found,
    ?_, overlaid_merge _ _⟩
  · exact congrArg Place.route there
  · exact congrArg Place.parameters there

def slashAndSegment (name : String) : Pattern :=
  ⟨"/:" ++ name, [name], .literal '/' (.segment name true .done)⟩

def versionAndSegment : Pattern :=
  ⟨"(/v:n)/:x", ["n", "x"], .optional (.literal '/' (.literal 'v' (.segment "n" false .done)))
    (.literal '/' (.segment "x" true .done))⟩

/-- A route behind two mounts that capture the same name, the second one without a version. A mount
before them is entered in vain. -/
def behindMounts : World :=
  Small.world
    [Small.router [.mount (slashAndSegment "x") 3, .mount (slashAndSegment "x") 1],
      Small.router [.mount versionAndSegment 2],
      Small.router [.route (slashAndSegment "y") (Small.action [])],
      Small.router [.route (Small.letter 'z') (Small.action [])]]
    { route := .text "/1/2/3", parameters := some [("n", .int 7), ("y", .text "old")] }

theorem keepsPlace_behindMounts :
    ∀ s ∈ (run Small.calls 3 0 0 behindMounts).course.sites, s.passage.KeepsPlace 0 :=
  List.forall_iff_forall_mem.1 (by cbv)

theorem stage_behindMounts : ((run Small.calls 3 0 0 behindMounts).course.sites.getLast?.map
    fun s => s.passage.stage) = some (.action (Small.action [])) := by cbv

theorem around_behindMounts : ((run Small.calls 3 0 0 behindMounts).course.sites.getLast?.map
    fun s => s.around.getLast?) =
      some (some (.route (slashAndSegment "y") (Small.action []))) := by cbv

theorem run_behindMounts_sees_rest :
    (∀ s ∈ (run Small.calls 3 0 0 behindMounts).course.sites, s.passage.KeepsPlace 0) ∧
      ∃ s ∈ (run Small.calls 3 0 0 behindMounts).course.sites,
        s.passage.stage = .action (Small.action []) ∧
        s.around.getLast? = some (.route (slashAndSegment "y") (Small.action [])) ∧
        ∃ route starts captures rest captured ps, (behindMounts.context 0).route = .text route ∧
          Pattern.Consumes s.mounts route starts captures rest ∧
          route = String.join starts ++ rest ∧
          (s.passage.before.context 0).route = .text rest ∧
          (slashAndSegment "y").matchWhole? rest = some captured ∧
          (s.passage.before.context 0).parameters = some ps ∧
          Overlaid [("n", .int 7), ("y", .text "old")] (captures ++ [captured]) ps := by
  obtain ⟨s, last, called⟩ := Option.map_eq_some_iff.1 stage_behindMounts
  have inside : s.around.getLast? = some (.route (slashAndSegment "y") (Small.action [])) := by
    have around := around_behindMounts
    rw [last] at around
    exact Option.some.inj around
  have mem := List.mem_of_getLast? last
  exact ⟨keepsPlace_behindMounts, s, mem, called, inside,
    run_sees_route_behind_mounts Small.calls 3 0 0 behindMounts keepsPlace_behindMounts s mem _ _ _
      called inside .route⟩

/-- The version that was left out keeps the value from outside, and the inner mount wins. -/
example : ((run Small.calls 3 0 0 behindMounts).course.sites.getLast?.map fun s =>
    (s.passage.before.context 0).parameters.map fun ps => ps.map fun (k, v) => (k, v.literal)) =
      some (some [("n", "7"), ("y", "'3'"), ("x", "'2'")]) := by decide +kernel

end Dispatch
end HandlerChains
