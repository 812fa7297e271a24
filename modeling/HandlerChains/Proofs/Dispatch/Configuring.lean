import HandlerChains.Example.Routers
import HandlerChains.Proofs.Declared.Construction
import HandlerChains.Proofs.Dispatch.Layers
import HandlerChains.Proofs.Router.Growing
import HandlerChains.Proofs.Site.Config

/-!
# How applications find the route of a request

The first handler of an application turns the path of a request into a route: what lies below the
base path that the application was given, or else below that of the site. It declines, and the
handlers after it go on with the route; or the path lies outside, and the error handlers are tried
at once. The links that a site makes are the paths that lead back to their routes.
-/

namespace HandlerChains

namespace Exec

variable {w w' : World}

theorem makeRouter_returns {id className : String} {name description : Value}
    {basePath : Option Value} {cls : RouterClass}
    (known : Assoc.get? w.classes className = some cls) (application : cls.tier = .application)
    (returns : Returns (makeRouter id className name description basePath) w () w') :
    ∃ base? e more, ConfiguredBase (basePath.getD .null) base? ∧
      (w'.router w.routers.length).registered false = e :: more ∧
      e.handler = .configure base? := by
  obtain ⟨own, marked, setUp, ⟨gains, -⟩, begins, -⟩ := makeRouter_takes answersAdd known returns
  rw [application] at begins
  cases begins with
  | @application base? e configured handler chain =>
    have first : (w'.router w.routers.length).chain false =
        e :: (marked.flatten ++ setUp).filter fun e => e.error == false := by
      rw [gains.chain]
      simp [blankRouter, Router.chain, chain]
    exact ⟨base?, e.bare, _, configured, congrArg (List.map Entry.bare) first, handler⟩

/-- However an application has grown since, its handlers begin with that one. -/
theorem makeRouter_begins {id className : String} {name description : Value}
    {basePath : Option Value} {cls : RouterClass}
    (known : Assoc.get? w.classes className = some cls) (application : cls.tier = .application)
    (made : (makeRouter id className name description basePath w).result = .ok ())
    (later : (makeRouter id className name description basePath w).world.Grows w') :
    ∃ base? e rest, ConfiguredBase (basePath.getD .null) base? ∧
      (w'.router w.routers.length).handlers = e :: rest ∧ e.handler = .configure base? := by
  obtain ⟨base?, d, more, configured, begins, handler⟩ :=
    makeRouter_returns known application (.of_result made)
  obtain ⟨others, grown⟩ := later w.routers.length false
  rw [begins] at grown
  obtain ⟨e, rest, handlers, bare, -⟩ := List.map_eq_cons_iff.1 grown.symm
  exact ⟨base?, e, rest, configured, handlers, (congrArg Entry.handler bare).trans handler⟩

end Exec

namespace Dispatch

open Exec

/-- The base path of a request: the one that its application was given, or else that of the site
among what it is dispatched with. -/
inductive BaseOf (given : Value) (config : Option Config) (base : String) : Prop
  | given (present : given ≠ .null) (normal : Site.basePathOf given = .ok base)
  | site (absent : given = .null) (site : SiteConfig) (here : config = some (.site site))
      (made : site.Made) (path : site.basePath = .ok base)

section

variable {given : Value} {base path : String} {base? : Option String}
variable {calls : Calls} {inner : RouterRef → ContextRef → Exec Value} {c : ContextRef}
variable {r : RouterRef} {w w' : World}

theorem BaseOf.wraps {config : Option Config} (applies : BaseOf given config base) :
    ∃ s, base = Site.wrapPath s := by
  cases applies with
  | given present normal =>
    unfold Site.basePathOf at normal
    split at normal
    · cases normal
      exact ⟨_, rfl⟩
    · split at normal
      · cases normal
      · cases normal
        exact ⟨_, rfl⟩
  | site absent site here made path =>
    obtain ⟨s, -, wrapped, -⟩ := made.paths
    exact ⟨s, Except.ok.inj (path.symm.trans wrapped)⟩

theorem BaseOf.basePath_apply (applies : BaseOf given (w.context c).config base)
    (configured : ConfiguredBase given base?) : basePath base? c w = ⟨.done, .ok base, w⟩ := by
  obtain ⟨s, wraps⟩ := applies.wraps
  cases applies with
  | given present normal =>
    cases configured with
    | unset => exact absurd rfl present
    | fixed _ normal' =>
      cases normal.symm.trans normal'
      rfl
  | site absent site here made path =>
    cases configured with
    | fixed present _ => exact absurd absent present
    | unset =>
      have found : Context.configBase (.site site) = .ok base := by
        have eq : Context.configBase (.site site) = do return Site.wrapPath (← site.basePath) := rfl
        rw [eq, path, wraps]
        exact congrArg Except.ok (Site.wrapPath_wrapPath s)
      simp [basePath, bind_apply, here, Context.demand, lift, found]

/-- A path below the base path gives the context its route; any other is refused. -/
theorem handleConfigure_apply (applies : BaseOf given (w.context c).config base)
    (configured : ConfiguredBase given base?) (asked : (w.context c).path = .text path) :
    let ctx := { w.context c with route := .null, methods := .list [] }
    handleConfigure base? c w =
      match Site.routeBelow? base path with
      | some route => ⟨.done, .ok (.bool false), w.setContext c { ctx with route := .text route }⟩
      | none => ⟨.done, .error (.failed (.outsideBase path base)), w.setContext c ctx⟩ := by
  intro ctx
  have applies : BaseOf given ((w.setContext c ctx).context c).config base := by
    rw [World.context_setContext_self]
    exact applies
  have read := applies.basePath_apply configured
  have text : Context.demandText .path "startswith" (w.context c).path = .ok path := by
    rw [asked]
    rfl
  simp only [handleConfigure, bind_apply, changeContext_apply, Ended.andThen_ok, Course.done_append,
    read, context_apply, World.context_setContext_self, text, lift, pure_apply, ctx]
  cases Site.routeBelow? base path <;> simp [bind_apply]

theorem callEntry_configure {e : Entry} {more : List Entry}
    (first : (w.router r).handlers = e :: more) (handler : e.handler = .configure base?) :
    callEntry calls inner r false c 0 w = within (.entry r false 0) (throughLayers r e
      (within (.handler (.configure base?)) (handleConfigure base? c))) w := by
  have there : ((w.router r).chain false)[0]? = some e := by
    rw [show (w.router r).chain false = (w.router r).handlers from rfl, first]
    rfl
  rw [callEntry_apply _ _ there, handler]
  rfl

section first

variable (calls : Calls) (inner : RouterRef → ContextRef → Exec Value)

theorem callEntry_configures {e : Entry} {more : List Entry}
    (first : (w.router r).handlers = e :: more) (handler : e.handler = .configure base?)
    (lets : ∀ e ∈ (w.router r).handlers.head?, ∃ w', LetsThrough (throughLayers r e) w w')
    (applies : BaseOf given (w.context c).config base) (configured : ConfiguredBase given base?)
    (asked : (w.context c).path = .text path) :
    let call := callEntry calls inner r false c 0 w
    (∀ s, ∃ store, call.world.router s = { w.router s with store }) ∧
    (∀ route, Site.routeBelow? base path = some route → call.result = .ok (.bool false) ∧
      call.world.context c = { w.context c with route := .text route, methods := .list [] }) ∧
    (Site.routeBelow? base path = none →
      call.result = .error (.failed (.outsideBase path base)) ∧
      call.world.context c = { w.context c with route := .null, methods := .list [] }) := by
  intro call
  obtain ⟨w', alike, passes⟩ := lets e (by rw [first]; rfl)
  obtain ⟨after, alike', eq⟩ := passes (within (.handler (.configure base?))
    (handleConfigure base? c))
  have called : callEntry calls inner r false c 0 w = _ := callEntry_configure first handler
  have result : call.result = (handleConfigure base? c w').result := by
    simp [call, called, eq]
  have world : call.world = after := by
    simp [call, called, eq]
  -- the layers of the entry leave the context as it is, so the handler finds it as it was
  have same : w'.context c = w.context c := alike.context c
  have ends := handleConfigure_apply (same.symm ▸ applies) configured (same.symm ▸ asked)
  dsimp only [within_apply] at alike'
  rw [ends, same] at result alike'
  rw [result, world, alike'.context c]
  refine ⟨fun s => ?_, fun route below => ?_, fun outside => ?_⟩
  · obtain ⟨store, before⟩ := alike.router s
    obtain ⟨store', since⟩ := alike'.router s
    refine ⟨store', since.trans ?_⟩
    cases Site.routeBelow? base path <;> simp [before]
  · simp [below]
  · simp [outside]

/-- The first handler of an application leaves a route in the context exactly if the path of the
request leads to this route. -/
theorem callEntry_seeds {e : Entry} {more : List Entry}
    (first : (w.router r).handlers = e :: more) (handler : e.handler = .configure base?)
    (lets : ∀ e ∈ (w.router r).handlers.head?, ∃ w', LetsThrough (throughLayers r e) w w')
    (applies : BaseOf given (w.context c).config base) (configured : ConfiguredBase given base?)
    (asked : (w.context c).path = .text path) :
    let call := callEntry calls inner r false c 0 w
    (∀ s, ∃ store, call.world.router s = { w.router s with store }) ∧
    (∀ route, (call.world.context c).route = .text route ↔ Site.LeadsTo base path route) ∧
    (∀ route, Site.LeadsTo base path route → call.result = .ok (.bool false) ∧
      call.world.context c = { w.context c with route := .text route, methods := .list [] }) ∧
    ((∀ route, ¬ Site.LeadsTo base path route) →
      call.result = .error (.failed (.outsideBase path base)) ∧
      call.world.context c = { w.context c with route := .null, methods := .list [] }) := by
  intro call
  obtain ⟨s, rfl⟩ := applies.wraps
  obtain ⟨routers, below, outside⟩ :=
    callEntry_configures calls inner first handler lets applies configured asked
  refine ⟨routers, fun route => ?_,
    fun route leads => below route ((Site.routeBelow?_eq_some s path route).2 leads),
    fun nowhere => outside ((Site.routeBelow?_eq_none s path).2 nowhere)⟩
  rw [← Site.routeBelow?_eq_some]
  cases found : Site.routeBelow? (Site.wrapPath s) path with
  | none => simp [call, (outside found).2]
  | some there => simp [call, (below there found).2, eq_comm]

end first

/-- A run of a router that comes to an end after the call of its first handler. -/
def runAfter (r : RouterRef) (w : World) (first : Ended Value) (rest : Ended Bool) : Ended Value :=
  ⟨.step ⟨.run r, w, rest.result.map .bool, rest.world⟩ (first.course ++ rest.course) .done,
    rest.result.map .bool, rest.world⟩

theorem run_starts (own : (w.router r).IsOwn "run") (nonempty : (w.router r).handlers ≠ [])
    (depth : Nat) :
    let e := firstMatchOr (recover calls (run calls depth) r c)
      (callEntry calls (run calls depth) r false c)
      (0 :: List.range' 1 ((w.router r).handlers.length - 1)) w
    run calls (depth + 1) r c w =
      ⟨.step ⟨.run r, w, e.result.map .bool, e.world⟩ e.course .done, e.result.map .bool,
        e.world⟩ := by
  have places : List.range (w.router r).handlers.length =
      0 :: List.range' 1 ((w.router r).handlers.length - 1) := by
    obtain ⟨n, length⟩ := Nat.exists_eq_succ_of_ne_zero (List.length_pos_iff.2 nonempty).ne'
    rw [length, List.range_eq_range', List.range'_succ]
    rfl
  rw [run_own calls own, runLevel_apply, places]

theorem run_after_declined (own : (w.router r).IsOwn "run") (nonempty : (w.router r).handlers ≠ [])
    (depth : Nat) :
    let first := callEntry calls (run calls depth) r false c 0 w
    first.result = .ok (.bool false) → run calls (depth + 1) r c w = runAfter r w first
      (firstMatchOr (recover calls (run calls depth) r c)
        (callEntry calls (run calls depth) r false c)
        (List.range' 1 ((w.router r).handlers.length - 1)) first.world) := by
  intro first declined
  have called : callEntry calls (run calls depth) r false c 0 w =
      ⟨first.course, .ok (.bool false), first.world⟩ := by rw [← declined]
  rw [run_starts own nonempty, firstMatchOr_declined called rfl]
  rfl

theorem run_after_failed (own : (w.router r).IsOwn "run") (nonempty : (w.router r).handlers ≠ [])
    (depth : Nat) {f : Failure} (ordinary : f.isOrdinary = true) :
    let first := callEntry calls (run calls depth) r false c 0 w
    first.result = .error (.failed f) → run calls (depth + 1) r c w =
      runAfter r w first (recover calls (run calls depth) r c 0 f first.world) := by
  intro first failed
  have called : callEntry calls (run calls depth) r false c 0 w =
      ⟨first.course, .error (.failed f), first.world⟩ := by rw [← failed]
  rw [run_starts own nonempty, firstMatchOr_failed called ordinary]
  rfl

/-- After a first handler that fails and leaves the chains as they are, the error handlers find its
failure in the context, and they alone decide. -/
theorem run_recovers (own : (w.router r).IsOwn "run") (recovers : (w.router r).IsOwn "_recover")
    (nonempty : (w.router r).handlers ≠ []) (depth : Nat) {f : Failure}
    (ordinary : f.isOrdinary = true) :
    let inner := run calls depth
    let first := callEntry calls inner r false c 0 w
    first.result = .error (.failed f) → (∃ store, first.world.router r = { w.router r with store }) →
      ∃ before rest, before.context c = { first.world.context c with failure := some f } ∧
        run calls (depth + 1) r c w = runAfter r w first rest ∧
        let errors := firstMatch (callEntry calls inner r true c)
          (List.range (w.router r).errorHandlers.length) before
        rest.course = .step ⟨.recovery r f, before, errors.result.map .bool, errors.world⟩
          errors.course .done ∧
        rest.result = errors.result.bind fun matched =>
          if matched then .ok true else .error (.failed f) := by
  rintro inner first failed ⟨store, same⟩
  have recovers : (first.world.router r).IsOwn "_recover" := by
    rw [same]
    exact recovers
  obtain ⟨line, course, result⟩ := recover_own calls inner recovers c 0 f
  have chain : (((first.world.logLine line).putFailure c (some f)).router r).errorHandlers =
      (w.router r).errorHandlers := by
    rw [World.router_putFailure, World.router_logLine, same]
  rw [chain] at course result
  refine ⟨_, _, ?_, run_after_failed own nonempty depth ordinary failed, course, result⟩
  rw [World.context_putFailure_self, World.context_logLine]

end

/-- What a run of an application does with a request path is decided by its base path alone. If the
path is the base path followed by a route, or has the empty route because only the last slash of the
base path is missing, then the first handler leaves the route in the context, and the handlers after
it are tried. Any other path fails, no other handler is called, and the error handlers find the
failure in the context, and no route. Where a site has the base path, the route is what the site
takes the path for, and the path that the site makes of a route leads back to that route. -/
theorem run_application_seeds_route (calls : Calls) {id className : String}
    {name description : Value} {given : Option Value} {cls : RouterClass} {w₀ w : World}
    {c : ContextRef} {base path : String}
    (known : Assoc.get? w₀.classes className = some cls) (application : cls.tier = .application)
    (made : (makeRouter id className name description given w₀).result = .ok ())
    (later : (makeRouter id className name description given w₀).world.Grows w)
    (runs : (w.router w₀.routers.length).IsOwn "run")
    (recovers : (w.router w₀.routers.length).IsOwn "_recover")
    (lets : ∀ e ∈ (w.router w₀.routers.length).handlers.head?,
      ∃ w', LetsThrough (throughLayers w₀.routers.length e) w w')
    (applies : BaseOf (given.getD .null) (w.context c).config base)
    (asked : (w.context c).path = .text path) (depth : Nat) :
    let r := w₀.routers.length
    let inner := run calls depth
    let first := callEntry calls inner r false c 0 w
    (∀ route, (first.world.context c).route = .text route ↔ Site.LeadsTo base path route) ∧
    (∀ route, Site.LeadsTo base path route →
      first.world.context c =
          { w.context c with route := .text route, methods := .list [] } ∧
        run calls (depth + 1) r c w = runAfter r w first
          (firstMatchOr (recover calls inner r c) (callEntry calls inner r false c)
            (List.range' 1 ((w.router r).handlers.length - 1)) first.world)) ∧
    ((∀ route, ¬ Site.LeadsTo base path route) →
      ∃ before rest,
        before.context c = { w.context c with
          route := .null, methods := .list [], failure := some (.outsideBase path base) } ∧
        run calls (depth + 1) r c w = runAfter r w first rest ∧
        let errors := firstMatch (callEntry calls inner r true c)
          (List.range (w.router r).errorHandlers.length) before
        rest.course = .step ⟨.recovery r (.outsideBase path base), before,
          errors.result.map .bool, errors.world⟩ errors.course .done ∧
        rest.result = errors.result.bind fun matched =>
          if matched then .ok true else .error (.failed (.outsideBase path base))) ∧
    ∀ site : SiteConfig, site.Made → ∃ own, site.basePath = .ok own ∧ (own = base →
      (∃ found, site.removePath (.text path) = .ok found ∧
        ∀ route, found = some route ↔ (first.world.context c).route = .text route) ∧
      ∀ route, ∃ link, site.makePath (.text route) = .ok link ∧
        (path = link → (first.world.context c).route = .text route)) := by
  intro r inner first
  obtain ⟨base?, e, rest, configured, begins, handler⟩ :=
    makeRouter_begins known application made later
  have nonempty : (w.router r).handlers ≠ [] := by simp [r, begins]
  obtain ⟨routers, seeds, below, outside⟩ :=
    callEntry_seeds calls inner begins handler lets applies configured asked
  refine ⟨seeds, fun route leads => ?_, fun nowhere => ?_, fun site made => ?_⟩
  · obtain ⟨declined, left⟩ := below route leads
    exact ⟨left, run_after_declined runs nonempty depth declined⟩
  · obtain ⟨failed, left⟩ := outside nowhere
    obtain ⟨before, rest, found, ends⟩ :=
      run_recovers runs recovers nonempty depth rfl failed (routers r)
    exact ⟨before, rest, found.trans (by rw [left]), ends⟩
  · obtain ⟨_, -, own, -⟩ := made.paths
    refine ⟨_, own, ?_⟩
    rintro rfl
    obtain ⟨⟨found, removes, takes⟩, links⟩ := made.leads_back own path
    refine ⟨⟨found, removes, fun route => (takes route).trans (seeds route).symm⟩,
      fun route => ?_⟩
    obtain ⟨link, makes, back⟩ := links route
    refine ⟨link, makes, ?_⟩
    rintro rfl
    exact (seeds route).2 back

def makeBlog : Exec Unit := makeRouter "blog" "Application" .null .null (some (.text "blog"))

def posting : World := Small.world [] { path := .text "/blog/post" }

theorem run_posting_seeds_route :
    let w := (makeBlog posting).world
    (makeBlog posting).result = .ok () ∧ (w.router 0).IsOwn "run" ∧ (w.router 0).IsOwn "_recover" ∧
      (w.context 0).path = .text "/blog/post" ∧ Site.LeadsTo "/blog/" "/blog/post" "post" ∧
      ((callEntry Small.calls (run Small.calls 0) 0 false 0 0 w).world.context 0).route =
        .text "post" := by
  intro w
  have made : (makeBlog posting).result = .ok () := by with_unfolding_all rfl
  have runs : (w.router 0).IsOwn "run" := by with_unfolding_all rfl
  have recovers : (w.router 0).IsOwn "_recover" := by with_unfolding_all rfl
  have context : w.context 0 = { path := .text "/blog/post" } := by with_unfolding_all rfl
  have bare : (w.router 0).handlers.head?.all (fun e => e.layers.isEmpty) = true := by
    with_unfolding_all rfl
  have lets : ∀ e ∈ (w.router 0).handlers.head?, ∃ w', LetsThrough (throughLayers 0 e) w w' := by
    intro e first
    rw [first] at bare
    unfold throughLayers
    rw [List.isEmpty_iff.1 bare]
    exact ⟨w, .refl w⟩
  have base : Site.basePathOf (.text "blog") = .ok "/blog/" := by with_unfolding_all rfl
  have asked : (w.context 0).path = .text "/blog/post" := by rw [context]
  have applies : BaseOf ((some (.text "blog") : Option Value).getD .null) (w.context 0).config
      "/blog/" := .given nofun base
  obtain ⟨seeds, -⟩ := run_application_seeds_route Small.calls rfl rfl made (.refl w) runs recovers
    lets applies asked 0
  have leads : Site.LeadsTo "/blog/" "/blog/post" "post" := .inl rfl
  exact ⟨made, runs, recovers, asked, leads, (seeds "post").2 leads⟩

end Dispatch
end HandlerChains
