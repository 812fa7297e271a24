import HandlerChains.Proofs.Blog.Routers
import HandlerChains.Proofs.Site.Config

/-!
# What the blog answers

Every request is answered, and how depends on where its path leads, and on its method.
-/

namespace HandlerChains
namespace Blog

open Exec

/-! ## What requests are answered with -/

def failurePage (f : Failure) : Response where
  status := 500
  body := .list [.text f.literal]

namespace Destination

def method : Destination → String
  | comments _ => "POST"
  | home | posts | post _ => "GET"

def response : Destination → Response
  | home => { body := .list [.text "Welcome"] }
  | comments _ => { status := 201 }
  | posts => { body := .list [.text "hello,routing"] }
  | post name =>
    match Assoc.get? Blog.posts name with
    | some text => { body := .list [.text text] }
    | none => failurePage (.unworded .missingKey name)

end Destination

def refusal (method : String) : Response where
  status := 405
  body := .list [.text ("Allowed: " ++ method)]

structure Answers (route method : String) (a : Response) : Prop where
  own : ∀ d, LeadsTo route d → Text.upper method = d.method → a = d.response
  other : ∀ d, LeadsTo route d → Text.upper method ≠ d.method → a = refusal d.method
  nowhere : (∀ d, ¬ LeadsTo route d) → a = { status := 404 }

section

variable {route method : String} {a : Response} {d : Destination}

theorem Answers.of_own (leads : LeadsTo route d) (own : Text.upper method = d.method)
    (answer : a = d.response) : Answers route method a where
  own d' leads' _ := by rw [answer, leads.unique leads']
  other d' leads' other := by
    rw [← leads.unique leads'] at other
    exact absurd own other
  nowhere none := absurd leads (none d)

theorem Answers.of_other (leads : LeadsTo route d) (other : Text.upper method ≠ d.method)
    (answer : a = refusal d.method) : Answers route method a where
  own d' leads' own := by
    rw [← leads.unique leads'] at own
    exact absurd own other
  other d' leads' _ := by rw [answer, leads.unique leads']
  nowhere none := absurd leads (none d)

theorem Answers.of_nowhere (none : ∀ d, ¬ LeadsTo route d) (answer : a = { status := 404 }) :
    Answers route method a where
  own d leads _ := absurd leads (none d)
  other d leads _ := absurd leads (none d)
  nowhere _ := answer

end

/-! ## Actions -/

section

variable {routers : RouterRef → Router} {c : ContextRef} {ctx ctx' : Context} {f : Callable}
variable {inner : RouterRef → ContextRef → Exec Value} {methods : List Value}

theorem turns_act (result : Except Stop Unit) (listed : ctx.methods = .list methods)
    (body : ∀ act, Turns routers c (f.body.forM (obey act c)) ctx result ctx') :
    Turns routers c (calls.act f c) ctx (result.map fun _ => f.result) ctx' :=
  .callAction listed (body _)

theorem turns_writeTo (fresh : ctx.response = {}) (v : Value) :
    Turns routers c (writeTo c v) ctx (.ok ()) { ctx with response := { body := .list [v] } } := by
  have written : Turns routers c (writeTo c v) ctx (.ok ())
      { ctx with response := { ctx.response with body := .list [v] } } :=
    .writeTo [] (by rw [fresh]) v
  rw [fresh] at written
  exact written

theorem turns_write {v : Value} (only : f.body = [.write v]) (listed : ctx.methods = .list methods)
    (fresh : ctx.response = {}) :
    Turns routers c (calls.act f c) ctx (.ok f.result)
      { ctx with response := { body := .list [v] } } := by
  refine turns_act (.ok ()) listed fun act => ?_
  rw [only]
  exact .forM_cons (turns_writeTo fresh v) (.forM_nil _)

theorem turns_setStatus (fresh : ctx.response = {}) (act : Command → Exec Reply) (status : Nat) :
    Turns routers c (obey act c (.setStatus status)) ctx (.ok ())
      { ctx with response := { status } } := by
  rw [← show { ctx.response with status } = ({ status } : Response) by rw [fresh]]
  exact .change _

theorem turns_status {status : Nat} (only : f.body = [.setStatus status])
    (listed : ctx.methods = .list methods) (fresh : ctx.response = {}) :
    Turns routers c (calls.act f c) ctx (.ok f.result) { ctx with response := { status } } := by
  refine turns_act (.ok ()) listed fun act => ?_
  rw [only]
  exact .forM_cons (turns_setStatus fresh act status) (.forM_nil _)

theorem turns_methodNotAllowed {method : String} (listed : ctx.methods = .list [.text method])
    (fresh : ctx.response = {}) :
    Turns routers c (calls.act methodNotAllowed c) ctx (.ok .null)
      { ctx with response := refusal method } := by
  refine turns_act (.ok ()) listed fun act => ?_
  have items : Failure.itemsOf ctx.methods = .ok [.text method] := by
    rw [listed]
    rfl
  have written : Turns routers c (obey act c (.writeMethods "Allowed: "))
      { ctx with response := { status := 405 } } (.ok ())
      { ctx with response := refusal method } :=
    .bind .context (.bind (.lift items) (.writeTo [] rfl _))
  exact .forM_cons (turns_setStatus fresh act 405) (.forM_cons written (.forM_nil _))

theorem turns_serverError {f : Failure} (listed : ctx.methods = .list methods)
    (fresh : ctx.response = {}) (here : ctx.failure = some f) :
    Turns routers c (calls.act serverError c) ctx (.ok .null)
      { ctx with response := failurePage f } := by
  refine turns_act (.ok ()) listed fun act => ?_
  have written : Turns routers c (obey act c .writeFailure)
      { ctx with response := { status := 500 } } (.ok ())
      { ctx with response := failurePage f } := by
    refine .bind .context ?_
    rw [here]
    exact .writeTo [] rfl _
  exact .forM_cons (turns_setStatus fresh act 500) (.forM_cons written (.forM_nil _))

section

variable {name : String} {ps : Assoc Value}

theorem turns_writeFrom {result : Except Stop Unit} (captured : ctx.parameters = some ps)
    (named : Assoc.get? ps "slug" = some (.text name)) (act : Command → Exec Reply)
    (looksUp : Turns routers c (keyed posts name >>= fun text => writeTo c (.text text)) ctx result
      ctx') :
    Turns routers c (obey act c (.writeFrom posts "slug")) ctx result ctx' := by
  refine .bind .context ?_
  split
  · next none =>
    rw [captured] at none
    cases none
  · next ps' here =>
    obtain rfl : ps = ps' := Option.some.inj (captured.symm.trans here)
    exact .bind (.keyed named) looksUp

theorem turns_getPost {text : String} (listed : ctx.methods = .list methods)
    (fresh : ctx.response = {}) (captured : ctx.parameters = some ps)
    (named : Assoc.get? ps "slug" = some (.text name))
    (found : Assoc.get? posts name = some text) :
    Turns routers c (calls.act getPost c) ctx (.ok .null)
      { ctx with response := { body := .list [.text text] } } := by
  refine turns_act (.ok ()) listed fun act => ?_
  have written : Turns routers c (obey act c (.writeFrom posts "slug")) ctx (.ok ())
      { ctx with response := { body := .list [.text text] } } :=
    turns_writeFrom captured named act (.bind (.keyed found) (turns_writeTo fresh _))
  exact .forM_cons written (.forM_nil _)

theorem turns_getPost_missing (listed : ctx.methods = .list methods)
    (captured : ctx.parameters = some ps) (named : Assoc.get? ps "slug" = some (.text name))
    (missing : Assoc.get? posts name = none) :
    Turns routers c (calls.act getPost c) ctx (.error (.failed (.unworded .missingKey name)))
      ctx := by
  refine turns_act (.error (.failed (.unworded .missingKey name))) listed fun act => ?_
  have fails : Turns routers c (obey act c (.writeFrom posts "slug")) ctx
      (.error (.failed (.unworded .missingKey name))) ctx :=
    turns_writeFrom captured named act (.stops (.keyed_missing missing) _)
  exact .forM_stops fails []

end

/-! ## Walks -/

/-- A request for a route on its way: nothing was written yet, and some methods were offered. -/
structure Asks (route method : String) (offered : List String) (ctx : Context) : Prop where
  route : ctx.route = .text route
  method : ctx.method = .text method
  methods : ctx.methods = .list (offered.map .text)
  response : ctx.response = {}

variable {r : RouterRef} {route rest method : String} {answers : Response → Prop}

theorem walks_refused {right : String} (asks : Asks route method [right] ctx) :
    Walks calls inner routers r c
      [.badMethod (.callable methodNotAllowed), .always (.callable pageNotFound)] ctx (.ok true)
      { ctx with response := refusal right } := by
  have some : ctx.methods.isTruthy = true := by
    rw [asks.methods]
    rfl
  exact .matched (v := .bool true) rfl
    (.badMethod_serves some (turns_methodNotAllowed asks.methods asks.response))

theorem walks_missing (asks : Asks route method [] ctx) :
    Walks calls inner routers r c
      [.badMethod (.callable methodNotAllowed), .always (.callable pageNotFound)] ctx (.ok true)
      { ctx with response := { status := 404 } } := by
  have none : ctx.methods.isTruthy = false := by
    rw [asks.methods]
    rfl
  exact .declined rfl (.badMethod_passes none _)
    (.matched (v := .bool true) rfl (.always (turns_status rfl asks.methods asks.response)))

theorem turns_recover {f : Failure}
    (blog : (routers 1).Tries blogHandlers [.always (.callable serverError)])
    (listed : ctx.methods = .list methods) (fresh : ctx.response = {}) (i : Nat) :
    Turns routers c (Dispatch.recover calls inner 1 c i f) ctx (.ok true)
      { ctx with response := failurePage f } := by
  have shown : Turns routers c (calls.act serverError c) { ctx with failure := some f } (.ok .null)
      { ctx with failure := some f, response := failurePage f } :=
    turns_serverError listed fresh rfl
  exact .recover_first (v := .bool true) blog (.always shown) rfl i

/-- What the inner router comes to for what is left of a route, with what is answered then. -/
inductive Found (rest method : String) (answers : Response → Prop) :
    Except Stop Bool → Context → Prop
  | served {ctx : Context} (answer : answers ctx.response) :
      Found rest method answers (.ok true) ctx
  | failed {ctx : Context} {f : Failure} (ordinary : f.isOrdinary = true)
      (asks : Asks rest method [] ctx)
      (answer : answers (failurePage f)) :
      Found rest method answers (.error (.failed f)) ctx
  | offered {ctx : Context} {right : String} (asks : Asks rest method [right] ctx)
      (answer : answers (refusal right)) : Found rest method answers (.ok false) ctx
  | nothing {ctx : Context} (asks : Asks rest method [] ctx) (answer : answers { status := 404 }) :
      Found rest method answers (.ok false) ctx

variable (c inner) in
/-- The inner router serves its posts, or it offers their method. -/
theorem walks_api (api : (routers 0).Tries apiHandlers []) (asks : Asks rest method [] ctx) :
    ∃ ended ctx', Walks calls inner routers 0 c apiHandlers ctx ended ctx' ∧
      Found rest method (Answers ("api/" ++ rest) method) ended ctx' := by
  have offered : Asks rest method ["GET"] { ctx with methods := .list [.text "GET"] } :=
    ⟨asks.route, asks.method, rfl, asks.response⟩
  cases atPosts : postsPattern.matchWhole? rest with
  | some captured =>
    obtain ⟨rfl, leads⟩ := posts_leads atPosts
    by_cases own : Text.upper method = "GET"
    · exact ⟨_, _, .matched (v := .bool true) rfl (.within _ (.endpoint_serves asks.route atPosts
        asks.method own (turns_write rfl asks.methods asks.response))),
        .served (.of_own leads own rfl)⟩
    · -- a route leads to one place only, so the other endpoint offers nothing
      have atPost : postPattern.matchWhole? rest = none := by
        refine Option.eq_none_iff_forall_ne_some.2 fun _ matched => ?_
        obtain ⟨name, -, leads'⟩ := post_leads matched
        cases leads.unique leads'
      exact ⟨_, _, .declined rfl
        (.within _ (.endpoint_offers asks.route atPosts asks.method own asks.methods _))
        (.declined rfl (.within _ (.endpoint_passes offered.route atPost _ _)) .nil),
        .offered offered (.of_other leads own rfl)⟩
  | none =>
    have passes : Turns routers c (Dispatch.handle calls inner
        (.endpoint "GET" postsPattern (.callable listPosts)) c) ctx (.ok (.bool false)) ctx :=
      .within _ (.endpoint_passes asks.route atPosts _ _)
    cases atPost : postPattern.matchWhole? rest with
    | some captured =>
      obtain ⟨name, rfl, leads⟩ := post_leads atPost
      by_cases own : Text.upper method = "GET"
      · have here : Asks rest method [] (ctx.mergeParameters (Params.values [("slug", name)])) :=
          ⟨asks.route, asks.method, asks.methods, asks.response⟩
        cases found : Assoc.get? posts name with
        | some text =>
          refine ⟨_, _, .declined rfl passes (.matched (v := .bool true) rfl (.within _
            (.endpoint_serves asks.route atPost asks.method own
              (turns_getPost here.methods here.response rfl (Assoc.get?_put_self ..) found)))),
            .served (.of_own leads own ?_)⟩
          simp only [Destination.response, found]
        | none =>
          refine ⟨_, _, .declined rfl passes (.failed rfl (.within _ (.endpoint_serves asks.route
            atPost asks.method own (turns_getPost_missing here.methods rfl
              (Assoc.get?_put_self ..) found))) (.recover_none api)),
            .failed rfl here (.of_own leads own ?_)⟩
          simp only [Destination.response, found]
      · exact ⟨_, _, .declined rfl passes (.declined rfl
          (.within _ (.endpoint_offers asks.route atPost asks.method own asks.methods _)) .nil),
          .offered offered (.of_other leads own rfl)⟩
    | none =>
      have nowhere : ∀ d, ¬ LeadsTo ("api/" ++ rest) d := by
        intro d leads
        simp [leadsTo_api_iff, atPosts, atPost] at leads
      exact ⟨_, _, .declined rfl passes
        (.declined rfl (.within _ (.endpoint_passes asks.route atPost _ _)) .nil),
        .nothing asks (.of_nowhere nowhere rfl)⟩

theorem Asks.leaveMount {offered offered' : List String} (asks : Asks route method offered ctx)
    (inside : Asks rest method offered' ctx') (answer : Option Value) :
    Asks route method offered' (Dispatch.leaveMount ctx answer ctx') := by
  unfold Dispatch.leaveMount
  dsimp only
  split
  · exact ⟨asks.route, inside.method, inside.methods, inside.response⟩
  · exact ⟨asks.route, inside.method, inside.methods, inside.response⟩

theorem response_leaveMount (before : Context) (answer : Option Value) (ctx : Context) :
    (Dispatch.leaveMount before answer ctx).response = ctx.response := by
  unfold Dispatch.leaveMount
  dsimp only
  split <;> rfl

section

variable (c : ContextRef) (depth : Nat)

/-- What the inner router comes to is what the mount comes to, and the handlers behind it see to the
rest. -/
theorem walks_mount (api : (routers 0).Tries apiHandlers [])
    (blog : (routers 1).Tries blogHandlers [.always (.callable serverError)])
    (asks : Asks ("api/" ++ rest) method [] ctx) :
    ∃ ctx', Walks calls (Dispatch.run calls (depth + 1)) routers 1 c
        [.mount apiPattern 0, .badMethod (.callable methodNotAllowed),
          .always (.callable pageNotFound)] ctx (.ok true) ctx' ∧
      Answers ("api/" ++ rest) method ctx'.response := by
  have starts : apiPattern.matchStart? ("api/" ++ rest) = some ([], rest) := api_iff.2 ⟨rfl, rfl⟩
  have inside : Asks rest method [] (Dispatch.enterMount [] rest ctx) :=
    ⟨rfl, asks.method, asks.methods, asks.response⟩
  obtain ⟨ended, ctx', walks, found⟩ :=
    walks_api c (Dispatch.run calls depth) api inside
  have mounted := Turns.within (.handler (.mount apiPattern 0))
    (.mount asks.route starts (walks.run api))
  cases found with
  | served answer =>
    refine ⟨_, .matched rfl mounted, ?_⟩
    rw [response_leaveMount]
    exact answer
  | failed ordinary here answer =>
    have left := asks.leaveMount here none
    exact ⟨_, .failed ordinary mounted (turns_recover blog left.methods left.response), answer⟩
  | offered here answer =>
    exact ⟨_, .declined rfl mounted (walks_refused (asks.leaveMount here _)), answer⟩
  | nothing here answer =>
    exact ⟨_, .declined rfl mounted (walks_missing (asks.leaveMount here _)), answer⟩

/-- A request that has a route is answered by one of the handlers. -/
theorem walks_blog (api : (routers 0).Tries apiHandlers [])
    (blog : (routers 1).Tries blogHandlers [.always (.callable serverError)])
    (asks : Asks route method [] ctx) :
    ∃ ctx', Walks calls (Dispatch.run calls (depth + 1)) routers 1 c blogHandlers.tail ctx
        (.ok true) ctx' ∧ Answers route method ctx'.response := by
  cases atHome : Pattern.empty.matchWhole? route with
  | some captured =>
    obtain ⟨rfl, rfl⟩ := home_iff.1 atHome
    by_cases own : Text.upper method = "GET"
    · exact ⟨_, .matched (v := .bool true) rfl (.within _ (.endpoint_serves asks.route atHome
        asks.method own (turns_write rfl asks.methods asks.response))), .of_own .home own rfl⟩
    · have offered : Asks "" method ["GET"] { ctx with methods := .list [.text "GET"] } :=
        ⟨asks.route, asks.method, rfl, asks.response⟩
      exact ⟨_, .declined rfl
        (.within _ (.endpoint_offers asks.route atHome asks.method own asks.methods _))
        (.declined rfl (.within _ (.endpoint_passes offered.route home_not_comments _ _))
          (.declined rfl (.within _ (.mount_passes offered.route home_not_api _))
            (walks_refused offered))), .of_other .home own rfl⟩
  | none =>
    have notHome : Turns routers c (Dispatch.handle calls (Dispatch.run calls (depth + 1))
        (.endpoint "GET" .empty (.callable home)) c) ctx (.ok (.bool false)) ctx :=
      .within _ (.endpoint_passes asks.route atHome _ _)
    cases atComments : commentsPattern.matchWhole? route with
    | some captured =>
      obtain ⟨name, rfl, leads⟩ := comments_leads atComments
      by_cases own : Text.upper method = "POST"
      · have here : Asks route method [] (ctx.mergeParameters (Params.values [("slug", name)])) :=
          ⟨asks.route, asks.method, asks.methods, asks.response⟩
        exact ⟨_, .declined rfl notHome (.matched (v := .bool true) rfl (.within _
          (.endpoint_serves asks.route atComments asks.method own
            (turns_status rfl here.methods here.response)))), .of_own leads own rfl⟩
      · have offered : Asks route method ["POST"] { ctx with methods := .list [.text "POST"] } :=
          ⟨asks.route, asks.method, rfl, asks.response⟩
        exact ⟨_, .declined rfl notHome (.declined rfl
          (.within _ (.endpoint_offers asks.route atComments asks.method own asks.methods _))
          (.declined rfl (.within _ (.mount_passes offered.route (comments_not_api atComments) _))
            (walks_refused offered))), .of_other leads own rfl⟩
    | none =>
      have notComments : Turns routers c (Dispatch.handle calls (Dispatch.run calls (depth + 1))
          (.endpoint "POST" commentsPattern (.callable addComment)) c) ctx (.ok (.bool false))
          ctx :=
        .within _ (.endpoint_passes asks.route atComments _ _)
      cases starts : apiPattern.matchStart? route with
      | some found =>
        obtain ⟨captured, rest⟩ := found
        obtain ⟨rfl, -⟩ := api_iff.1 starts
        obtain ⟨ctx', walks, answers⟩ := walks_mount c depth api blog asks
        exact ⟨ctx', .declined rfl notHome (.declined rfl notComments walks), answers⟩
      | none =>
        have nowhere : ∀ d, ¬ LeadsTo route d := by
          intro d leads
          rw [leadsTo_iff] at leads
          cases d <;> simp [Destination.IsFound, atHome, atComments, starts] at leads
        exact ⟨_, .declined rfl notHome (.declined rfl notComments (.declined rfl
          (.within _ (.mount_passes asks.route starts _)) (walks_missing asks))),
          .of_nowhere nowhere rfl⟩

end

/-! ## Requests -/

def request (config : SiteConfig) (path method : String) : Context where
  request := some .object
  config := some (.site config)
  path := .text path
  method := .text method

/-- How a request is answered: by its route, or with a failure where it has none. -/
inductive AnswersRequest (config : SiteConfig) (path method : String) (a : Response) : Prop
  | inside {route : String} (below : config.removePath (.text path) = .ok (some route))
      (answers : Answers route method a)
  | outside {base : String} (beside : config.removePath (.text path) = .ok none)
      (root : config.basePath = .ok base) (answer : a = failurePage (.outsideBase path base))

variable {config : SiteConfig}

/-- A run of the blog on a request matches. -/
theorem turns_run (c : ContextRef) (depth : Nat) (api : (routers 0).Tries apiHandlers [])
    (blog : (routers 1).Tries blogHandlers [.always (.callable serverError)])
    (isMade : config.Made) (path method : String) :
    ∃ ctx', Turns routers c (Dispatch.run calls (depth + 2) 1 c) (request config path method)
        (.ok (.bool true)) ctx' ∧ AnswersRequest config path method ctx'.response := by
  obtain ⟨s, -, root, -, removes⟩ := isMade.paths
  have based : Context.configBase (.site config) = .ok (Site.wrapPath s) := by
    have eq : Context.configBase (.site config) = do return Site.wrapPath (← config.basePath) := rfl
    rw [eq, root]
    exact congrArg Except.ok (Site.wrapPath_wrapPath s)
  cases below : Site.routeBelow? (Site.wrapPath s) path with
  | some route =>
    let seeded : Context :=
      { request config path method with route := .text route, methods := .list [] }
    have asks : Asks route method [] seeded := ⟨rfl, rfl, rfl, rfl⟩
    obtain ⟨ctx', walks, answers⟩ := walks_blog c depth api blog asks
    have seeds : Turns routers c
        (Dispatch.handle calls (Dispatch.run calls (depth + 1)) (.configure none) c)
        (request config path method) (.ok (.bool false)) seeded :=
      .within _ (.configure_seeds rfl based rfl below)
    exact ⟨ctx', (Walks.declined rfl seeds walks).run blog,
      .inside (by rw [removes, below]) answers⟩
  | none =>
    have refuses : Turns routers c
        (Dispatch.handle calls (Dispatch.run calls (depth + 1)) (.configure none) c)
        (request config path method) (.error (.failed (.outsideBase path (Site.wrapPath s))))
        { request config path method with route := .null, methods := .list [] } :=
      .within _ (.configure_refuses rfl based rfl below)
    have walks : Walks calls (Dispatch.run calls (depth + 1)) routers 1 c blogHandlers
        (request config path method) (.ok true) _ :=
      .failed rfl refuses (fun i => turns_recover blog rfl rfl i)
    exact ⟨_, walks.run blog, .outside (by rw [removes, below]) root rfl⟩

/-- A request is matched and answered, and the routers stay as they are. -/
theorem respond_of_tries {w : World} (api : (w.router 0).Tries apiHandlers [])
    (blog : (w.router 1).Tries blogHandlers [.always (.callable serverError)])
    (isMade : config.Made) (path method : String) :
    let e := respond 1 config (.text path) (.text method) w
    e.world.router = w.router ∧ ∃ a, e.result = .ok ⟨.matched, a⟩ ∧
      AnswersRequest config path method a := by
  intro e
  let c : ContextRef := w.contexts.length
  let v : World := w.setContext c (request config path method)
  have has : v.Has w.router c (request config path method) :=
    ⟨rfl, World.context_setContext_self ..⟩
  -- runs may nest a thousand levels deeper than there are routers, and the blog takes two
  obtain ⟨ctx', turns, answers⟩ :=
    turns_run c (v.routers.length + 998) api blog isMade path method
  obtain ⟨matched, left⟩ := Turns.dispatch has rfl turns
  let rest (c : ContextRef) (outcome : Outcome) : Exec Answer := do
    return { outcome, response := (← context c).response }
  have asked : e.result = ((Dispatch.dispatch calls 1 c >>= rest c) v).result ∧
      e.world = ((Dispatch.dispatch calls 1 c >>= rest c) v).world :=
    bind_result (x := addContext (request config path method)) (w := w) (a := c) rfl
      fun c => Dispatch.dispatch calls 1 c >>= rest c
  obtain ⟨answered, kept⟩ := bind_result matched (rest c)
  rw [asked.1, asked.2, answered, kept]
  refine ⟨left.routers, _, rfl, ?_⟩
  rw [left.context]
  exact answers

/-- The worlds in which a blog is asked: it was made, and may have answered requests. -/
inductive Opened (blog : RouterRef) : World → Prop
  | made (done : (make {}).result = .ok blog) : Opened blog made
  | asked {w : World} {config : SiteConfig} (before : Opened blog w) (isMade : config.Made)
      (path method : String) : Opened blog (respond blog config (.text path) (.text method) w).world

theorem Opened.tries {blog : RouterRef} {w : World} (opened : Opened blog w) :
    blog = 1 ∧ (w.router 0).Tries apiHandlers [] ∧
      (w.router 1).Tries blogHandlers [.always (.callable serverError)] := by
  obtain ⟨result, api, main⟩ := made_tries
  induction opened with
  | made done => exact ⟨Except.ok.inj (done.symm.trans result), api, main⟩
  | asked before isMade path method ih =>
    obtain ⟨rfl, api, main⟩ := ih
    obtain ⟨routers, -⟩ := respond_of_tries api main isMade path method
    rw [routers]
    exact ⟨rfl, api, main⟩

/-- Whatever a blog is asked, it answers, and reports a match. What it answers is said by the
configuration, the path and the method alone. -/
theorem respond_answers {blog : RouterRef} {w : World} {config : SiteConfig}
    (opened : Opened blog w) (isMade : config.Made) (path method : String) :
    ∃ a, (respond blog config (.text path) (.text method) w).result = .ok ⟨.matched, a⟩ ∧
      AnswersRequest config path method a := by
  obtain ⟨rfl, api, main⟩ := opened.tries
  exact (respond_of_tries api main isMade path method).2

end

def published : SiteConfig where
  settings := [("scheme", .text "https"), ("host", .text "example.com"), ("path", .text "/blog")]

/-- After a visit to its start page the blog is asked for a post that it does not have. -/
theorem respond_published_misses :
    let w := (respond 1 published (.text "/blog/") (.text "GET") made).world
    SiteConfig.ofUrl (.text "https://example.com/blog") [] = .ok published ∧
      (make {}).result = .ok 1 ∧
      (respond 1 published (.text "/blog/api/posts/miss%69ng") (.text "get") w).result =
        .ok ⟨.matched, failurePage (.unworded .missingKey "missing")⟩ := by
  intro w
  have made_published : SiteConfig.ofUrl (.text "https://example.com/blog") [] = .ok published := by
    cbv
  obtain ⟨done, -⟩ := made_tries
  have opened : Opened 1 w := .asked (.made done) (.ofUrl made_published) "/blog/" "GET"
  obtain ⟨a, result, answers⟩ :=
    respond_answers opened (.ofUrl made_published) "/blog/api/posts/miss%69ng" "get"
  have below : published.removePath (.text "/blog/api/posts/miss%69ng") =
      .ok (some "api/posts/miss%69ng") := by cbv
  refine ⟨made_published, done, ?_⟩
  rw [result]
  cases answers with
  | inside below' answers =>
    cases below.symm.trans below'
    have leads : LeadsTo "api/posts/miss%69ng" (.post "missing") :=
      leadsTo_iff.2 ⟨"posts/miss%69ng", by decide +kernel, by decide +kernel⟩
    have missing : Assoc.get? posts "missing" = none := by decide
    rw [answers.own _ leads (by cbv), Destination.response, missing]
  | outside beside => cases below.symm.trans beside

end Blog
end HandlerChains
