import HandlerChains.Perform

/-!
# An example: a blog

A blog is an application with a start page and comments, and an inner router for its posts mounted
under `api/`. A request of the wrong method is told the right ones, anything else that is not there
is not found, and a failure is shown with status 500.
-/

namespace HandlerChains
namespace Blog

def posts : List (String × String) :=
  [("hello", "Hello world"), ("routing", "On ordered handler chains")]

def page (name method pattern : String) (body : List Instruction) : Member :=
  .method name [⟨.shortcut method, [.text pattern], []⟩] body .null

def helper (name : String) (body : List Instruction) : Member := .method name [] body .null

def api : List Member :=
  [page "list_posts" "GET" "posts" [.write (.text (",".intercalate (posts.map Prod.fst)))],
    page "get_post" "GET" "posts/:slug" [.writeFrom posts "slug"]]

def refuseMethod : List Instruction := [.setStatus 405, .writeMethods "Allowed: "]

def missingPage : List Instruction := [.setStatus 404]

def site : List Member :=
  [page "home" "GET" "" [.write (.text "Welcome")],
    page "add_comment" "POST" "posts/:slug/comments" [.setStatus 201],
    helper "method_not_allowed" refuseMethod,
    helper "page_not_found" missingPage,
    .method "server_error" [⟨.error, [], []⟩] [.setStatus 500, .writeFailure] .null]

def setup : List Registration :=
  [.mk (.mount (.plain (.text "api/")) (.router "api")) [] false,
    .mk (.action .badMethod (.function "Blog.method_not_allowed" refuseMethod .null)) [] false,
    .mk (.action .notFound (.function "Blog.page_not_found" missingPage .null)) [] false]

def making : List Command :=
  [.declareClass "Api" ["Router"] api,
    .declareClass "Blog" ["Application"] (site ++ [.setup setup]),
    .makeRouter "api" "Api" (.text "api") .null none,
    .makeRouter "blog" "Blog" (.text "blog") .null none]

def calls : Calls := Exec.callsWithin Exec.commandDepth

def perform (c : Command) : Exec Reply := Exec.perform calls c

def make : Exec RouterRef := do
  making.forM fun c => do let _ ← perform c
  Exec.named (← get).routerNames "blog"

/-- How a request was answered. -/
structure Answer where
  outcome : Outcome
  response : Response

def respond (blog : RouterRef) (config : SiteConfig) (path method : Value) : Exec Answer := do
  let c ← Exec.addContext { request := some .object, config := some (.site config), path, method }
  let outcome ← Dispatch.dispatch calls blog c
  return { outcome, response := (← Exec.context c).response }

def answerEach (config : SiteConfig) (requests : List (Value × Value)) :
    Exec (List Answer × Value) := do
  let blog ← make
  let answers ← requests.mapM fun (path, method) => respond blog config path method
  return (answers, ← Exec.describe blog)

def serve (config : SiteConfig) (requests : List (Value × Value)) (w : World) :
    Except Stop (List Answer × Value) × World :=
  let e := answerEach config requests w
  (e.result, e.world)

def demoRequests : List (String × String) :=
  ["/blog/", "/blog/api/posts", "/blog/api/posts/routing", "/blog/api/posts/missing",
    "/blog/posts/hello/comments", "/blog/nowhere", "/elsewhere"].map fun path => (path, "GET")

def Answer.line (path method : String) (a : Answer) : String :=
  method ++ " " ++ path ++ " -> " ++ a.outcome.label ++ " " ++ toString a.response.status ++ " " ++
    a.response.body.literal

/-- A blog with logging that is published below a path of its own answers a few requests. -/
def demo : Exec Unit := do
  let blog ← make
  let _ ← Exec.plug blog (.text "logging") [] none
  let config ← Exec.lift (SiteConfig.ofUrl (.text "https://example.com/blog") [])
  Exec.logLine .print "--- Blog Dispatch Demo ---"
  demoRequests.forM fun (path, method) => do
    let a ← respond blog config (.text path) (.text method)
    Exec.logLine .print (a.line path method)
  let link ← Exec.lift (config.makeUrl (.text "api/posts/hello"))
  Exec.logLine .print ("Link: " ++ link)

def demoLog : List LogLine := (demo {}).world.log

end Blog
end HandlerChains
