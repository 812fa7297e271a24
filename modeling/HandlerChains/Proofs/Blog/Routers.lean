import HandlerChains.Proofs.Blog.Routes
import HandlerChains.Proofs.Dispatch.Turning
import Mathlib

/-!
# The routers of the blog

Making the blog leads to two routers without plugins. What they do when they run is decided by their
handlers and by nothing else.
-/

namespace HandlerChains
namespace Blog

open Exec

def boundMethod (serial : Nat) (title name : String) (body : List Instruction) : Callable where
  serial := serial
  label := title ++ "." ++ name
  ownName := some name
  body := body
  result := .null

def home : Callable := boundMethod 6 "Blog" "home" [.write (.text "Welcome")]

def addComment : Callable := boundMethod 7 "Blog" "add_comment" [.setStatus 201]

def serverError : Callable := boundMethod 10 "Blog" "server_error" [.setStatus 500, .writeFailure]

def methodNotAllowed : Callable := boundMethod 12 "Blog" "method_not_allowed" refuseMethod

def pageNotFound : Callable := boundMethod 13 "Blog" "page_not_found" missingPage

def listPosts : Callable := boundMethod 3 "Api" "list_posts" [.write (.text "hello,routing")]

def getPost : Callable := boundMethod 4 "Api" "get_post" [.writeFrom posts "slug"]

def apiHandlers : List Handler :=
  [.endpoint "GET" postsPattern (.callable listPosts),
    .endpoint "GET" postPattern (.callable getPost)]

def blogHandlers : List Handler :=
  [.configure none,
    .endpoint "GET" .empty (.callable home),
    .endpoint "POST" commentsPattern (.callable addComment),
    .mount apiPattern 0,
    .badMethod (.callable methodNotAllowed),
    .always (.callable pageNotFound)]

/-- What decides how a router runs. -/
def gist (r : Router) : Option Override × Option Override × List (Handler × List Plugin) ×
    List (Handler × List Plugin) :=
  (Assoc.get? r.overrides "run", Assoc.get? r.overrides "_recover",
    r.handlers.map fun e => (e.handler, e.layers),
    r.errorHandlers.map fun e => (e.handler, e.layers))

/-- Nothing is called while a blog is made. -/
theorem make_eq : make = (do
    making.forM fun command => do let _ ← Exec.perform (callsWithin 0) command
    Exec.named (← get).routerNames "blog") := by
  simp only [make, making, List.forM_eq_forM, List.forM_cons, List.forM_nil, perform, Exec.perform]

def made : World := (make {}).world

theorem made_gist : ((make {}).result, gist (made.router 0), gist (made.router 1)) =
    (.ok 1, (none, none, apiHandlers.map fun h => (h, []), []),
      (none, none, blogHandlers.map fun h => (h, []),
        [(.always (.callable serverError), [])])) := by
  unfold made
  rw [make_eq]
  -- nothing is left to be given: four commands are performed, and what they left is looked up
  cbv

theorem made_tries : (make {}).result = .ok 1 ∧ (made.router 0).Tries apiHandlers [] ∧
    (made.router 1).Tries blogHandlers [.always (.callable serverError)] := by
  have facts := made_gist
  simp only [gist, Prod.mk.injEq] at facts
  obtain ⟨result, ⟨run, recover, handlers, errors⟩, run', recover', handlers', errors'⟩ := facts
  exact ⟨result, ⟨run, recover, handlers, errors⟩, run', recover', handlers', errors'⟩

end Blog
end HandlerChains
