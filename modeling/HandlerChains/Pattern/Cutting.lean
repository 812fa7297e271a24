import HandlerChains.Pattern.Template

/-!
# Cutting a route along a template

A cutting gives every placeholder in use a piece of the route and leaves a remainder. `Cuts` says
which cuttings there are; `cuttings` lists them in the order of preference, in which a segment takes
as much as it can, a run as little as it can, and an optional part is used rather than skipped;
`search` finds the first one whose remainder can be gone on with, without building the list, and
`search_eq` says so.
-/

namespace HandlerChains
namespace Pattern

/-- The raw pieces of a cutting, in textual order. -/
abbrev Pieces := List (String × List Char)

namespace Template

/-- The template cuts a route into pieces and a remainder. -/
inductive Cuts : Template → List Char → Pieces → List Char → Prop where
  | done (route) : Cuts done route [] route
  | literal {c next route pieces rest} :
      Cuts next route pieces rest → Cuts (literal c next) (c :: route) pieces rest
  | segment {name mayBeEmpty next piece route pieces rest} :
      '/' ∉ piece → (mayBeEmpty = false → piece ≠ []) → Cuts next route pieces rest →
      Cuts (segment name mayBeEmpty next) (piece ++ route) ((name, piece) :: pieces) rest
  | run {name next piece route pieces rest} :
      '\n' ∉ piece → Cuts next route pieces rest →
      Cuts (run name next) (piece ++ route) ((name, piece) :: pieces) rest
  | use {body next route middle inner pieces rest} :
      Cuts body route inner middle → Cuts next middle pieces rest →
      Cuts (optional body next) route (inner ++ pieces) rest
  | skip {body next route pieces rest} :
      Cuts next route pieces rest → Cuts (optional body next) route pieces rest

end Template

def notSlash (c : Char) : Bool := c != '/'

def notNewline (c : Char) : Bool := c != '\n'

/-- The ways to take a piece of characters in `p` off a route, the shortest first. -/
def splits (p : Char → Bool) : List Char → List (List Char × List Char)
  | [] => [([], [])]
  | c :: cs =>
    ([], c :: cs) :: if p c then (splits p cs).map fun (piece, rest) => (c :: piece, rest) else []

def runSplits (route : List Char) : List (List Char × List Char) := splits notNewline route

/-- The ways to keep a piece of what was taken, which stands here last character first, and to give
the rest back to the route. -/
def shrinkings (mayBeEmpty : Bool) : (taken route : List Char) → List (List Char × List Char)
  | [], route => if mayBeEmpty then [([], route)] else []
  | c :: taken, route => ((c :: taken).reverse, route) :: shrinkings mayBeEmpty taken (c :: route)

def segmentSplits (mayBeEmpty : Bool) (route : List Char) : List (List Char × List Char) :=
  shrinkings mayBeEmpty (route.takeWhile notSlash).reverse (route.dropWhile notSlash)

/-- The shortest piece of characters in `p` after which `f` has an answer, and the answer. -/
def firstShortest {β : Type} (p : Char → Bool) (f : List Char → Option β) :
    (taken route : List Char) → Option (List Char × β)
  | taken, [] => (f []).map fun b => (taken.reverse, b)
  | taken, c :: cs =>
    match f (c :: cs) with
    | some b => some (taken.reverse, b)
    | none => if p c then firstShortest p f (c :: taken) cs else none

/-- The longest piece of what was taken after which `f` has an answer, and the answer. -/
def firstLongest {β : Type} (mayBeEmpty : Bool) (f : List Char → Option β) :
    (taken route : List Char) → Option (List Char × β)
  | [], route => if mayBeEmpty then (f route).map fun b => ([], b) else none
  | c :: taken, route =>
    match f route with
    | some b => some ((c :: taken).reverse, b)
    | none => firstLongest mayBeEmpty f taken (c :: route)

theorem firstShortest_eq {β : Type} (p : Char → Bool) (f : List Char → Option β)
    (taken route : List Char) :
    firstShortest p f taken route = (splits p route).findSome? fun (piece, rest) =>
      (f rest).map fun b => (taken.reverse ++ piece, b) := by
  induction route generalizing taken with
  | nil => cases h : f [] <;> simp [firstShortest, splits, h]
  | cons c cs ih =>
    cases h : f (c :: cs) with
    | some b => simp [firstShortest, splits, h]
    | none =>
      by_cases hp : p c
      · simp [firstShortest, splits, h, hp, ih, List.findSome?_map, Function.comp_def]
      · simp [firstShortest, splits, h, hp]

theorem firstLongest_eq {β : Type} (mayBeEmpty : Bool) (f : List Char → Option β)
    (taken route : List Char) :
    firstLongest mayBeEmpty f taken route =
      (shrinkings mayBeEmpty taken route).findSome? fun (piece, rest) =>
        (f rest).map fun b => (piece, b) := by
  induction taken generalizing route with
  | nil => cases mayBeEmpty <;> cases h : f route <;> simp [firstLongest, shrinkings, h]
  | cons c taken ih => cases h : f route <;> simp [firstLongest, shrinkings, h, ih]

namespace Template

/-- All cuttings, the preferred first. -/
def cuttings : Template → List Char → List (Pieces × List Char)
  | done, route => [([], route)]
  | literal _ _, [] => []
  | literal c next, d :: route => if c = d then cuttings next route else []
  | segment name mayBeEmpty next, route =>
    (segmentSplits mayBeEmpty route).flatMap fun (piece, rest) =>
      (cuttings next rest).map fun (pieces, rest) => ((name, piece) :: pieces, rest)
  | run name next, route =>
    (runSplits route).flatMap fun (piece, rest) =>
      (cuttings next rest).map fun (pieces, rest) => ((name, piece) :: pieces, rest)
  | optional body next, route =>
    ((cuttings body route).flatMap fun (inner, middle) =>
      (cuttings next middle).map fun (pieces, rest) => (inner ++ pieces, rest)) ++
    cuttings next route

def captured {β : Type} (name : String) : List Char × Pieces × β → Pieces × β
  | (piece, pieces, b) => ((name, piece) :: pieces, b)

/-- The pieces of the preferred cutting after whose remainder `goOn` has an answer, in front of the
pieces that `goOn` found, and the answer. -/
def search {β : Type} :
    Template → (goOn : List Char → Option (Pieces × β)) → List Char → Option (Pieces × β)
  | done, goOn, route => goOn route
  | literal _ _, _, [] => none
  | literal c next, goOn, d :: route => if c = d then search next goOn route else none
  | segment name mayBeEmpty next, goOn, route =>
    (firstLongest mayBeEmpty (search next goOn) (route.takeWhile notSlash).reverse
      (route.dropWhile notSlash)).map (captured name)
  | run name next, goOn, route =>
    (firstShortest notNewline (search next goOn) [] route).map (captured name)
  | optional body next, goOn, route =>
    (search body (search next goOn) route).or (search next goOn route)

private theorem findSome?_flatMap_map {α γ δ β : Type} (l : List α) (f : α → List γ)
    (h : α → γ → δ) (g : δ → Option β) :
    (l.flatMap fun a => (f a).map (h a)).findSome? g =
      l.findSome? fun a => (f a).findSome? fun b => g (h a b) := by
  induction l with
  | nil => rfl
  | cons a l ih => simp only [List.flatMap_cons, List.findSome?_append, List.findSome?_map, ih,
      List.findSome?_cons, Function.comp_def]; cases (f a).findSome? fun b => g (h a b) <;> rfl

private theorem map_findSome? {α γ δ : Type} (l : List α) (f : α → Option γ) (g : γ → δ) :
    (l.findSome? f).map g = l.findSome? fun a => (f a).map g := by
  induction l with
  | nil => rfl
  | cons a l ih => cases h : f a <;> simp [h, ih]

/-- The search answers as if it tried the listed cuttings one after another. -/
theorem search_eq {β : Type} (t : Template) (goOn : List Char → Option (Pieces × β))
    (route : List Char) :
    t.search goOn route = (t.cuttings route).findSome? fun (pieces, rest) =>
      (goOn rest).map fun (more, b) => (pieces ++ more, b) := by
  induction t generalizing route goOn with
  | done => cases h : goOn route <;> simp [search, cuttings, h]
  | literal c next ih =>
    cases route with
    | nil => simp [search, cuttings]
    | cons d route => by_cases h : c = d <;> simp [search, cuttings, h, ih]
  | segment name mayBeEmpty next ih =>
    simp only [search, cuttings, segmentSplits, firstLongest_eq, ih, findSome?_flatMap_map,
      map_findSome?, Option.map_map, Function.comp_def, captured, List.cons_append]
  | run name next ih =>
    simp only [search, cuttings, runSplits, firstShortest_eq, ih, findSome?_flatMap_map,
      map_findSome?, Option.map_map, Function.comp_def, captured, List.cons_append,
      List.reverse_nil, List.nil_append]
  | optional body next ihBody ihNext =>
    simp only [search, cuttings, ihBody, ihNext, List.findSome?_append, findSome?_flatMap_map,
      map_findSome?, Option.map_map, Function.comp_def, List.append_assoc]

end Template
end Pattern
end HandlerChains
