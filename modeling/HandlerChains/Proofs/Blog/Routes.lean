import HandlerChains.Example.Blog
import HandlerChains.Proofs.Pattern.Prefix

/-!
# Where the routes of the blog lead

There is something at four kinds of routes, two of them with the name of a post in them. No route is
of two kinds, and each kind is what the pattern of its handler matches.
-/

namespace HandlerChains

namespace Pattern

namespace Template

variable {next : Template} {route rest : List Char} {pieces : Pieces}

def after (s : String) (next : Template) : Template := s.toList.foldr .literal next

theorem cuts_done : Cuts done route pieces rest ↔ pieces = [] ∧ rest = route := by
  constructor
  · intro cuts
    cases cuts
    exact ⟨rfl, rfl⟩
  · rintro ⟨rfl, rfl⟩
    exact .done _

theorem cuts_after {s : String} :
    Cuts (after s next) route pieces rest ↔
      ∃ left, route = s.toList ++ left ∧ Cuts next left pieces rest := by
  unfold after
  induction s.toList generalizing route with
  | nil => simp
  | cons c cs ih =>
    constructor
    · rintro (_ | cuts)
      obtain ⟨left, rfl, behind⟩ := ih.1 cuts
      exact ⟨left, rfl, behind⟩
    · rintro ⟨left, rfl, cuts⟩
      exact .literal (ih.2 ⟨left, rfl, cuts⟩)

theorem cuts_segment {name : String} {mayBeEmpty : Bool} :
    Cuts (segment name mayBeEmpty next) route pieces rest ↔
      ∃ piece left others, route = piece ++ left ∧ '/' ∉ piece ∧
        (mayBeEmpty = false → piece ≠ []) ∧ pieces = (name, piece) :: others ∧
        Cuts next left others rest := by
  constructor
  · rintro (_ | _ | ⟨inside, some, cuts⟩)
    exact ⟨_, _, _, rfl, inside, some, rfl, cuts⟩
  · rintro ⟨piece, left, others, rfl, inside, some, rfl, cuts⟩
    exact .segment inside some cuts

end Template

variable {p : Pattern} {route : String} {captured : Params}

/-- Where a route can be cut in one way only, this way decides what a pattern captures. -/
theorem matchWhole?_eq_some_iff
    (unique : ∀ pieces pieces', p.template.Cuts route.toList pieces [] →
      p.template.Cuts route.toList pieces' [] → pieces = pieces') :
    p.matchWhole? route = some captured ↔
      ∃ pieces, p.template.Cuts route.toList pieces [] ∧ captured = captures pieces := by
  constructor
  · exact cuts_of_matchWhole?
  · rintro ⟨pieces, cuts, rfl⟩
    obtain ⟨captured, matched⟩ := Option.isSome_iff_exists.1 (matchWhole?_of_cuts cuts)
    obtain ⟨pieces', cuts', rfl⟩ := cuts_of_matchWhole? matched
    rw [matched, unique pieces' pieces cuts' cuts]

end Pattern

namespace Blog

open Pattern Pattern.Template

inductive Destination where
  | home
  | comments (post : String)
  | posts
  | post (name : String)

/-- The routes that lead somewhere. The name of a post is decoded. -/
inductive LeadsTo : String → Destination → Prop
  | home : LeadsTo "" .home
  | comments {segment : String} (inside : '/' ∉ segment.toList) (nonempty : segment ≠ "") :
      LeadsTo ("posts/" ++ segment ++ "/comments") (.comments (Text.Percent.decode segment))
  | posts : LeadsTo "api/posts" .posts
  | post {segment : String} (inside : '/' ∉ segment.toList) :
      LeadsTo ("api/posts/" ++ segment) (.post (Text.Percent.decode segment))

/-! ## Patterns -/

def commentsPattern : Pattern :=
  ⟨"posts/:slug/comments", ["slug"],
    .after "posts/" (.segment "slug" false (.after "/comments" .done))⟩

def apiPattern : Pattern := ⟨"api/", [], .after "api/" .done⟩

def postsPattern : Pattern := ⟨"posts", [], .after "posts" .done⟩

def postPattern : Pattern := ⟨"posts/:slug", ["slug"], .after "posts/" (.segment "slug" true .done)⟩

variable {route rest : String} {captured : Params}

theorem matchWhole?_text {p : Pattern} {text : String} (template : p.template = .after text .done) :
    p.matchWhole? route = some captured ↔ route = text ∧ captured = [] := by
  have cuts : ∀ pieces, p.template.Cuts route.toList pieces [] ↔ pieces = [] ∧ route = text := by
    intro pieces
    rw [template, cuts_after]
    simp only [cuts_done, ← String.toList_inj]
    constructor
    · rintro ⟨left, eq, rfl, rfl⟩
      exact ⟨rfl, by simpa using eq⟩
    · rintro ⟨rfl, eq⟩
      exact ⟨[], by simpa using eq, rfl, rfl⟩
  rw [matchWhole?_eq_some_iff fun _ _ h h' => ((cuts _).1 h).1.trans ((cuts _).1 h').1.symm]
  simp only [cuts]
  constructor
  · rintro ⟨_, ⟨rfl, eq⟩, rfl⟩
    exact ⟨eq, rfl⟩
  · rintro ⟨eq, rfl⟩
    exact ⟨[], ⟨rfl, eq⟩, rfl⟩

theorem matchWhole?_segment {p : Pattern} {before name behind : String} {mayBeEmpty : Bool}
    (template : p.template =
      .after before (.segment name mayBeEmpty (.after behind .done))) :
    p.matchWhole? route = some captured ↔ ∃ segment : String, '/' ∉ segment.toList ∧
      (mayBeEmpty = false → segment ≠ "") ∧ route = before ++ segment ++ behind ∧
        captured = [(name, Text.Percent.decode segment)] := by
  have cuts : ∀ pieces, p.template.Cuts route.toList pieces [] ↔ ∃ segment : String,
      '/' ∉ segment.toList ∧ (mayBeEmpty = false → segment ≠ "") ∧
        route = before ++ segment ++ behind ∧ pieces = [(name, segment.toList)] := by
    intro pieces
    rw [template, cuts_after]
    simp only [cuts_segment, cuts_after, cuts_done]
    constructor
    · rintro ⟨_, eq, piece, _, _, rfl, inside, some, rfl, _, rfl, rfl, rfl⟩
      refine ⟨String.ofList piece, by simpa using inside, fun no => ?_, ?_, by simp⟩
      · simpa [← String.toList_inj] using some no
      · rw [← String.toList_inj, eq]
        simp
    · rintro ⟨segment, inside, some, rfl, rfl⟩
      refine ⟨segment.toList ++ behind.toList, by simp, segment.toList, behind.toList, [], rfl,
        inside, fun no empty => ?_, rfl, [], by simp, rfl, rfl⟩
      exact some no (String.toList_eq_nil_iff.1 empty)
  have unique : ∀ pieces pieces', p.template.Cuts route.toList pieces [] →
      p.template.Cuts route.toList pieces' [] → pieces = pieces' := by
    intro pieces pieces' h h'
    obtain ⟨segment, -, -, eq, rfl⟩ := (cuts _).1 h
    obtain ⟨segment', -, -, eq', rfl⟩ := (cuts _).1 h'
    have same : segment.toList = segment'.toList := by
      have both := congrArg String.toList (eq.symm.trans eq')
      simp only [String.toList_append] at both
      exact List.append_cancel_left (List.append_cancel_right both)
    rw [same]
  rw [matchWhole?_eq_some_iff unique]
  simp only [cuts]
  constructor
  · rintro ⟨_, ⟨segment, inside, some, eq, rfl⟩, rfl⟩
    exact ⟨segment, inside, some, eq, rfl⟩
  · rintro ⟨segment, inside, some, eq, rfl⟩
    exact ⟨_, ⟨segment, inside, some, eq, rfl⟩, rfl⟩

theorem home_iff : Pattern.empty.matchWhole? route = some captured ↔
    route = "" ∧ captured = [] :=
  matchWhole?_text rfl

theorem comments_iff : commentsPattern.matchWhole? route = some captured ↔
    ∃ segment : String, '/' ∉ segment.toList ∧ segment ≠ "" ∧
      route = "posts/" ++ segment ++ "/comments" ∧
        captured = [("slug", Text.Percent.decode segment)] := by
  have template : commentsPattern.template =
      .after "posts/" (.segment "slug" false (.after "/comments" .done)) := rfl
  simpa using matchWhole?_segment template

theorem posts_iff : postsPattern.matchWhole? route = some captured ↔
    route = "posts" ∧ captured = [] :=
  matchWhole?_text rfl

theorem post_iff : postPattern.matchWhole? route = some captured ↔
    ∃ segment : String, '/' ∉ segment.toList ∧ route = "posts/" ++ segment ∧
      captured = [("slug", Text.Percent.decode segment)] := by
  have template : postPattern.template =
      .after "posts/" (.segment "slug" true (.after "" .done)) := rfl
  simpa using matchWhole?_segment template

theorem api_iff : apiPattern.matchStart? route = some (captured, rest) ↔
    route = "api/" ++ rest ∧ captured = [] := by
  have cuts : ∀ pieces left, apiPattern.template.Cuts route.toList pieces left ↔
      pieces = [] ∧ route.toList = "api/".toList ++ left := by
    intro pieces left
    rw [show apiPattern.template = .after "api/" .done from rfl, cuts_after]
    simp only [cuts_done]
    constructor
    · rintro ⟨_, eq, rfl, rfl⟩
      exact ⟨rfl, eq⟩
    · rintro ⟨rfl, eq⟩
      exact ⟨left, eq, rfl, rfl⟩
  obtain ⟨none, uncut⟩ | ⟨pieces, left, found, starts⟩ := matchStart?_cases apiPattern route
  · constructor
    · rw [none]
      exact nofun
    · rintro ⟨rfl, rfl⟩
      exact absurd ((cuts [] rest.toList).2 ⟨rfl, String.toList_append⟩) (uncut _ _)
  · obtain ⟨rfl, eq⟩ := (cuts _ _).1 found
    have whole : route = "api/" ++ String.ofList left := by
      rw [← String.toList_inj, eq]
      simp
    rw [starts, whole]
    constructor
    · intro same
      obtain ⟨rfl, rfl⟩ := Prod.mk.inj (Option.some.inj same)
      exact ⟨rfl, rfl⟩
    · rintro ⟨eq, rfl⟩
      obtain rfl : String.ofList left = rest := by
        have both := congrArg String.toList eq
        simp only [String.toList_append] at both
        exact String.toList_inj.1 (List.append_cancel_left both)
      rfl

/-! ## Destinations -/

variable {d d' : Destination}

theorem LeadsTo.unique (leads : LeadsTo route d) (leads' : LeadsTo route d') : d = d' := by
  generalize same : route = route' at leads'
  have chars := congrArg String.toList same
  -- routes of two kinds have different first letters or different lengths
  cases leads <;> cases leads' <;> simp at chars ⊢
  all_goals rw [String.toList_inj.1 chars]

/-- Whether the patterns of the handlers on the way to a place match, one after another. -/
def Destination.IsFound (route : String) : Destination → Prop
  | home => Pattern.empty.matchWhole? route = some []
  | comments name => commentsPattern.matchWhole? route = some [("slug", name)]
  | posts => ∃ rest, apiPattern.matchStart? route = some ([], rest) ∧
      postsPattern.matchWhole? rest = some []
  | post name => ∃ rest, apiPattern.matchStart? route = some ([], rest) ∧
      postPattern.matchWhole? rest = some [("slug", name)]

theorem leadsTo_iff : LeadsTo route d ↔ d.IsFound route := by
  constructor
  · rintro (_ | ⟨inside, nonempty⟩ | _ | inside)
    · exact home_iff.2 ⟨rfl, rfl⟩
    · exact comments_iff.2 ⟨_, inside, nonempty, rfl, rfl⟩
    · exact ⟨"posts", api_iff.2 ⟨rfl, rfl⟩, posts_iff.2 ⟨rfl, rfl⟩⟩
    · exact ⟨_, api_iff.2 ⟨by rw [← String.append_assoc]; rfl, rfl⟩,
        post_iff.2 ⟨_, inside, rfl, rfl⟩⟩
  · intro found
    cases d with
    | home =>
      obtain ⟨rfl, -⟩ := home_iff.1 found
      exact .home
    | comments name =>
      obtain ⟨segment, inside, nonempty, rfl, same⟩ := comments_iff.1 found
      cases same
      exact .comments inside nonempty
    | posts =>
      obtain ⟨rest, starts, matched⟩ := found
      obtain ⟨rfl, -⟩ := api_iff.1 starts
      obtain ⟨rfl, -⟩ := posts_iff.1 matched
      exact .posts
    | post name =>
      obtain ⟨rest, starts, matched⟩ := found
      obtain ⟨rfl, -⟩ := api_iff.1 starts
      obtain ⟨segment, inside, rfl, same⟩ := post_iff.1 matched
      cases same
      rw [← String.append_assoc]
      exact .post inside

theorem api_not_home : Pattern.empty.matchWhole? ("api/" ++ rest) = none := by
  refine Option.eq_none_iff_forall_ne_some.2 fun captured matched => ?_
  have chars := congrArg String.toList (home_iff.1 matched).1
  simp at chars

theorem api_not_comments : commentsPattern.matchWhole? ("api/" ++ rest) = none := by
  refine Option.eq_none_iff_forall_ne_some.2 fun captured matched => ?_
  obtain ⟨segment, -, -, same, -⟩ := comments_iff.1 matched
  have chars := congrArg String.toList same
  simp at chars

theorem leadsTo_api_iff : LeadsTo ("api/" ++ rest) d ↔
    d = .posts ∧ postsPattern.matchWhole? rest = some [] ∨
      ∃ name, d = .post name ∧ postPattern.matchWhole? rest = some [("slug", name)] := by
  have starts : ∀ rest', apiPattern.matchStart? ("api/" ++ rest) = some ([], rest') ↔
      rest = rest' := by
    intro rest'
    rw [api_iff, and_iff_left rfl, ← String.toList_inj, ← String.toList_inj, String.toList_append,
      String.toList_append, List.append_cancel_left_eq]
  rw [leadsTo_iff]
  cases d <;> simp [Destination.IsFound, starts, api_not_home, api_not_comments]

theorem posts_leads (matched : postsPattern.matchWhole? rest = some captured) :
    captured = [] ∧ LeadsTo ("api/" ++ rest) .posts := by
  obtain ⟨rfl, rfl⟩ := posts_iff.1 matched
  exact ⟨rfl, .posts⟩

theorem post_leads (matched : postPattern.matchWhole? rest = some captured) :
    ∃ name, captured = [("slug", name)] ∧ LeadsTo ("api/" ++ rest) (.post name) := by
  obtain ⟨segment, -, -, rfl⟩ := post_iff.1 matched
  exact ⟨_, rfl, leadsTo_api_iff.2 (.inr ⟨_, rfl, matched⟩)⟩

theorem comments_leads (matched : commentsPattern.matchWhole? route = some captured) :
    ∃ name, captured = [("slug", name)] ∧ LeadsTo route (.comments name) := by
  obtain ⟨segment, -, -, -, rfl⟩ := comments_iff.1 matched
  exact ⟨_, rfl, leadsTo_iff.2 matched⟩

theorem home_not_comments : commentsPattern.matchWhole? "" = none := by decide +kernel

theorem home_not_api : apiPattern.matchStart? "" = none := by decide +kernel

theorem comments_not_api (matched : commentsPattern.matchWhole? route = some captured) :
    apiPattern.matchStart? route = none := by
  refine Option.eq_none_iff_forall_ne_some.2 fun (_, rest) starts => ?_
  obtain ⟨rfl, -⟩ := api_iff.1 starts
  rw [api_not_comments] at matched
  cases matched

end Blog
end HandlerChains
