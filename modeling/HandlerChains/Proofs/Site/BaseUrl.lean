import HandlerChains.Proofs.Site.Config
import HandlerChains.Proofs.Site.Url

/-!
# Base URLs

The configuration that is made of a URL has the parts of that URL, and defaults for the scheme and
the host where it has none. Its base URL has all of them, so the configuration that is made of this
one is published at the same place.
-/

namespace HandlerChains

namespace Site

theorem wrapPath_begins (s : String) :
    ∃ rest, wrapPath s = "/" ++ rest ∧ ∀ c ∈ rest.toList, c = '/' ∨ c ∈ s.toList := by
  obtain ⟨-, root⟩ | ⟨-, -, -, wrapped⟩ := wrapPath_cases s
  · exact ⟨"", by rw [root]; rfl, nofun⟩
  · refine ⟨String.ofList (Text.trimBoth isSlash s.toList ++ ['/']), ?_, fun c mem => ?_⟩
    · rw [← String.toList_inj, wrapped, String.toList_append, String.toList_ofList]
      simp
    · rw [String.toList_ofList, List.mem_append, List.mem_singleton] at mem
      refine mem.symm.imp_right fun inner => ?_
      have kept : Text.trimBoth isSlash s.toList <+: s.toList.dropWhile isSlash :=
        List.rdropWhile_prefix isSlash _
      exact (List.dropWhile_suffix _).mem (kept.mem inner)

end Site

namespace SiteConfig

open Site

def partOr (standIn part : String) : String := if part = "" then standIn else part

def ofParts (p : UrlParts) : SiteConfig where
  settings := [("scheme", .text (partOr "http" p.scheme)),
    ("host", .text (partOr "localhost" p.host)),
    ("path", .text p.path)]

section

variable {u : Value} {c : SiteConfig} (p : UrlParts)

theorem ofUrl_of_split {url : String} {p : UrlParts} (read : urlOf u = .ok url)
    (split : splitUrl url = .ok p) : ofUrl u [] = .ok (ofParts p) := by
  by_cases scheme : p.scheme = "" <;> by_cases host : p.host = "" <;> by_cases path : p.path = ""
  all_goals
    simp [ofUrl, ofSettings, expandUrl, read, split, refusals, ownSettings, furtherSettings, rules,
      defaults, ofParts, partOr, Assoc.get?, Assoc.has, Assoc.put, Assoc.erase,
      Options.Rules.check, Options.sortRefusals, Options.Rules.problem?, Options.selfName,
      Options.Accepts.problem?, scheme, host, path, bind, Except.bind, pure, Except.pure]

/-- A configuration is made of whatever can be split, and of nothing else. -/
theorem ofUrl_eq_ok_iff :
    ofUrl u [] = .ok c ↔
      ∃ url p, urlOf u = .ok url ∧ splitUrl url = .ok p ∧ c = ofParts p := by
  constructor
  · intro made
    cases read : urlOf u with
    | error f =>
      simp [ofUrl, ofSettings, expandUrl, Assoc.get?, Assoc.has, read, bind, Except.bind] at made
    | ok url =>
      cases split : splitUrl url with
      | error reason =>
        simp [ofUrl, ofSettings, expandUrl, Assoc.get?, Assoc.has, read, split, bind,
          Except.bind] at made
      | ok p =>
        rw [ofUrl_of_split read split] at made
        exact ⟨url, p, rfl, split, (Except.ok.inj made).symm⟩
  · rintro ⟨url, p, read, split, rfl⟩
    exact ofUrl_of_split read split

theorem get_ofParts :
    (ofParts p).get "scheme" = .ok (.text (partOr "http" p.scheme)) ∧
      (ofParts p).get "host" = .ok (.text (partOr "localhost" p.host)) ∧
      (ofParts p).get "path" = .ok (.text p.path) :=
  ⟨rfl, rfl, rfl⟩

theorem basePath_ofParts : (ofParts p).basePath = .ok (wrapPath p.path) := rfl

/-- Scheme and host of a configuration, as its URLs begin with them. -/
def origin (p : UrlParts) : String := partOr "http" p.scheme ++ "://" ++ partOr "localhost" p.host

theorem urlOfPath_ofParts (path : String) : (ofParts p).urlOfPath path = .ok (origin p ++ path) :=
  rfl

theorem baseUrl_ofParts : (ofParts p).baseUrl = .ok (origin p ++ wrapPath p.path) := rfl

/-- The URL of a route is the base URL before the route, but for the empty route of a site without a
path, which has no slash at its end. -/
theorem makeUrl_ofParts (route : String) :
    (ofParts p).makeUrl (.text route) =
      .ok (if p.path = "" ∧ route = "" then origin p
        else origin p ++ wrapPath p.path ++ route) := by
  have makes : (ofParts p).makePath (.text route) = .ok (wrapPath p.path ++ route) := rfl
  have reached : (ofParts p).reach "make_url" = .ok () := rfl
  unfold makeUrl
  rw [reached]
  dsimp only [bind, Except.bind]
  by_cases empty : route = ""
  · subst empty
    rw [(get_ofParts p).2.2]
    by_cases none : p.path = "" <;> simp [none, makes, urlOfPath_ofParts]
  · simp [empty, makes, urlOfPath_ofParts, String.append_assoc]

def published (p : UrlParts) : UrlParts :=
  ⟨partOr "http" p.scheme, partOr "localhost" p.host, wrapPath p.path⟩

variable {p}

/-- A base URL is split into the parts that it was put together from. -/
theorem splitUrl_baseUrl (proper : p.Proper) :
    splitUrl (origin p ++ wrapPath p.path) = .ok (published p) := by
  have scheme : IsLowerScheme (partOr "http" p.scheme).toList := by
    unfold partOr
    split
    · exact ⟨by decide, by decide⟩
    · next some => exact proper.scheme.resolve_left some
  have host : ∀ c ∈ (partOr "localhost" p.host).toList, IsHostChar c := by
    unfold partOr
    split
    · simp [IsHostChar, endsHost, isDropped]
    · exact proper.host
  have faultless : hostFault? (partOr "localhost" p.host).toList = none := by
    unfold partOr
    split
    · cbv
    · exact proper.faultless
  obtain ⟨rest, wrapped, chars⟩ := wrapPath_begins p.path
  have path : ∀ c ∈ rest.toList, IsPathChar c := by
    intro c mem
    obtain rfl | inner := chars c mem
    · simp [IsPathChar, isDropped]
    · exact proper.path c inner
  unfold published
  rw [wrapped]
  exact splitUrl_composed scheme host faultless path

end

/-- Every configuration that is made of a URL has a base URL, and the configuration that is made of
this one has the same scheme, host, base path and base URL. The URL of a route is the base URL
before the route, unless the path of the configuration and the route are both empty. -/
theorem ofUrl_baseUrl_stable {u : Value} {c : SiteConfig} (made : ofUrl u [] = .ok c) :
    ∃ scheme host path base baseUrl c', c.get "scheme" = .ok (.text scheme) ∧
      c.get "host" = .ok (.text host) ∧ c.get "path" = .ok (.text path) ∧
      c.basePath = .ok base ∧ c.baseUrl = .ok baseUrl ∧
      ofUrl (.text baseUrl) [] = .ok c' ∧ c'.get "scheme" = .ok (.text scheme) ∧
      c'.get "host" = .ok (.text host) ∧ c'.basePath = .ok base ∧ c'.baseUrl = .ok baseUrl ∧
      ∀ route, c.makeUrl (.text route) = .ok (baseUrl ++ route) ↔ ¬ (path = "" ∧ route = "") := by
  obtain ⟨url, p, -, split, rfl⟩ := ofUrl_eq_ok_iff.1 made
  have again := splitUrl_baseUrl (splitUrl_proper split)
  have kept : ∀ standIn part : String, standIn ≠ "" →
      partOr standIn (partOr standIn part) = partOr standIn part := by
    intro standIn part some
    unfold partOr
    split <;> simp_all
  obtain ⟨scheme, host, -⟩ := get_ofParts (published p)
  have origins : origin (published p) = origin p := by
    simp only [origin, published, kept _ _ (show "http" ≠ "" by decide),
      kept _ _ (show "localhost" ≠ "" by decide)]
  refine ⟨_, _, _, _, _, ofParts (published p), rfl, rfl, rfl, rfl, baseUrl_ofParts p,
    ofUrl_of_split rfl again, ?_, ?_, ?_, ?_, fun route => ?_⟩
  · rw [scheme, published, kept _ _ (by decide)]
  · rw [host, published, kept _ _ (by decide)]
  · rw [basePath_ofParts, published, wrapPath_wrapPath]
  · rw [baseUrl_ofParts, origins, published, wrapPath_wrapPath]
  · rw [makeUrl_ofParts]
    -- where both are empty the URL ends before the slash of the base path
    by_cases both : p.path = "" ∧ route = ""
    · have root : wrapPath "" = "/" := by decide
      have longer : origin p ≠ origin p ++ "/" := fun same => by
        simpa using congrArg String.length same
      simp [both, root, longer]
    · simp [both]

/-- A URL with blanks before it, an upper-case scheme, slashes in a row, a query and a fragment. -/
def tangledUrl : String := "  HTTPS://me@Example.com:80//a//b/?c=d#e"

theorem ofUrl_tangledUrl_stable :
    let c := ofParts ⟨"https", "me@Example.com:80", "//a//b/"⟩
    ofUrl (.text tangledUrl) [] = .ok c ∧ ∃ c', c.baseUrl = .ok "https://me@Example.com:80/a//b/" ∧
      ofUrl (.text "https://me@Example.com:80/a//b/") [] = .ok c' ∧
      c'.baseUrl = .ok "https://me@Example.com:80/a//b/" ∧
      c.makeUrl (.text "") = .ok "https://me@Example.com:80/a//b/" := by
  intro c
  have made : ofUrl (.text tangledUrl) [] = .ok c := by cbv
  have base : c.baseUrl = .ok "https://me@Example.com:80/a//b/" := by cbv
  obtain ⟨_, _, path, _, _, c', -, -, given, -, first, made', -, -, -, again, makes⟩ :=
    ofUrl_baseUrl_stable made
  obtain rfl := Except.ok.inj (base.symm.trans first)
  obtain rfl : "//a//b/" = path := Value.text.inj (Except.ok.inj given)
  exact ⟨made, c', base, made', again, (makes "").2 (by simp)⟩

end SiteConfig
end HandlerChains
