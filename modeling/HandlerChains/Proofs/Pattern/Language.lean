import HandlerChains.Proofs.Pattern.Matching
import HandlerChains.Proofs.Pattern.Reading

/-!
# The language of patterns

`Follows` says on a pattern text itself how a route can be cut along it. A pattern matches a route
exactly if the route can be cut along the text of the pattern, and what it captures are the pieces
of one such cutting.
-/

namespace HandlerChains
namespace Pattern

inductive Balanced : List Char → Prop where
  | nil : Balanced []
  | other {c text} : c ≠ '(' → c ≠ ')' → Balanced text → Balanced (c :: text)
  | group {body text} : Balanced body → Balanced text → Balanced ('(' :: (body ++ ')' :: text))

/-- A route is cut into pieces along a pattern text, which stands inside a group or not. A piece is
given with the name of its placeholder. -/
inductive Follows : (grouped : Bool) → (text route : List Char) → Pieces → Prop where
  | done {grouped} : Follows grouped [] [] []
  | literal {grouped c text route pieces} : c ≠ ':' → c ≠ '*' → c ≠ '(' → c ≠ ')' →
      Follows grouped text route pieces → Follows grouped (c :: text) (c :: route) pieces
  | marker {grouped c text route pieces} : c = ':' ∨ c = '*' → NoNameAt text →
      Follows grouped text route pieces → Follows grouped (c :: text) (c :: route) pieces
  | segment {grouped name text piece route pieces} : IsName name → NameEndsAt text → '/' ∉ piece →
      (piece = [] → grouped = false ∧ text = []) → Follows grouped text route pieces →
      Follows grouped (':' :: (name ++ text)) (piece ++ route)
        ((String.ofList name, piece) :: pieces)
  | run {grouped name text piece route pieces} : IsName name → NameEndsAt text → '\n' ∉ piece →
      Follows grouped text route pieces →
      Follows grouped ('*' :: (name ++ text)) (piece ++ route)
        ((String.ofList name, piece) :: pieces)
  | use {grouped body text first second inner pieces} : Follows true body first inner →
      Follows grouped text second pieces →
      Follows grouped ('(' :: (body ++ ')' :: text)) (first ++ second) (inner ++ pieces)
  | skip {grouped body text route pieces} : Balanced body → Follows grouped text route pieces →
      Follows grouped ('(' :: (body ++ ')' :: text)) route pieces

theorem isNameStart_paren {c : Char} (h : isNameStart c = true) : c ≠ '(' ∧ c ≠ ')' := by
  constructor <;> rintro rfl <;> revert h <;> decide

theorem isNameRest_paren {c : Char} (h : isNameRest c = true) : c ≠ '(' ∧ c ≠ ')' := by
  constructor <;> rintro rfl <;> revert h <;> decide

theorem IsName.no_paren {name : List Char} (h : IsName name) : ∀ c ∈ name, c ≠ '(' ∧ c ≠ ')' := by
  cases name with
  | nil => exact h.elim
  | cons c rest =>
    intro d hd
    rcases List.mem_cons.1 hd with rfl | hd
    · exact isNameStart_paren h.1
    · exact isNameRest_paren (h.2 d hd)

theorem Balanced.tail {c : Char} {text : List Char} (opens : c ≠ '(') (h : Balanced (c :: text)) :
    Balanced text := by
  generalize hw : c :: text = whole at h
  cases h with
  | nil => cases hw
  | other _ _ h =>
    cases hw
    exact h
  | group _ _ =>
    cases hw
    exact absurd rfl opens

theorem Balanced.of_name {name text : List Char} (plain : ∀ c ∈ name, c ≠ '(' ∧ c ≠ ')')
    (h : Balanced (name ++ text)) : Balanced text := by
  induction name with
  | nil => exact h
  | cons c name ih =>
    obtain ⟨opens, -⟩ := plain c List.mem_cons_self
    exact ih (fun d hd => plain d (List.mem_cons_of_mem _ hd)) (Balanced.tail opens h)

theorem Balanced.of_plain {name text : List Char} (plain : ∀ c ∈ name, c ≠ '(' ∧ c ≠ ')')
    (h : Balanced text) : Balanced (name ++ text) := by
  induction name with
  | nil => exact h
  | cons c name ih =>
    obtain ⟨opens, closes⟩ := plain c List.mem_cons_self
    exact .other opens closes (ih fun d hd => plain d (List.mem_cons_of_mem _ hd))

/-- Whatever stands for a template has matching parentheses. -/
theorem Reads.balanced {grouped : Bool} {text : List Char} {t : Template}
    (h : Reads grouped text t) : Balanced text := by
  induction h with
  | done => exact .nil
  | literal _ _ opens closes _ ih => exact .other opens closes ih
  | marker hc _ _ ih => rcases hc with rfl | rfl <;> exact .other (by decide) (by decide) ih
  | segment hn _ _ ih => exact .other (by decide) (by decide) (.of_plain hn.no_paren ih)
  | run hn _ _ ih => exact .other (by decide) (by decide) (.of_plain hn.no_paren ih)
  | group _ _ ihBody ih => exact .group ihBody ih

/-- Whatever has matching parentheses stands for a template. -/
theorem Balanced.exists_reads {text : List Char} (h : Balanced text) (grouped : Bool) :
    ∃ t, Reads grouped text t := by
  induction hn : text.length using Nat.strong_induction_on generalizing text grouped with
  | _ n ih =>
    cases h with
    | nil => exact ⟨_, .done⟩
    | @other c text opens closes h =>
      have shorter : text.length < n := by simp only [List.length_cons] at hn; omega
      obtain ⟨name, after, rfl, isName, ends, marks⟩ | ⟨marks, none, -⟩ | ⟨rfl, -⟩ | ⟨rfl, -⟩ |
        ⟨colon, star, -, -, -⟩ := symbolAt_cases c text
      · have shorter : after.length < n := by rw [List.length_append] at shorter; omega
        obtain ⟨t, reads⟩ := ih _ shorter (h.of_name isName.no_paren) grouped rfl
        rcases marks with ⟨rfl, -⟩ | ⟨rfl, -⟩
        · exact ⟨_, .segment isName ends reads⟩
        · exact ⟨_, .run isName ends reads⟩
      · obtain ⟨t, reads⟩ := ih _ shorter h grouped rfl
        exact ⟨_, .marker marks none reads⟩
      · exact absurd rfl opens
      · exact absurd rfl closes
      · obtain ⟨t, reads⟩ := ih _ shorter h grouped rfl
        exact ⟨_, .literal colon star opens closes reads⟩
    | @group body text hb h =>
      simp only [List.length_cons, List.length_append] at hn
      obtain ⟨b, readsBody⟩ := ih body.length (by omega) hb true rfl
      obtain ⟨t, reads⟩ := ih text.length (by omega) h grouped rfl
      exact ⟨_, .group readsBody reads⟩

theorem Reads.follows {grouped : Bool} {text route : List Char} {t : Template} {pieces : Pieces}
    (h : Reads grouped text t) (cuts : t.Cuts route pieces []) :
    Follows grouped text route pieces := by
  induction h generalizing route pieces with
  | done =>
    cases cuts
    exact .done
  | literal colon star opens closes _ ih =>
    cases cuts with
    | literal cuts => exact .literal colon star opens closes (ih cuts)
  | marker hc none _ ih =>
    cases cuts with
    | literal cuts => exact .marker hc none (ih cuts)
  | @segment grouped name text t hn ends _ ih =>
    cases cuts with
    | @segment _ _ _ piece _ _ _ none some cuts =>
      refine .segment hn ends none (fun empty => ?_) (ih cuts)
      have last : (!grouped && text.isEmpty) = true := by
        by_contra more
        exact some (by simpa using more) empty
      simpa using last
  | run hn ends _ ih =>
    cases cuts with
    | run none cuts => exact .run hn ends none (ih cuts)
  | group readsBody _ ihBody ih =>
    cases cuts with
    | use body next =>
      obtain ⟨used, rfl, inside⟩ := body.used
      exact .use (ihBody inside) (ih next)
    | skip next => exact .skip readsBody.balanced (ih next)

theorem Follows.exists_cuts {grouped : Bool} {text route : List Char} {pieces : Pieces}
    (h : Follows grouped text route pieces) :
    ∃ t, Reads grouped text t ∧ t.Cuts route pieces [] := by
  induction h with
  | done => exact ⟨_, .done, .done []⟩
  | literal colon star opens closes _ ih =>
    obtain ⟨t, reads, cuts⟩ := ih
    exact ⟨_, .literal colon star opens closes reads, .literal cuts⟩
  | marker hc none _ ih =>
    obtain ⟨t, reads, cuts⟩ := ih
    exact ⟨_, .marker hc none reads, .literal cuts⟩
  | segment hn ends none some _ ih =>
    obtain ⟨t, reads, cuts⟩ := ih
    refine ⟨_, .segment hn ends reads, .segment none (fun inner empty => ?_) cuts⟩
    obtain ⟨rfl, rfl⟩ := some empty
    simp at inner
  | run hn ends none _ ih =>
    obtain ⟨t, reads, cuts⟩ := ih
    exact ⟨_, .run hn ends reads, .run none cuts⟩
  | @use _ _ _ first second _ _ _ _ ihBody ih =>
    obtain ⟨b, readsBody, body⟩ := ihBody
    obtain ⟨t, reads, next⟩ := ih
    exact ⟨_, .group readsBody reads, .use (body.append second) next⟩
  | skip balanced _ ih =>
    obtain ⟨b, readsBody⟩ := balanced.exists_reads true
    obtain ⟨t, reads, next⟩ := ih
    exact ⟨_, .group readsBody reads, .skip next⟩

/-- A text stands for one template only. -/
theorem Reads.unique {source : String} {t t' : Template} (h : Reads false source.toList t)
    (h' : Reads false source.toList t') : t = t' := by
  have same := (h.tokens_builds.template []).symm.trans (h'.tokens_builds.template [])
  exact (List.cons.inj same).1

/-- The cuttings along the template of a compiled pattern are those along its text. -/
theorem cuts_iff_follows {source : String} {p : Pattern} (h : compile source = .ok p)
    (route : List Char) (pieces : Pieces) :
    p.template.Cuts route pieces [] ↔ Follows false source.toList route pieces := by
  obtain ⟨t, reads, -, rfl⟩ := compile_eq_ok_iff.1 h
  constructor
  · exact reads.follows
  · intro follows
    obtain ⟨t', reads', cuts⟩ := follows.exists_cuts
    rw [reads.unique reads']
    exact cuts

/-- A compiled pattern matches a route exactly if the route can be cut along its text. Then its
captures are the pieces of one such cutting, each decoded, in order and under names that differ. -/
theorem matchWhole?_iff_follows {source : String} {p : Pattern} (h : compile source = .ok p)
    (route : String) :
    ((p.matchWhole? route).isSome = true ↔
      ∃ pieces, Follows false source.toList route.toList pieces) ∧
    ∀ captured, p.matchWhole? route = some captured →
      ∃ pieces, Follows false source.toList route.toList pieces ∧
        captured = pieces.map (fun (name, piece) =>
          (name, Text.Percent.decode (String.ofList piece))) ∧
        (Assoc.names captured).Nodup := by
  have found : ∀ captured, p.matchWhole? route = some captured →
      ∃ pieces, p.template.Cuts route.toList pieces [] ∧ captured = captures pieces :=
    fun captured => cuts_of_matchWhole?
  refine ⟨⟨fun some => ?_, fun ⟨pieces, follows⟩ => ?_⟩, fun captured hc => ?_⟩
  · obtain ⟨captured, hc⟩ := Option.isSome_iff_exists.1 some
    obtain ⟨pieces, cuts, -⟩ := found captured hc
    exact ⟨pieces, (cuts_iff_follows h _ _).1 cuts⟩
  · exact matchWhole?_of_cuts ((cuts_iff_follows h _ _).2 follows)
  · obtain ⟨pieces, cuts, rfl⟩ := found captured hc
    refine ⟨pieces, (cuts_iff_follows h _ _).1 cuts, ?_, ?_⟩
    · simp [captures, Text.Percent.decode]
    · obtain ⟨t, -, nodup, rfl⟩ := compile_eq_ok_iff.1 h
      rw [names_captures]
      exact nodup.sublist cuts.names_sublist

def letterAndSegment : Pattern :=
  ⟨"a(/:id)", ["id"], .literal 'a' (.optional (.literal '/' (.segment "id" false .done)) .done)⟩

theorem letterAndSegment_matches_decoded :
    compile "a(/:id)" = .ok letterAndSegment ∧
      letterAndSegment.matchWhole? "a/%20b" = some [("id", " b")] ∧
      ∃ pieces, Follows false "a(/:id)".toList "a/%20b".toList pieces ∧
        [("id", " b")] = pieces.map fun (name, piece) =>
          (name, Text.Percent.decode (String.ofList piece)) := by
  have compiled : compile "a(/:id)" = .ok letterAndSegment := by decide +kernel
  have found : letterAndSegment.matchWhole? "a/%20b" = some [("id", " b")] := by decide +kernel
  obtain ⟨-, captures⟩ := matchWhole?_iff_follows compiled "a/%20b"
  obtain ⟨pieces, follows, decoded, -⟩ := captures _ found
  exact ⟨compiled, found, pieces, follows, decoded⟩

end Pattern
end HandlerChains
