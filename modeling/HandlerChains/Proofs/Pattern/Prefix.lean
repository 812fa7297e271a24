import HandlerChains.Proofs.Pattern.Language

/-!
# Patterns behind simple texts

A text of literals and of placeholders that end at a slash can be cut off the start of a route in
one way at most. So a pattern behind such a text matches what is left of a route where the text is
cut off, and it captures the pieces of the text before its own.
-/

namespace HandlerChains
namespace Pattern

/-- A text of literals and of placeholders for a segment, each with a slash right behind it. -/
inductive SimpleText : List Char → Prop where
  | nil : SimpleText []
  | literal {c text} : c ≠ ':' → c ≠ '*' → c ≠ '(' → c ≠ ')' → SimpleText text →
      SimpleText (c :: text)
  | placeholder {name text} : IsName name → SimpleText text →
      SimpleText (':' :: (name ++ '/' :: text))

namespace Template

def andThen : Template → Template → Template
  | done, u => u
  | literal c next, u => literal c (next.andThen u)
  | segment name mayBeEmpty next, u => segment name mayBeEmpty (next.andThen u)
  | run name next, u => run name (next.andThen u)
  | optional body next, u => optional body (next.andThen u)

@[simp] theorem andThen_done (t : Template) : t.andThen done = t := by
  induction t with
  | done => rfl
  | literal c next ih => rw [andThen, ih]
  | segment name mayBeEmpty next ih => rw [andThen, ih]
  | run name next ih => rw [andThen, ih]
  | optional body next _ ih => rw [andThen, ih]

theorem andThen_assoc (t u v : Template) : (t.andThen u).andThen v = t.andThen (u.andThen v) := by
  induction t with
  | done => rfl
  | literal c next ih => simp only [andThen, ih]
  | segment name mayBeEmpty next ih => simp only [andThen, ih]
  | run name next ih => simp only [andThen, ih]
  | optional body next _ ih => simp only [andThen, ih]

/-- To search along a template and then along another one is to search along both. -/
theorem search_andThen {β : Type} (t u : Template) (goOn : List Char → Option (Pieces × β)) :
    (t.andThen u).search goOn = t.search (u.search goOn) := by
  induction t with
  | done =>
    funext route
    rw [andThen, search]
  | literal c next ih =>
    funext route
    cases route <;> simp only [andThen, search, ih]
  | segment name mayBeEmpty next ih =>
    funext route
    simp only [andThen, search, ih]
  | run name next ih =>
    funext route
    simp only [andThen, search, ih]
  | optional body next _ ih =>
    funext route
    simp only [andThen, search, ih]

theorem Cuts.andThen {t u : Template} {route middle rest : List Char} {pieces more : Pieces}
    (first : Cuts t route pieces middle) (second : Cuts u middle more rest) :
    Cuts (t.andThen u) route (pieces ++ more) rest := by
  induction first with
  | done => exact second
  | literal _ ih => exact .literal (ih second)
  | segment none some _ ih => exact .segment none some (ih second)
  | run none _ ih => exact .run none (ih second)
  | use body _ _ ih =>
    rw [List.append_assoc]
    exact .use body (ih second)
  | skip _ ih => exact .skip (ih second)

theorem Cuts.of_andThen {t u : Template} {route rest : List Char} {pieces : Pieces}
    (h : Cuts (t.andThen u) route pieces rest) :
    ∃ first middle second, Cuts t route first middle ∧ Cuts u middle second rest := by
  induction t generalizing route pieces rest with
  | done => exact ⟨_, _, _, .done route, h⟩
  | literal c next ih =>
    cases h with
    | literal h =>
      obtain ⟨first, middle, second, cuts, after⟩ := ih h
      exact ⟨_, _, _, .literal cuts, after⟩
  | segment name mayBeEmpty next ih =>
    cases h with
    | segment apart full h =>
      obtain ⟨first, middle, second, cuts, after⟩ := ih h
      exact ⟨_, _, _, .segment apart full cuts, after⟩
  | run name next ih =>
    cases h with
    | run apart h =>
      obtain ⟨first, middle, second, cuts, after⟩ := ih h
      exact ⟨_, _, _, .run apart cuts, after⟩
  | optional body next _ ih =>
    cases h with
    | use body h =>
      obtain ⟨first, middle, second, cuts, after⟩ := ih h
      exact ⟨_, _, _, .use body cuts, after⟩
    | skip h =>
      obtain ⟨first, middle, second, cuts, after⟩ := ih h
      exact ⟨_, _, _, .skip cuts, after⟩

/-- Nothing but literals, and segments that end at a slash. -/
inductive Straight : Template → Prop where
  | done : Straight done
  | literal {c next} : Straight next → Straight (literal c next)
  | segment {name next} : Straight next → Straight (segment name false (literal '/' next))

theorem Straight.andThen {t u : Template} (h : t.Straight) (h' : u.Straight) :
    (t.andThen u).Straight := by
  induction h with
  | done => exact h'
  | literal _ ih => exact .literal ih
  | segment _ ih => exact .segment ih

theorem first_slash_unique {piece piece' rest rest' : List Char} (apart : '/' ∉ piece)
    (apart' : '/' ∉ piece') (h : piece ++ '/' :: rest = piece' ++ '/' :: rest') :
    piece' = piece ∧ rest' = rest := by
  have taken : ∀ {piece : List Char} (rest), '/' ∉ piece →
      (piece ++ '/' :: rest).takeWhile notSlash = piece := by
    intro piece rest apart
    have all : ∀ c ∈ piece, notSlash c = true := fun c hc =>
      notSlash_iff.2 fun slash => apart (slash ▸ hc)
    simp [List.takeWhile_append_of_pos all, notSlash]
  obtain rfl : piece' = piece := by rw [← taken rest' apart', ← h, taken rest apart]
  exact ⟨rfl, by simpa using h.symm⟩

theorem Straight.cuts_unique {t : Template} (h : t.Straight) {route rest rest' : List Char}
    {pieces pieces' : Pieces} (cuts : Cuts t route pieces rest)
    (cuts' : Cuts t route pieces' rest') : pieces' = pieces ∧ rest' = rest := by
  induction h generalizing route pieces pieces' with
  | done =>
    cases cuts
    cases cuts'
    exact ⟨rfl, rfl⟩
  | literal _ ih =>
    cases cuts with
    | literal cuts =>
      cases cuts' with
      | literal cuts' => exact ih cuts cuts'
  | segment _ ih =>
    generalize hw : route = whole at cuts'
    cases cuts with
    | segment apart _ cuts =>
      cases cuts with
      | literal cuts =>
        cases cuts' with
        | segment apart' _ cuts' =>
          cases cuts' with
          | literal cuts' =>
            obtain ⟨rfl, rfl⟩ := first_slash_unique apart apart' hw
            obtain ⟨rfl, rfl⟩ := ih cuts cuts'
            exact ⟨rfl, rfl⟩

/-- The search goes on behind the only cutting. -/
theorem Straight.search_eq {β : Type} {t : Template} (h : t.Straight) {route rest : List Char}
    {pieces : Pieces} (cuts : Cuts t route pieces rest)
    (goOn : List Char → Option (Pieces × β)) :
    t.search goOn route = (goOn rest).map fun (more, b) => (pieces ++ more, b) := by
  have only : ∀ cut ∈ t.cuttings route, cut = (pieces, rest) := by
    rintro ⟨pieces', rest'⟩ hcut
    obtain ⟨rfl, rfl⟩ := h.cuts_unique cuts (mem_cuttings.1 hcut)
    rfl
  have listed := mem_cuttings.2 cuts
  rw [Template.search_eq]
  cases hl : t.cuttings route with
  | nil => simp [hl] at listed
  | cons cut others =>
    rw [hl, List.forall_mem_cons] at only
    obtain ⟨rfl, same⟩ := only
    cases found : goOn rest with
    | some answer => simp [found]
    | none =>
      have nothing : ∀ cut ∈ others, goOn cut.2 = none := by
        intro cut hcut
        rw [same cut hcut, found]
      simpa [found] using nothing

theorem search_start (t : Template) (route : List Char) :
    t.search (fun rest => some ([], rest)) route = (t.cuttings route).head? := by
  rw [search_eq]
  cases t.cuttings route <;> simp

theorem search_eq_none {β : Type} {t : Template} {route : List Char}
    (uncut : ∀ pieces rest, ¬ Cuts t route pieces rest) (goOn : List Char → Option (Pieces × β)) :
    t.search goOn route = none := by
  rw [search_eq, List.findSome?_eq_none_iff]
  rintro ⟨pieces, rest⟩ hcut
  exact absurd (mem_cuttings.1 hcut) (uncut pieces rest)

end Template

section leads

variable {lead : String} {t : Template} {p p' : Pattern} {route : String} {pieces : Pieces}
variable {rest : List Char}

/-- A text stands for a straight template, whatever is put behind it. -/
structure Leads (lead : List Char) (t : Template) : Prop where
  straight : t.Straight
  reads : ∀ {more u}, Reads false more u → Reads false (lead ++ more) (t.andThen u)

theorem Leads.nil : Leads [] .done := ⟨.done, id⟩

theorem Leads.append {first second : List Char} {t u : Template} (h : Leads first t)
    (h' : Leads second u) : Leads (first ++ second) (t.andThen u) where
  straight := h.straight.andThen h'.straight
  reads more := by
    rw [List.append_assoc, Template.andThen_assoc]
    exact h.reads (h'.reads more)

theorem SimpleText.leads {text : List Char} (h : SimpleText text) : ∃ t, Leads text t := by
  induction h with
  | nil => exact ⟨_, .nil⟩
  | literal colon star opens closes _ ih =>
    obtain ⟨t, straight, reads⟩ := ih
    exact ⟨_, .literal straight, fun more => .literal colon star opens closes (reads more)⟩
  | @placeholder name text hn _ ih =>
    obtain ⟨t, straight, reads⟩ := ih
    refine ⟨.segment (String.ofList name) false (.literal '/' t), .segment straight,
      fun {more u} hmore => ?_⟩
    have slash : Reads false ('/' :: (text ++ more)) (.literal '/' (t.andThen u)) :=
      .literal (by decide) (by decide) (by decide) (by decide) (reads hmore)
    have ends : NameEndsAt ('/' :: (text ++ more)) := by
      rintro c ⟨⟩
      decide
    rw [List.cons_append, List.append_assoc]
    exact .segment hn ends slash

theorem SimpleText.leads_template (h : SimpleText p.source.toList)
    (hp : compile p.source = .ok p) : Leads p.source.toList p.template := by
  obtain ⟨t, leads⟩ := h.leads
  obtain ⟨u, reads, -, hu⟩ := compile_eq_ok_iff.1 hp
  have same := leads.reads Reads.done
  rw [List.append_nil, Template.andThen_done] at same
  rw [show p.template = u by rw [hu], Reads.unique reads same]
  exact leads

theorem Leads.template_eq (h : Leads lead.toList t) (hp : compile p.source = .ok p)
    (hp' : compile (lead ++ p.source) = .ok p') : p'.template = t.andThen p.template := by
  obtain ⟨u, reads, -, hu⟩ := compile_eq_ok_iff.1 hp
  obtain ⟨u', reads', -, rfl⟩ := compile_eq_ok_iff.1 hp'
  obtain rfl : p.template = u := by rw [hu]
  have both := h.reads reads
  rw [← String.toList_append] at both
  exact Reads.unique reads' both

theorem captures_append (pieces more : Pieces) :
    captures (pieces ++ more) = captures pieces ++ captures more := by
  rw [captures, captures, captures, List.map_append]

/-- Behind what leads, a pattern matches what is left of the route. -/
theorem matchWhole?_behind (straight : t.Straight) (eq : p'.template = t.andThen p.template)
    (cuts : t.Cuts route.toList pieces rest) :
    p'.matchWhole? route =
      (p.matchWhole? (String.ofList rest)).map fun ps => captures pieces ++ ps := by
  rw [matchWhole?, matchWhole?, eq, Template.search_andThen, straight.search_eq cuts]
  simp only [String.toList_ofList, Option.map_map, Function.comp_def, captures_append]

theorem matchWhole?_uncut (eq : p'.template = t.andThen p.template)
    (uncut : ∀ pieces rest, ¬ t.Cuts route.toList pieces rest) : p'.matchWhole? route = none := by
  rw [matchWhole?, eq, Template.search_andThen, Template.search_eq_none uncut]
  rfl

/-- What a pattern finds at the start of a route is a cutting, and nothing only if there is none. -/
theorem matchStart?_cases (p : Pattern) (route : String) :
    (p.matchStart? route = none ∧ ∀ pieces rest, ¬ p.template.Cuts route.toList pieces rest) ∨
      ∃ pieces rest, p.template.Cuts route.toList pieces rest ∧
        p.matchStart? route = some (captures pieces, String.ofList rest) := by
  have found := Template.search_start p.template route.toList
  cases hl : p.template.cuttings route.toList with
  | nil =>
    refine .inl ⟨by simp [matchStart?, found, hl], fun pieces rest cuts => ?_⟩
    have listed := Template.mem_cuttings.2 cuts
    simp [hl] at listed
  | cons cut others =>
    refine .inr ⟨cut.1, cut.2, Template.mem_cuttings.1 (by simp [hl]), ?_⟩
    simp [matchStart?, found, hl]

end leads

end Pattern
end HandlerChains
