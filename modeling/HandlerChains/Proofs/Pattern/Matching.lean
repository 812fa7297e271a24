import HandlerChains.Proofs.Pattern.Ways

/-!
# What matching finds

A template cuts a route into pieces exactly if they are the pieces of a way, so `cuttings` lists the
cuttings and nothing else. So a pattern matches a route exactly if its template cuts the whole of
it, and what it captures are the pieces of one such cutting.
-/

namespace HandlerChains
namespace Pattern

namespace Template

theorem Takes.cuts {t : Template} {route rest : List Char} {way : Way}
    (h : Takes t route way rest) : Cuts t route way.pieces rest := by
  induction h with
  | done route => exact .done route
  | literal _ ih => exact .literal ih
  | segment none some _ ih => exact .segment none some ih
  | run none _ ih => exact .run none ih
  | use _ _ ihBody ih =>
    rw [Way.pieces_use, Way.pieces_append]
    exact .use ihBody ih
  | skip _ ih => exact .skip ih

theorem Cuts.takes {t : Template} {route rest : List Char} {pieces : Pieces}
    (h : Cuts t route pieces rest) : ∃ way, Takes t route way rest ∧ way.pieces = pieces := by
  induction h with
  | done route => exact ⟨[], .done route, rfl⟩
  | literal _ ih =>
    obtain ⟨way, takes, rfl⟩ := ih
    exact ⟨way, .literal takes, rfl⟩
  | segment none some _ ih =>
    obtain ⟨way, takes, rfl⟩ := ih
    exact ⟨_, .segment none some takes, rfl⟩
  | run none _ ih =>
    obtain ⟨way, takes, rfl⟩ := ih
    exact ⟨_, .run none takes, rfl⟩
  | use _ _ ihBody ih =>
    obtain ⟨inner, body, rfl⟩ := ihBody
    obtain ⟨way, takes, rfl⟩ := ih
    exact ⟨_, .use body takes, by rw [Way.pieces_use, Way.pieces_append]⟩
  | skip _ ih =>
    obtain ⟨way, takes, rfl⟩ := ih
    exact ⟨_, .skip takes, rfl⟩

/-- The listed cuttings are those that there are. -/
theorem mem_cuttings {t : Template} {route rest : List Char} {pieces : Pieces} :
    (pieces, rest) ∈ t.cuttings route ↔ Cuts t route pieces rest := by
  rw [cuttings_eq, List.mem_map]
  constructor
  · rintro ⟨⟨way, left⟩, listed, same⟩
    obtain ⟨rfl, rfl⟩ := Prod.mk.inj same
    exact (mem_ways.1 listed).cuts
  · intro cuts
    obtain ⟨way, takes, rfl⟩ := cuts.takes
    exact ⟨_, mem_ways.2 takes, rfl⟩

theorem Cuts.append {t : Template} {route rest : List Char} {pieces : Pieces}
    (h : Cuts t route pieces rest) (more : List Char) :
    Cuts t (route ++ more) pieces (rest ++ more) := by
  induction h with
  | done route => exact .done _
  | literal _ ih => exact .literal ih
  | segment none some _ ih =>
    rw [List.append_assoc]
    exact .segment none some ih
  | run none _ ih =>
    rw [List.append_assoc]
    exact .run none ih
  | use _ _ ihBody ihNext => exact .use ihBody ihNext
  | skip _ ih => exact .skip ih

theorem Cuts.used {t : Template} {route rest : List Char} {pieces : Pieces}
    (h : Cuts t route pieces rest) : ∃ used, route = used ++ rest ∧ Cuts t used pieces [] := by
  induction h with
  | done route => exact ⟨[], rfl, .done []⟩
  | @literal c next route pieces rest _ ih =>
    obtain ⟨used, rfl, cuts⟩ := ih
    exact ⟨c :: used, rfl, .literal cuts⟩
  | @segment name mayBeEmpty next piece route pieces rest none some _ ih =>
    obtain ⟨used, rfl, cuts⟩ := ih
    exact ⟨piece ++ used, by rw [List.append_assoc], .segment none some cuts⟩
  | @run name next piece route pieces rest none _ ih =>
    obtain ⟨used, rfl, cuts⟩ := ih
    exact ⟨piece ++ used, by rw [List.append_assoc], .run none cuts⟩
  | use _ _ ihBody ihNext =>
    obtain ⟨first, rfl, body⟩ := ihBody
    obtain ⟨second, rfl, next⟩ := ihNext
    exact ⟨first ++ second, by rw [List.append_assoc], .use (body.append second) next⟩
  | skip _ ih =>
    obtain ⟨used, rfl, cuts⟩ := ih
    exact ⟨used, rfl, .skip cuts⟩

theorem Cuts.names_sublist {t : Template} {route rest : List Char} {pieces : Pieces}
    (h : Cuts t route pieces rest) : (pieces.map (·.1)).Sublist t.names := by
  induction h with
  | done route => exact .slnil
  | literal _ ih => exact ih
  | segment _ _ _ ih => exact ih.cons_cons _
  | run _ _ ih => exact ih.cons_cons _
  | use _ _ ihBody ihNext =>
    rw [List.map_append]
    exact ihBody.append ihNext
  | @skip body next route pieces rest _ ih =>
    exact ih.trans (List.sublist_append_right body.names next.names)

end Template

theorem names_captures (pieces : Pieces) : Assoc.names (captures pieces) = pieces.map (·.1) := by
  simp [Assoc.names, captures, Function.comp_def]

/-- What a pattern captures from a whole route are the pieces of a cutting without remainder. -/
theorem cuts_of_matchWhole? {p : Pattern} {route : String} {captured : Params}
    (h : p.matchWhole? route = some captured) :
    ∃ pieces, p.template.Cuts route.toList pieces [] ∧ captured = captures pieces := by
  simp only [matchWhole?, Option.map_eq_some_iff, Prod.exists, Template.search_eq] at h
  obtain ⟨pieces, _, found, rfl⟩ := h
  obtain ⟨⟨cut, rest⟩, mem, answer⟩ := List.exists_of_findSome?_eq_some found
  cases rest with
  | nil =>
    obtain rfl : cut = pieces := by simpa using answer
    exact ⟨cut, Template.mem_cuttings.1 mem, rfl⟩
  | cons c rest => simp at answer

theorem matchWhole?_of_cuts {p : Pattern} {route : String} {pieces : Pieces}
    (h : p.template.Cuts route.toList pieces []) : (p.matchWhole? route).isSome = true := by
  rw [matchWhole?, Option.isSome_map, Template.search_eq, List.findSome?_isSome_iff]
  exact ⟨(pieces, []), Template.mem_cuttings.2 h, rfl⟩

end Pattern
end HandlerChains
