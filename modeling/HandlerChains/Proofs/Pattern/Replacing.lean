import HandlerChains.Proofs.Pattern.Language

/-!
# Texts in the place of placeholders

A pattern without groups matches every route that comes of its text by putting a text in the place
of each placeholder, except that the text of a run has to be of one line.
-/

namespace HandlerChains
namespace Pattern

/-- A route is a pattern text with a text in the place of each placeholder: for a segment one that
is not empty and has no slash, for a run any one. Those of the runs are listed. -/
inductive Replaced : (text route : List Char) → (runs : List (List Char)) → Prop where
  | done : Replaced [] [] []
  | literal {c text route runs} : c ≠ ':' → c ≠ '*' → Replaced text route runs →
      Replaced (c :: text) (c :: route) runs
  | marker {c text route runs} : c = ':' ∨ c = '*' → NoNameAt text → Replaced text route runs →
      Replaced (c :: text) (c :: route) runs
  | segment {name text piece route runs} : IsName name → NameEndsAt text → piece ≠ [] →
      '/' ∉ piece → Replaced text route runs →
      Replaced (':' :: (name ++ text)) (piece ++ route) runs
  | run {name text piece route runs} : IsName name → NameEndsAt text → Replaced text route runs →
      Replaced ('*' :: (name ++ text)) (piece ++ route) (piece :: runs)

/-- A text without parentheses is followed by what replaces its placeholders, if no run has a line
break. -/
theorem Replaced.follows {text route : List Char} {runs : List (List Char)}
    (h : Replaced text route runs) (plain : ∀ c ∈ text, c ≠ '(' ∧ c ≠ ')')
    (line : ∀ run ∈ runs, '\n' ∉ run) : ∃ pieces, Follows false text route pieces := by
  induction h with
  | done => exact ⟨[], .done⟩
  | literal colon star _ ih =>
    obtain ⟨⟨opens, closes⟩, plain⟩ := List.forall_mem_cons.1 plain
    obtain ⟨pieces, follows⟩ := ih plain line
    exact ⟨pieces, .literal colon star opens closes follows⟩
  | marker marks none _ ih =>
    obtain ⟨pieces, follows⟩ := ih (List.forall_mem_cons.1 plain).2 line
    exact ⟨pieces, .marker marks none follows⟩
  | segment isName ends some apart _ ih =>
    have behind := (List.forall_mem_append.1 (List.forall_mem_cons.1 plain).2).2
    obtain ⟨pieces, follows⟩ := ih behind line
    exact ⟨_, .segment isName ends apart (fun empty => absurd empty some) follows⟩
  | run isName ends _ ih =>
    have behind := (List.forall_mem_append.1 (List.forall_mem_cons.1 plain).2).2
    obtain ⟨first, line⟩ := List.forall_mem_cons.1 line
    obtain ⟨pieces, follows⟩ := ih behind line
    exact ⟨_, .run isName ends first follows⟩

/-- A pattern without parentheses matches whatever its placeholders are replaced by, if no run has a
line break. -/
theorem matchWhole?_replaced {source : String} {p : Pattern} (h : compile source = .ok p)
    (plain : '(' ∉ source.toList ∧ ')' ∉ source.toList) {route : String} {runs : List (List Char)}
    (replaced : Replaced source.toList route.toList runs) (line : ∀ run ∈ runs, '\n' ∉ run) :
    p.matchWhole? route ≠ none := by
  have noGroups : ∀ c ∈ source.toList, c ≠ '(' ∧ c ≠ ')' := fun c hc =>
    ⟨fun opens => plain.1 (opens ▸ hc), fun closes => plain.2 (closes ▸ hc)⟩
  obtain ⟨pieces, follows⟩ := replaced.follows noGroups line
  have found := matchWhole?_of_cuts ((cuts_iff_follows h _ _).2 follows)
  exact Option.isSome_iff_ne_none.1 found

def topicAndFile : Pattern :=
  ⟨":t/*p.x", ["t", "p"],
    .segment "t" false (.literal '/' (.run "p" (.literal '.' (.literal 'x' .done))))⟩

/-- The run has the ending in it as well, and the segment a line break. -/
theorem topicAndFile_replaced :
    compile ":t/*p.x" = .ok topicAndFile ∧ ('(' ∉ ":t/*p.x".toList ∧ ')' ∉ ":t/*p.x".toList) ∧
      Replaced ":t/*p.x".toList "a\nb/c.x/d.x".toList ["c.x/d".toList] ∧
      (∀ run ∈ ["c.x/d".toList], '\n' ∉ run) ∧
      topicAndFile.matchWhole? "a\nb/c.x/d.x" ≠ none := by
  have compiled : compile ":t/*p.x" = .ok topicAndFile := by decide +kernel
  have plain : '(' ∉ ":t/*p.x".toList ∧ ')' ∉ ":t/*p.x".toList := by decide +kernel
  have line : ∀ run ∈ ["c.x/d".toList], '\n' ∉ run := by decide +kernel
  have replaced : Replaced ":t/*p.x".toList "a\nb/c.x/d.x".toList ["c.x/d".toList] := by
    have text : ":t/*p.x".toList = ':' :: (['t'] ++ '/' :: '*' :: (['p'] ++ ['.', 'x'])) := by
      decide +kernel
    have route : "a\nb/c.x/d.x".toList =
        ['a', '\n', 'b'] ++ '/' :: ("c.x/d".toList ++ ['.', 'x']) := by
      decide +kernel
    rw [text, route]
    have ending : Replaced ['.', 'x'] ['.', 'x'] [] :=
      .literal (by decide) (by decide) (.literal (by decide) (by decide) .done)
    refine .segment ⟨by decide, by simp⟩ ?_ (by decide) (by decide) ?_
    · simp [NameEndsAt, isNameRest]
    · refine .literal (by decide) (by decide) (.run ⟨by decide, by simp⟩ ?_ ending)
      simp [NameEndsAt, isNameRest]
  exact ⟨compiled, plain, replaced, line, matchWhole?_replaced compiled plain replaced line⟩

/-- A line break in the place of a run is not matched. -/
theorem anyPath_unmatched :
    ∃ p, compile "*p" = .ok p ∧ ('(' ∉ "*p".toList ∧ ')' ∉ "*p".toList) ∧
      Replaced "*p".toList "\n".toList [['\n']] ∧ p.matchWhole? "\n" = none := by
  refine ⟨⟨"*p", ["p"], .run "p" .done⟩, by decide +kernel, by decide +kernel, ?_,
    by decide +kernel⟩
  have text : "*p".toList = '*' :: (['p'] ++ []) := by decide +kernel
  have route : "\n".toList = ['\n'] ++ [] := by decide +kernel
  rw [text, route]
  exact .run ⟨by decide, by simp⟩ .nil .done

end Pattern
end HandlerChains
