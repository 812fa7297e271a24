import HandlerChains.Handler
import HandlerChains.Proofs.Pattern.Groups

/-!
# The grammar of pattern texts

A text compiles exactly if its parentheses match and no two of its placeholders have one name. Where
it does not, the failure tells the first offset at which a parenthesis closes nothing or a
placeholder repeats a name; if there is none, the offset of the last parenthesis that is never
closed. `Scanned` is what a scan from left to right knows of the text so far.
-/

namespace HandlerChains
namespace Pattern

/-- A placeholder of a text: its marker stands at an offset, and behind that its name, as long as it
goes on. -/
def PlaceholderAt (text : List Char) (i : Nat) (name : String) : Prop :=
  ∃ before marker after, text = before ++ marker :: (name.toList ++ after) ∧ before.length = i ∧
    (marker = ':' ∨ marker = '*') ∧ IsName name.toList ∧ NameEndsAt after

def RepeatsAt (text : List Char) (i : Nat) (name : String) : Prop :=
  PlaceholderAt text i name ∧ ∃ j < i, PlaceholderAt text j name

/-- An offset at which a scan from left to right cannot go on. -/
def DefectAt (text : List Char) (i : Nat) : Prop :=
  StraysAt text i ∨ ∃ name, RepeatsAt text i name

inductive FaultAt (text : List Char) : Fault → Nat → Prop where
  | unbalanced {i} : StraysAt text i → (∀ j < i, ¬ DefectAt text j) → FaultAt text .unbalanced i
  | duplicate {name i} : RepeatsAt text i name → (∀ j < i, ¬ DefectAt text j) →
      FaultAt text (.duplicate name) i
  | unclosed {i} : (∀ j, ¬ DefectAt text j) → StaysOpen text i → (∀ j, StaysOpen text j → j ≤ i) →
      FaultAt text .unclosed i

section placeholders

variable {text before rest : List Char} {c : Char} {i : Nat} {name : String}

theorem PlaceholderAt.marker (h : PlaceholderAt text i name) :
    text[i]? = some ':' ∨ text[i]? = some '*' := by
  obtain ⟨before, marker, after, rfl, rfl, marks, -⟩ := h
  rcases marks with rfl | rfl
  · exact .inl (by simp)
  · exact .inr (by simp)

theorem placeholderAt_iff :
    PlaceholderAt (before ++ c :: rest) before.length name ↔
      (c = ':' ∨ c = '*') ∧ ∃ after, nameAt rest = some (name.toList, after) := by
  constructor
  · rintro ⟨before', marker, after, split, same, marks, isName, ends⟩
    obtain ⟨-, tail⟩ := List.append_inj split same.symm
    obtain ⟨rfl, rfl⟩ := List.cons.inj tail
    exact ⟨marks, after, nameAt_append isName ends⟩
  · rintro ⟨marks, after, named⟩
    obtain ⟨isName, ends, rfl⟩ := nameAt_eq_some named
    exact ⟨before, c, after, rfl, rfl, marks, isName, ends⟩

theorem PlaceholderAt.unique {name' : String} (h : PlaceholderAt text i name)
    (h' : PlaceholderAt text i name') : name' = name := by
  obtain ⟨before, marker, after, rfl, rfl, -, isName, ends⟩ := h
  obtain ⟨-, after', named⟩ := placeholderAt_iff.1 h'
  rw [nameAt_append isName ends] at named
  exact String.toList_inj.1 (Prod.mk.inj (Option.some.inj named)).1.symm

theorem DefectAt.lt (h : DefectAt text i) : i < text.length := by
  rcases h with strays | ⟨name, placed, -⟩
  · exact (List.getElem?_eq_some_iff.1 strays.1).1
  · rcases placed.marker with colon | star
    · exact (List.getElem?_eq_some_iff.1 colon).1
    · exact (List.getElem?_eq_some_iff.1 star).1

theorem isNameRest_plain (h : isNameRest c = true) : c ≠ ':' ∧ c ≠ '*' ∧ c ≠ ')' := by
  refine ⟨?_, ?_, ?_⟩ <;> rintro rfl <;> revert h <;> decide

theorem isNameRest_of_isNameStart (h : isNameStart c = true) : isNameRest c = true := by
  simp only [isNameStart, isNameRest, Char.isAlphanum, Bool.or_eq_true] at h ⊢
  exact h.imp_left .inl

theorem IsName.all {name : List Char} (h : IsName name) : ∀ d ∈ name, isNameRest d = true := by
  cases name with
  | nil => exact h.elim
  | cons c rest => exact List.forall_mem_cons.2 ⟨isNameRest_of_isNameStart h.1, h.2⟩

end placeholders

/-- A text is scanned token by token: a placeholder with its name, or a single character. -/
theorem scan_induction {motive : (before rest : List Char) → Prop}
    (done : ∀ before, motive before [])
    (placeholder : ∀ before marker name after s, marker = ':' ∨ marker = '*' →
      IsName name → NameEndsAt after →
      s = .run (String.ofList name) ∨ (∃ mayBeEmpty, s = .segment (String.ofList name) mayBeEmpty) →
      tokensFrom before.length (marker :: (name ++ after)) =
        ⟨before.length, s⟩ :: tokensFrom (before ++ marker :: name).length after →
      motive (before ++ marker :: name) after → motive before (marker :: (name ++ after)))
    (single : ∀ before c rest, (c = ':' ∨ c = '*' → NoNameAt rest) →
      tokensFrom before.length (c :: rest) =
        ⟨before.length, plainSymbol c⟩ :: tokensFrom (before ++ [c]).length rest →
      motive (before ++ [c]) rest → motive before (c :: rest))
    (before rest : List Char) : motive before rest := by
  induction hn : rest.length using Nat.strong_induction_on generalizing before rest with
  | _ n ih =>
    cases rest with
    | nil => exact done before
    | cons c rest =>
      have shorter : rest.length < n := by simp only [List.length_cons] at hn; omega
      have alone (marks : c = ':' ∨ c = '*' → NoNameAt rest)
          (hs : symbolAt c rest = (plainSymbol c, rest)) : motive before (c :: rest) := by
        refine single before c rest marks ?_ (ih _ shorter (before ++ [c]) rest rfl)
        rw [tokensFrom, hs]
        simp
      obtain ⟨name, after, rfl, isName, ends, marks⟩ | ⟨marks, none, hs⟩ | ⟨rfl, hs⟩ | ⟨rfl, hs⟩ |
        ⟨colon, star, opens, closes, hs⟩ := symbolAt_cases c rest
      · have shorter : after.length < n := by rw [List.length_append] at shorter; omega
        have named (s : Symbol) (marks : c = ':' ∨ c = '*')
            (hs : symbolAt c (name ++ after) = (s, after)) (symbol : s = .run (String.ofList name) ∨
              ∃ mayBeEmpty, s = .segment (String.ofList name) mayBeEmpty) :
            motive before (c :: (name ++ after)) := by
          refine placeholder before c name after s marks isName ends symbol ?_
            (ih _ shorter (before ++ c :: name) after rfl)
          have offset : (before ++ c :: name).length =
              before.length + 1 + ((name ++ after).length - after.length) := by
            simp
            omega
          rw [tokensFrom, hs, offset]
        rcases marks with ⟨rfl, hs⟩ | ⟨rfl, hs⟩
        · exact named _ (.inl rfl) hs (.inr ⟨_, rfl⟩)
        · exact named _ (.inr rfl) hs (.inl rfl)
      · refine alone (fun _ => none) (hs.trans ?_)
        rcases marks with rfl | rfl <;> rfl
      · exact alone (fun marks => by simp at marks) hs
      · exact alone (fun marks => by simp at marks) hs
      · refine alone (fun marks => ?_) (hs.trans (by simp [plainSymbol, opens, closes]))
        exact absurd marks (not_or.2 ⟨colon, star⟩)

/-- What is known of a text that was scanned up to some offset without a defect. -/
structure Scanned (text before : List Char) (seen : List String) (groups : List Nat) : Prop where
  groups : OpenAfter before groups
  seen : ∀ name, name ∈ seen ↔ ∃ i < before.length, PlaceholderAt text i name
  clean : ∀ i < before.length, ¬ DefectAt text i

namespace Scanned

variable {text before after : List Char} {seen : List String} {groups groups' : List Nat}

theorem single {c : Char} (h : Scanned text before seen groups)
    (unmarked : ∀ name, ¬ PlaceholderAt text before.length name)
    (strays : ¬ StraysAt text before.length) (opens : OpenAfter (before ++ [c]) groups') :
    Scanned text (before ++ [c]) seen groups' where
  groups := opens
  seen name := by
    rw [h.seen, List.length_append, List.length_singleton]
    constructor
    · rintro ⟨i, front, placed⟩
      exact ⟨i, by omega, placed⟩
    · rintro ⟨i, upTo, placed⟩
      obtain front | rfl := Nat.lt_succ_iff_lt_or_eq.1 upTo
      · exact ⟨i, front, placed⟩
      · exact absurd placed (unmarked name)
  clean i upTo := by
    rw [List.length_append, List.length_singleton] at upTo
    obtain front | rfl := Nat.lt_succ_iff_lt_or_eq.1 upTo
    · exact h.clean i front
    · rintro (stray | ⟨name, placed, -⟩)
      · exact strays stray
      · exact unmarked name placed

theorem inside_name {marker : Char} {name : List Char} (isName : IsName name) {i : Nat}
    (split : text = before ++ marker :: (name ++ after)) (front : before.length < i)
    (upTo : i < (before ++ marker :: name).length) :
    ¬ StraysAt text i ∧ ∀ name', ¬ PlaceholderAt text i name' := by
  obtain ⟨d, there, rest⟩ : ∃ d, text[i]? = some d ∧ isNameRest d = true := by
    obtain ⟨k, rfl⟩ := Nat.exists_eq_add_of_lt front
    have within : k < name.length := by simp at upTo; omega
    refine ⟨name[k], ?_, isName.all _ (List.getElem_mem within)⟩
    rw [split, Nat.add_assoc, List.getElem?_append_right (by omega), Nat.add_sub_cancel_left,
      List.getElem?_cons_succ, List.getElem?_append_left within, List.getElem?_eq_getElem within]
  obtain ⟨colon, star, closes⟩ := isNameRest_plain rest
  refine ⟨fun ⟨stray, _⟩ => ?_, fun name' placed => ?_⟩
  · rw [there] at stray
    exact closes (Option.some.inj stray)
  · rcases placed.marker with marks | marks <;> rw [there] at marks
    · exact colon (Option.some.inj marks)
    · exact star (Option.some.inj marks)

theorem placeholder {marker : Char} {name : List Char} (h : Scanned text before seen groups)
    (split : text = before ++ marker :: (name ++ after)) (marks : marker = ':' ∨ marker = '*')
    (isName : IsName name) (placed : PlaceholderAt text before.length (String.ofList name))
    (new : String.ofList name ∉ seen) :
    Scanned text (before ++ marker :: name) (String.ofList name :: seen) groups where
  groups := by
    have balanced : Balanced name := by simpa using Balanced.nil.of_plain isName.no_paren
    rcases marks with rfl | rfl <;> exact h.groups.append (.other (by decide) (by decide) balanced)
  seen name' := by
    rw [List.mem_cons, h.seen]
    constructor
    · rintro (rfl | ⟨i, front, there⟩)
      · exact ⟨_, by simp, placed⟩
      · exact ⟨i, by rw [List.length_append]; omega, there⟩
    · rintro ⟨i, upTo, there⟩
      rcases Nat.lt_trichotomy i before.length with front | rfl | behind
      · exact .inr ⟨i, front, there⟩
      · exact .inl (placed.unique there)
      · exact absurd there ((inside_name isName split behind upTo).2 name')
  clean i upTo := by
    rcases Nat.lt_trichotomy i before.length with front | rfl | behind
    · exact h.clean i front
    · rintro (stray | ⟨name', there, j, earlier, there'⟩)
      · rcases placed.marker with colon | star <;> simp_all [StraysAt]
      · rw [placed.unique there] at there'
        exact new ((h.seen _).2 ⟨j, earlier, there'⟩)
    · obtain ⟨strays, unmarked⟩ := inside_name isName split behind upTo
      rintro (stray | ⟨name', there, -⟩)
      · exact strays stray
      · exact unmarked name' there

end Scanned

def Verdict (text : List Char) : Option (Fault × Nat) → Prop
  | none => Balanced text ∧ ∀ i, ¬ DefectAt text i
  | some (fault, i) => FaultAt text fault i

/-- A scan finds the first defect, or else what was opened last and stays open. -/
theorem Scanned.verdict {text before rest : List Char} {seen : List String} {groups : List Nat}
    (h : Scanned text before seen groups) (split : text = before ++ rest) :
    Verdict text (faultFrom seen groups (tokensFrom before.length rest)) := by
  induction before, rest using scan_induction generalizing seen groups with
  | done before =>
    obtain rfl : text = before := by simpa using split
    have clean : ∀ i, ¬ DefectAt text i := fun i defect => h.clean i defect.lt defect
    rw [tokensFrom]
    cases groups with
    | nil =>
      cases h.groups with
      | none balanced => exact ⟨balanced, clean⟩
    | cons innermost outer =>
      obtain ⟨opens, last⟩ := h.groups.staysOpen
      exact .unclosed clean opens last
  | placeholder before marker name after s marks isName ends symbol tokens ih =>
    have placed : PlaceholderAt text before.length (String.ofList name) := by
      rw [split]
      exact placeholderAt_iff.2 ⟨marks, after, by simpa using nameAt_append isName ends⟩
    have step : faultFrom seen groups (tokensFrom before.length (marker :: (name ++ after))) =
        if String.ofList name ∈ seen then some (.duplicate (String.ofList name), before.length)
        else faultFrom (String.ofList name :: seen) groups
          (tokensFrom (before ++ marker :: name).length after) := by
      rw [tokens]
      rcases symbol with rfl | ⟨_, rfl⟩ <;> rw [faultFrom]
    rw [step]
    split
    · next known => exact .duplicate ⟨placed, (h.seen _).1 known⟩ h.clean
    · next new => exact ih (h.placeholder split marks isName placed new) (by simpa using split)
  | single before c rest marks tokens ih =>
    rw [tokens]
    have unmarked : ∀ name, ¬ PlaceholderAt text before.length name := by
      intro name placed
      rw [split] at placed
      obtain ⟨marker, after, named⟩ := placeholderAt_iff.1 placed
      rw [nameAt_eq_none.2 (marks marker)] at named
      cases named
    have next (groups' : List Nat) (strays : ¬ StraysAt text before.length)
        (opens : OpenAfter (before ++ [c]) groups') :
        Verdict text (faultFrom seen groups' (tokensFrom (before ++ [c]).length rest)) :=
      ih (h.single unmarked strays opens) (by simpa using split)
    have there : text[before.length]? = some c := by simp [split]
    by_cases closes : c = ')'
    · subst closes
      cases groups with
      | nil => exact .unbalanced (split ▸ h.groups.strays rest) h.clean
      | cons innermost outer =>
        obtain ⟨opens, group⟩ := h.groups.closes rest
        exact next outer (fun stray => stray.2 _ (split ▸ group)) opens
    · have strays : ¬ StraysAt text before.length := by
        rintro ⟨stray, -⟩
        rw [there] at stray
        exact closes (Option.some.inj stray)
      by_cases opens : c = '('
      · subst opens
        have group : plainSymbol '(' = .openGroup := rfl
        rw [group, faultFrom]
        exact next _ strays (.group h.groups .nil)
      · have literal : plainSymbol c = .literal c := by simp [plainSymbol, opens, closes]
        rw [literal, faultFrom]
        exact next groups strays (h.groups.append (.single opens closes))

/-- The tokens from some offset of a text on: they stand one behind the other, and those with a name
are the placeholders there. -/
structure Locates (text : List Char) (start : Nat) (ts : List Token) : Prop where
  ordered : ts.Pairwise (·.offset < ·.offset)
  behind : ∀ t ∈ ts, start ≤ t.offset
  placed : ∀ i name, start ≤ i →
    (PlaceholderAt text i name ↔ ∃ t ∈ ts, t.offset = i ∧ t.symbol.name? = some name)

namespace Locates

variable {text : List Char} {start next : Nat} {s : Symbol} {ts : List Token}

theorem nil : Locates text text.length [] where
  ordered := .nil
  behind := by simp
  placed i name beyond := by
    constructor
    · intro placed
      rcases placed.marker with marks | marks <;>
        exact absurd (List.getElem?_eq_some_iff.1 marks).1 (Nat.not_lt.2 beyond)
    · rintro ⟨t, none, -⟩
      cases none

theorem cons (h : Locates text next ts) (front : start < next)
    (here : ∀ name, PlaceholderAt text start name ↔ s.name? = some name)
    (between : ∀ i name, start < i → i < next → ¬ PlaceholderAt text i name) :
    Locates text start (⟨start, s⟩ :: ts) where
  ordered := List.pairwise_cons.2 ⟨fun t ht => Nat.lt_of_lt_of_le front (h.behind t ht), h.ordered⟩
  behind := by
    rintro t (_ | ⟨_, ht⟩)
    · exact Nat.le_refl _
    · exact Nat.le_trans (Nat.le_of_lt front) (h.behind t ht)
  placed i name from_start := by
    simp only [List.mem_cons, or_and_right, exists_or, exists_eq_left]
    rcases Nat.eq_or_lt_of_le from_start with rfl | later
    · rw [here]
      constructor
      · exact fun named => .inl ⟨rfl, named⟩
      · rintro (⟨-, named⟩ | ⟨t, ht, same, -⟩)
        · exact named
        · exact absurd (h.behind t ht) (by omega)
    · have other : ¬ (start = i ∧ s.name? = some name) := fun both => by omega
      rw [or_iff_right other]
      by_cases beyond : next ≤ i
      · exact h.placed i name beyond
      · constructor
        · exact fun placed => absurd placed (between i name later (Nat.lt_of_not_le beyond))
        · rintro ⟨t, ht, rfl, -⟩
          exact absurd (h.behind t ht) beyond

end Locates

theorem locates_tokensFrom {text before rest : List Char} (split : text = before ++ rest) :
    Locates text before.length (tokensFrom before.length rest) := by
  induction before, rest using scan_induction with
  | done before =>
    obtain rfl : text = before := by simpa using split
    rw [tokensFrom]
    exact .nil
  | placeholder before marker name after s marks isName ends symbol tokens ih =>
    rw [tokens]
    refine (ih (by simpa using split)).cons (by simp) (fun name' => ?_) fun i name' front upTo => ?_
    · have named : s.name? = some (String.ofList name) := by
        rcases symbol with rfl | ⟨_, rfl⟩ <;> rfl
      rw [named, split, placeholderAt_iff, nameAt_append isName ends]
      simp [marks, ← String.toList_inj]
    · exact (Scanned.inside_name isName split front upTo).2 name'
  | single before c rest marks tokens ih =>
    rw [tokens]
    refine (ih (by simpa using split)).cons (by simp) (fun name => ?_) fun i name front upTo => ?_
    · have unnamed : (plainSymbol c).name? = none := by
        unfold plainSymbol
        split
        · rfl
        · split <;> rfl
      rw [unnamed, split, placeholderAt_iff]
      constructor
      · rintro ⟨marker, after, named⟩
        rw [nameAt_eq_none.2 (marks marker)] at named
        cases named
      · rintro ⟨⟩
    · rw [List.length_append, List.length_singleton] at upTo
      omega

/-- The placeholders of a text in textual order, by offset and name. -/
structure Placeholders (text : List Char) (placed : List (Nat × String)) : Prop where
  ordered : placed.Pairwise (·.1 < ·.1)
  mem_iff : ∀ i name, (i, name) ∈ placed ↔ PlaceholderAt text i name

theorem exists_placeholders (source : String) : ∃ placed, Placeholders source.toList placed ∧
    (tokens source).filterMap (fun t => t.symbol.name?) = placed.map Prod.snd := by
  have located : Locates source.toList ([] : List Char).length (tokens source) :=
    locates_tokensFrom rfl
  refine ⟨(tokens source).filterMap fun t => t.symbol.name?.map fun name => (t.offset, name),
    ⟨?_, fun i name => ?_⟩, ?_⟩
  · refine List.pairwise_filterMap.2 (located.ordered.imp ?_)
    intro t t' earlier
    simp only [Option.map_eq_some_iff]
    rintro _ ⟨_, -, rfl⟩ _ ⟨_, -, rfl⟩
    exact earlier
  · rw [located.placed i name (Nat.zero_le i), List.mem_filterMap]
    simp only [Option.map_eq_some_iff, Prod.mk.injEq]
    constructor
    · rintro ⟨t, ht, _, named, same, rfl⟩
      exact ⟨t, ht, same, named⟩
    · rintro ⟨t, ht, same, named⟩
      exact ⟨t, ht, name, named, same, rfl⟩
  · rw [List.map_filterMap]
    congr 1
    funext t
    cases t.symbol.name? <;> rfl

/-- Every closing parenthesis closes a group, every opening one opens a group, and no two
placeholders have one name. -/
structure WellFormed (text : List Char) : Prop where
  closes : ∀ i, text[i]? = some ')' → ∃ j, GroupAt text j i
  opens : ∀ i, text[i]? = some '(' → ∃ j, GroupAt text i j
  apart : ∀ i j name, PlaceholderAt text i name → PlaceholderAt text j name → i = j

namespace WellFormed

variable {text : List Char}

theorem of_verdict (h : Verdict text none) : WellFormed text where
  closes i := (h.1.groupedAt i).closes
  opens i := (h.1.groupedAt i).opens
  apart i j name here there := by
    rcases Nat.lt_trichotomy i j with first | rfl | second
    · exact absurd (.inr ⟨name, there, i, first, here⟩) (h.2 j)
    · rfl
    · exact absurd (.inr ⟨name, here, j, second, there⟩) (h.2 i)

theorem no_fault {fault : Fault} {i : Nat} (h : WellFormed text) : ¬ FaultAt text fault i := by
  rintro (⟨⟨closes, never⟩, -⟩ | ⟨⟨here, j, earlier, there⟩, -⟩ | ⟨-, ⟨opens, never⟩, -⟩)
  · obtain ⟨j, group⟩ := h.closes i closes
    exact never j group
  · exact absurd (h.apart _ _ _ there here) (Nat.ne_of_lt earlier)
  · obtain ⟨j, group⟩ := h.opens i opens
    exact never j group

end WellFormed

/-- A text compiles exactly if it is well-formed. Then its names are those of its placeholders in
textual order, and they differ. Otherwise the failure has the text, the first offset from left to
right where a parenthesis strays or a placeholder repeats a name, or else the offset of the last
parenthesis that stays open. -/
theorem compilePattern_accepts_grammar (source : String) :
    ((∃ p, Handler.compilePattern (.text source) = .ok p) ↔ WellFormed source.toList) ∧
      (∀ p, Handler.compilePattern (.text source) = .ok p → p.names.Nodup ∧
        ∃ placed, Placeholders source.toList placed ∧ p.names = placed.map Prod.snd) ∧
      ∀ failure, Handler.compilePattern (.text source) = .error failure →
        ∃ fault i, failure = .badPattern source fault i ∧ FaultAt source.toList fault i := by
  have verdict : Verdict source.toList (fault? (tokens source)) := by
    have start : Scanned source.toList [] [] [] := ⟨.none .nil, by simp, by simp⟩
    exact start.verdict rfl
  rw [Handler.compilePattern, compile]
  cases found : fault? (tokens source) with
  | none =>
    rw [found] at verdict
    refine ⟨iff_of_true ⟨_, rfl⟩ (.of_verdict verdict), ?_, ?_⟩
    · rintro p ⟨⟩
      exact ⟨(nodup_of_faultFrom found).1, exists_placeholders source⟩
    · rintro failure ⟨⟩
  | some fault =>
    obtain ⟨fault, i⟩ := fault
    rw [found] at verdict
    refine ⟨iff_of_false ?_ fun wellFormed => wellFormed.no_fault verdict, ?_, ?_⟩
    · rintro ⟨p, ⟨⟩⟩
    · rintro p ⟨⟩
    · rintro failure ⟨⟩
      exact ⟨fault, i, rfl, verdict⟩

/-- The repeated name comes before the group that stays open. -/
example : compile ":a(b(:a))(" = .error (.duplicate "a", 5) := by decide +kernel

end Pattern
end HandlerChains
