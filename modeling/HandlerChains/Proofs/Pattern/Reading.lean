import HandlerChains.Pattern
import Mathlib.Data.List.TakeWhile

/-!
# Reading pattern texts

`Reads` says which template a text stands for, group by group. Cutting the text into tokens and
building from their end comes to the same, and nothing is refused but texts that stand for no
template and texts that use a name twice.
-/

namespace HandlerChains
namespace Pattern

/-- A parameter name: a letter or an underscore, and then letters, digits and underscores. -/
def IsName : List Char → Prop
  | [] => False
  | c :: rest => isNameStart c = true ∧ ∀ d ∈ rest, isNameRest d = true

def NoNameAt (text : List Char) : Prop := ∀ c ∈ text.head?, isNameStart c = false

def NameEndsAt (text : List Char) : Prop := ∀ c ∈ text.head?, isNameRest c = false

/-- The template that a pattern text stands for, inside a group or not. -/
inductive Reads : (grouped : Bool) → (text : List Char) → Template → Prop where
  | done {grouped} : Reads grouped [] .done
  | literal {grouped c text t} : c ≠ ':' → c ≠ '*' → c ≠ '(' → c ≠ ')' →
      Reads grouped text t → Reads grouped (c :: text) (.literal c t)
  | marker {grouped c text t} : c = ':' ∨ c = '*' → NoNameAt text →
      Reads grouped text t → Reads grouped (c :: text) (.literal c t)
  | segment {grouped name text t} : IsName name → NameEndsAt text → Reads grouped text t →
      Reads grouped (':' :: (name ++ text))
        (.segment (String.ofList name) (!grouped && text.isEmpty) t)
  | run {grouped name text t} : IsName name → NameEndsAt text → Reads grouped text t →
      Reads grouped ('*' :: (name ++ text)) (.run (String.ofList name) t)
  | group {grouped body text b t} : Reads true body b → Reads grouped text t →
      Reads grouped ('(' :: (body ++ ')' :: text)) (.optional b t)

section names

theorem NameEndsAt.nil : NameEndsAt [] := by simp [NameEndsAt]

theorem nameAt_append {name text : List Char} (hn : IsName name) (ends : NameEndsAt text) :
    nameAt (name ++ text) = some (name, text) := by
  cases name with
  | nil => exact hn.elim
  | cons c rest =>
    obtain ⟨start, all⟩ := hn
    have stop : text.takeWhile isNameRest = [] ∧ text.dropWhile isNameRest = text := by
      cases text with
      | nil => exact ⟨rfl, rfl⟩
      | cons d text =>
        have hd : isNameRest d = false := ends d rfl
        simp [hd]
    simp [nameAt, start, List.takeWhile_append_of_pos all, List.dropWhile_append_of_pos all, stop]

theorem nameAt_eq_none {text : List Char} : nameAt text = none ↔ NoNameAt text := by
  cases text with
  | nil => simp [nameAt, NoNameAt]
  | cons c text => cases h : isNameStart c <;> simp [nameAt, NoNameAt, h]

theorem nameAt_eq_some {text name after : List Char} (h : nameAt text = some (name, after)) :
    IsName name ∧ NameEndsAt after ∧ text = name ++ after := by
  cases text with
  | nil => simp [nameAt] at h
  | cons c text =>
    cases start : isNameStart c with
    | false => simp [nameAt, start] at h
    | true =>
      obtain ⟨rfl, rfl⟩ :
          c :: text.takeWhile isNameRest = name ∧ text.dropWhile isNameRest = after := by
        simpa [nameAt, start] using h
      refine ⟨⟨start, fun d hd => List.mem_takeWhile_imp hd⟩, fun d hd => ?_, ?_⟩
      · have := List.head?_dropWhile_not isNameRest text
        rw [Option.mem_def.1 hd] at this
        simpa using this
      · rw [List.cons_append, List.takeWhile_append_dropWhile]

end names

section tokens

theorem tokensFrom_cons {c : Char} {rest after : List Char} {s : Symbol}
    (h : symbolAt c rest = (s, after)) (offset : Nat) :
    ∃ next, tokensFrom offset (c :: rest) = ⟨offset, s⟩ :: tokensFrom next after := by
  rw [tokensFrom, h]
  exact ⟨_, rfl⟩

theorem symbolAt_segment {name text after : List Char} (h : nameAt text = some (name, after)) :
    symbolAt ':' text = (.segment (String.ofList name) after.isEmpty, after) := by
  simp [symbolAt, h]

theorem symbolAt_run {name text after : List Char} (h : nameAt text = some (name, after)) :
    symbolAt '*' text = (.run (String.ofList name), after) := by
  simp [symbolAt, h]

theorem symbolAt_marker {c : Char} {text : List Char} (hc : c = ':' ∨ c = '*')
    (h : nameAt text = none) : symbolAt c text = (.literal c, text) := by
  simp [symbolAt, hc, h]

theorem symbolAt_literal {c : Char} (colon : c ≠ ':') (star : c ≠ '*') (opens : c ≠ '(')
    (closes : c ≠ ')') (text : List Char) : symbolAt c text = (.literal c, text) := by
  simp [symbolAt, plainSymbol, colon, star, opens, closes]

theorem symbolAt_open (text : List Char) : symbolAt '(' text = (.openGroup, text) := by
  simp [symbolAt, plainSymbol]

theorem symbolAt_close (text : List Char) : symbolAt ')' text = (.closeGroup, text) := by
  simp [symbolAt, plainSymbol]

/-- The tokens of a template: they have its names, build it in front of any groups that are open,
and are faultless as far as its names are new. -/
structure Builds (ts : List Token) (t : Template) : Prop where
  names : ts.filterMap (fun t => t.symbol.name?) = t.names
  template : ∀ groups,
    ts.foldr (fun t groups => Template.before t.symbol groups) (.done :: groups) = t :: groups
  fault : ∀ seen groups more, t.names.Nodup → (∀ name ∈ t.names, name ∉ seen) →
    faultFrom seen groups (ts ++ more) = faultFrom (t.names.reverse ++ seen) groups more

namespace Builds

variable {ts : List Token} {t : Template}

theorem nil : Builds [] .done where
  names := rfl
  template _ := rfl
  fault _ _ _ _ _ := rfl

theorem literal (h : Builds ts t) (offset : Nat) (c : Char) :
    Builds (⟨offset, .literal c⟩ :: ts) (.literal c t) where
  names := h.names
  template groups := by
    rw [List.foldr_cons, h.template]
    rfl
  fault seen groups more nodup new := by
    rw [List.cons_append, faultFrom]
    exact h.fault seen groups more nodup new

theorem placeholder (h : Builds ts t) (offset : Nat) {s : Symbol} {name : String} {t' : Template}
    (hs : s = .run name ∨ ∃ mayBeEmpty, s = .segment name mayBeEmpty)
    (before : ∀ groups, Template.before s (t :: groups) = t' :: groups)
    (names : t'.names = name :: t.names) : Builds (⟨offset, s⟩ :: ts) t' where
  names := by
    have named : s.name? = some name := by rcases hs with rfl | ⟨_, rfl⟩ <;> rfl
    simp [named, h.names, names]
  template groups := by rw [List.foldr_cons, h.template, before]
  fault := by
    intro seen groups more nodup new
    rw [names] at nodup new ⊢
    obtain ⟨other, nodup⟩ := List.nodup_cons.1 nodup
    have first : name ∉ seen := new name List.mem_cons_self
    have step : faultFrom seen groups (⟨offset, s⟩ :: ts ++ more) =
        faultFrom (name :: seen) groups (ts ++ more) := by
      rcases hs with rfl | ⟨_, rfl⟩ <;> simp [faultFrom, first]
    rw [step, h.fault _ groups more nodup, List.reverse_cons, List.append_assoc]
    · rfl
    · intro n hn
      have ne : n ≠ name := fun e => other (e ▸ hn)
      have far : n ∉ seen := new n (List.mem_cons_of_mem _ hn)
      simp [ne, far]

theorem group {body : List Token} {b : Template} (hb : Builds body b) (h : Builds ts t)
    (offset offset' : Nat) :
    Builds (⟨offset, .openGroup⟩ :: (body ++ ⟨offset', .closeGroup⟩ :: ts)) (.optional b t) where
  names := by
    have opens : Symbol.name? .openGroup = none := rfl
    have closes : Symbol.name? .closeGroup = none := rfl
    simp [opens, closes, hb.names, h.names, Template.names]
  template groups := by
    rw [List.foldr_cons, List.foldr_append, List.foldr_cons, h.template]
    change Template.before .openGroup (List.foldr _ (.done :: t :: groups) body) = _
    rw [hb.template]
    rfl
  fault := by
    intro seen groups more nodup new
    rw [Template.names] at nodup new ⊢
    obtain ⟨nodup, nodup', apart⟩ := List.nodup_append.1 nodup
    have inside : faultFrom seen groups
        (⟨offset, .openGroup⟩ :: (body ++ ⟨offset', .closeGroup⟩ :: ts) ++ more) =
        faultFrom seen (offset :: groups) (body ++ (⟨offset', .closeGroup⟩ :: (ts ++ more))) := by
      simp [faultFrom]
    rw [inside, hb.fault _ _ _ nodup fun n hn => new n (List.mem_append_left _ hn)]
    have outside : faultFrom (b.names.reverse ++ seen) (offset :: groups)
        (⟨offset', .closeGroup⟩ :: (ts ++ more)) =
        faultFrom (b.names.reverse ++ seen) groups (ts ++ more) := rfl
    rw [outside, h.fault _ _ _ nodup']
    · rw [List.reverse_append, List.append_assoc]
    · intro n hn
      have far : n ∉ seen := new n (List.mem_append_right _ hn)
      have other : n ∉ b.names := fun hb => apart n hb n hn rfl
      simp [far, other]

end Builds

/-- What can follow a text inside a group or outside all groups. -/
def Closes : (grouped : Bool) → List Char → Prop
  | true, rest => ∃ more, rest = ')' :: more
  | false, rest => rest = []

/-- Where a text stops short of the characters in `p`, it does so with what closes it behind. -/
theorem Closes.stops {p : Char → Bool} {grouped : Bool} {text rest : List Char}
    (closes : Closes grouped rest) (paren : p ')' = false) (h : ∀ c ∈ text.head?, p c = false) :
    ∀ c ∈ (text ++ rest).head?, p c = false := by
  cases text with
  | cons c text => exact h
  | nil =>
    cases grouped with
    | false =>
      obtain rfl : rest = [] := closes
      exact h
    | true =>
      obtain ⟨more, rfl⟩ := closes
      rintro c ⟨⟩
      exact paren

theorem isEmpty_append {grouped : Bool} {rest : List Char} (closes : Closes grouped rest)
    (text : List Char) : (text ++ rest).isEmpty = (!grouped && text.isEmpty) := by
  cases grouped with
  | false =>
    obtain rfl : rest = [] := closes
    simp
  | true =>
    obtain ⟨more, rfl⟩ := closes
    simp

/-- The tokens of a text that stands for a template build it, whatever closes the text. -/
theorem Reads.builds {grouped : Bool} {text : List Char} {t : Template} (h : Reads grouped text t)
    (offset : Nat) {rest : List Char} (closes : Closes grouped rest) :
    ∃ ts after, tokensFrom offset (text ++ rest) = ts ++ tokensFrom after rest ∧ Builds ts t := by
  induction h generalizing offset rest with
  | done => exact ⟨[], offset, rfl, .nil⟩
  | @literal grouped c text t colon star opens closes' _ ih =>
    obtain ⟨next, first⟩ := tokensFrom_cons
      (symbolAt_literal colon star opens closes' (text ++ rest)) offset
    obtain ⟨ts, after, eq, builds⟩ := ih next closes
    exact ⟨_, after, by rw [List.cons_append, first, eq]; rfl, builds.literal offset c⟩
  | @marker grouped c text t hc none _ ih =>
    obtain ⟨next, first⟩ := tokensFrom_cons
      (symbolAt_marker hc (nameAt_eq_none.2 (closes.stops rfl none))) offset
    obtain ⟨ts, after, eq, builds⟩ := ih next closes
    exact ⟨_, after, by rw [List.cons_append, first, eq]; rfl, builds.literal offset c⟩
  | @segment grouped name text t hn ends _ ih =>
    have named := nameAt_append hn (closes.stops rfl ends)
    obtain ⟨next, first⟩ := tokensFrom_cons (symbolAt_segment named) offset
    obtain ⟨ts, after, eq, builds⟩ := ih next closes
    refine ⟨_, after, ?_, builds.placeholder offset (.inr ⟨_, rfl⟩) (fun _ => rfl) rfl⟩
    rw [List.cons_append, List.append_assoc, first, eq, isEmpty_append closes]
    rfl
  | @run grouped name text t hn ends _ ih =>
    have named := nameAt_append hn (closes.stops rfl ends)
    obtain ⟨next, first⟩ := tokensFrom_cons (symbolAt_run named) offset
    obtain ⟨ts, after, eq, builds⟩ := ih next closes
    refine ⟨_, after, ?_, builds.placeholder offset (.inl rfl) (fun _ => rfl) rfl⟩
    rw [List.cons_append, List.append_assoc, first, eq]
    rfl
  | @group grouped body text b t _ _ ihBody ih =>
    obtain ⟨next, first⟩ := tokensFrom_cons
      (symbolAt_open (body ++ ')' :: (text ++ rest))) offset
    obtain ⟨inside, last, eqBody, buildsBody⟩ :=
      ihBody next (show Closes true (')' :: (text ++ rest)) from ⟨_, rfl⟩)
    obtain ⟨next', close⟩ := tokensFrom_cons (symbolAt_close (text ++ rest)) last
    obtain ⟨ts, after, eq, builds⟩ := ih next' closes
    refine ⟨_, after, ?_, buildsBody.group builds offset last⟩
    rw [List.cons_append, List.append_assoc, List.cons_append, first, eqBody, close, eq]
    simp

end tokens

section compile

theorem stops_of_append {p : Char → Bool} {text rest : List Char}
    (h : ∀ c ∈ (text ++ rest).head?, p c = false) : ∀ c ∈ text.head?, p c = false := by
  cases text with
  | nil => simp
  | cons c text => exact h

theorem symbolAt_cases (c : Char) (text : List Char) :
    (∃ name after, text = name ++ after ∧ IsName name ∧ NameEndsAt after ∧
      (c = ':' ∧ symbolAt c text = (.segment (String.ofList name) after.isEmpty, after) ∨
        c = '*' ∧ symbolAt c text = (.run (String.ofList name), after))) ∨
    ((c = ':' ∨ c = '*') ∧ NoNameAt text ∧ symbolAt c text = (.literal c, text)) ∨
    (c = '(' ∧ symbolAt c text = (.openGroup, text)) ∨
    (c = ')' ∧ symbolAt c text = (.closeGroup, text)) ∨
    (c ≠ ':' ∧ c ≠ '*' ∧ c ≠ '(' ∧ c ≠ ')' ∧ symbolAt c text = (.literal c, text)) := by
  by_cases marks : c = ':' ∨ c = '*'
  · cases named : nameAt text with
    | none => exact .inr (.inl ⟨marks, nameAt_eq_none.1 named, symbolAt_marker marks named⟩)
    | some found =>
      obtain ⟨name, after⟩ := found
      obtain ⟨hn, ends, rfl⟩ := nameAt_eq_some named
      refine .inl ⟨name, after, rfl, hn, ends, ?_⟩
      rcases marks with rfl | rfl
      · exact .inl ⟨rfl, symbolAt_segment named⟩
      · exact .inr ⟨rfl, symbolAt_run named⟩
  · obtain ⟨colon, star⟩ := not_or.1 marks
    by_cases opens : c = '('
    · subst opens
      exact .inr (.inr (.inl ⟨rfl, symbolAt_open text⟩))
    · by_cases closes : c = ')'
      · subst closes
        exact .inr (.inr (.inr (.inl ⟨rfl, symbolAt_close text⟩)))
      · exact .inr (.inr (.inr (.inr
          ⟨colon, star, opens, closes, symbolAt_literal colon star opens closes text⟩)))

/-- A text stands for a template up to the parenthesis that closes the innermost of the groups that
are open around it, and what follows that has no fault. With no group open it does as a whole. -/
def ReadsUpTo (groups : List Nat) (text : List Char) : Prop :=
  ∃ region rest t, text = region ++ rest ∧ Reads (!groups.isEmpty) region t ∧
    match groups with
    | [] => rest = []
    | _ :: outer => ∃ more next seen, rest = ')' :: more ∧
      faultFrom seen outer (tokensFrom next more) = none

theorem faultFrom_placeholder {seen : List String} {groups : List Nat} {offset : Nat} {s : Symbol}
    {name : String} {ts : List Token} (hs : s = .run name ∨ ∃ e, s = .segment name e)
    (h : faultFrom seen groups (⟨offset, s⟩ :: ts) = none) :
    name ∉ seen ∧ faultFrom (name :: seen) groups ts = none := by
  rcases hs with rfl | ⟨_, rfl⟩ <;>
  · rw [faultFrom] at h
    by_cases new : name ∈ seen
    · simp [new] at h
    · exact ⟨new, by simpa [new] using h⟩

/-- Texts whose tokens have no fault stand for templates. -/
theorem readsUpTo {text : List Char} {offset : Nat} {seen : List String} {groups : List Nat}
    (h : faultFrom seen groups (tokensFrom offset text) = none) : ReadsUpTo groups text := by
  -- A group is read with the text behind it, which is shorter but is no part of the text inside.
  induction hn : text.length using Nat.strong_induction_on
    generalizing text offset seen groups with
  | _ n ih =>
    cases text with
    | nil =>
      cases groups with
      | nil => exact ⟨[], [], .done, rfl, .done, rfl⟩
      | cons innermost outer => simp [tokensFrom, faultFrom] at h
    | cons c text =>
      have shorter : text.length < n := by simp only [List.length_cons] at hn; omega
      obtain ⟨name, after, rfl, isName, ends, ⟨rfl, hs⟩ | ⟨rfl, hs⟩⟩ | ⟨marks, none, hs⟩ |
        ⟨rfl, hs⟩ | ⟨rfl, hs⟩ | ⟨colon, star, opens, closes, hs⟩ := symbolAt_cases c text
      · obtain ⟨next, first⟩ := tokensFrom_cons hs offset
        rw [first] at h
        obtain ⟨-, h⟩ := faultFrom_placeholder (.inr ⟨_, rfl⟩) h
        have shorter : after.length < n := by rw [List.length_append] at shorter; omega
        obtain ⟨region, rest, t, rfl, reads, closed⟩ := ih _ shorter h rfl
        exact ⟨':' :: (name ++ region), rest, _, by simp,
          .segment isName (stops_of_append ends) reads, closed⟩
      · obtain ⟨next, first⟩ := tokensFrom_cons hs offset
        rw [first] at h
        obtain ⟨-, h⟩ := faultFrom_placeholder (.inl rfl) h
        have shorter : after.length < n := by rw [List.length_append] at shorter; omega
        obtain ⟨region, rest, t, rfl, reads, closed⟩ := ih _ shorter h rfl
        exact ⟨'*' :: (name ++ region), rest, _, by simp,
          .run isName (stops_of_append ends) reads, closed⟩
      · obtain ⟨next, first⟩ := tokensFrom_cons hs offset
        rw [first, faultFrom] at h
        obtain ⟨region, rest, t, rfl, reads, closed⟩ := ih _ shorter h rfl
        exact ⟨c :: region, rest, _, rfl, .marker marks (stops_of_append none) reads, closed⟩
      · obtain ⟨next, first⟩ := tokensFrom_cons hs offset
        rw [first, faultFrom] at h
        obtain ⟨body, _, b, rfl, readsBody, more, next', seen', rfl, after⟩ := ih _ shorter h rfl
        have shorter : more.length < n := by
          simp only [List.length_append, List.length_cons] at shorter
          omega
        obtain ⟨region, rest, t, rfl, reads, closed⟩ := ih _ shorter after rfl
        exact ⟨'(' :: (body ++ ')' :: region), rest, _, by simp, .group readsBody reads, closed⟩
      · obtain ⟨next, first⟩ := tokensFrom_cons hs offset
        rw [first] at h
        cases groups with
        | nil => simp [faultFrom] at h
        | cons innermost outer =>
          rw [faultFrom] at h
          exact ⟨[], ')' :: text, .done, rfl, .done, text, next, seen, rfl, h⟩
      · obtain ⟨next, first⟩ := tokensFrom_cons hs offset
        rw [first, faultFrom] at h
        obtain ⟨region, rest, t, rfl, reads, closed⟩ := ih _ shorter h rfl
        exact ⟨c :: region, rest, _, rfl, .literal colon star opens closes reads, closed⟩

theorem nodup_of_faultFrom {ts : List Token} {seen : List String} {groups : List Nat}
    (h : faultFrom seen groups ts = none) :
    (ts.filterMap fun t => t.symbol.name?).Nodup ∧
      ∀ name ∈ ts.filterMap fun t => t.symbol.name?, name ∉ seen := by
  induction ts generalizing seen groups with
  | nil => exact ⟨.nil, by simp⟩
  | cons t ts ih =>
    obtain ⟨offset, s⟩ := t
    have placeholder : ∀ name, s.name? = some name → s = .run name ∨ ∃ e, s = .segment name e := by
      intro name hs
      cases s <;> simp_all [Symbol.name?]
    cases hs : s.name? with
    | some name =>
      obtain ⟨new, h⟩ := faultFrom_placeholder (placeholder name hs) h
      obtain ⟨nodup, others⟩ := ih h
      simp only [List.filterMap_cons, hs]
      refine ⟨List.nodup_cons.2 ⟨fun again => others name again List.mem_cons_self, nodup⟩, ?_⟩
      rintro n hn old
      rcases List.mem_cons.1 hn with rfl | hn
      · exact new old
      · exact others n hn (List.mem_cons_of_mem _ old)
    | none =>
      simp only [List.filterMap_cons, hs]
      cases s with
      | literal c => exact ih (by simpa [faultFrom] using h)
      | openGroup => exact ih (by simpa [faultFrom] using h)
      | closeGroup =>
        cases groups with
        | nil => simp [faultFrom] at h
        | cons innermost outer => exact ih (by simpa [faultFrom] using h)
      | segment name mayBeEmpty => cases hs
      | run name => cases hs

theorem Reads.tokens_builds {source : String} {t : Template} (h : Reads false source.toList t) :
    Builds (tokens source) t := by
  obtain ⟨ts, after, eq, builds⟩ := h.builds 0 (show Closes false [] from rfl)
  rw [List.append_nil, tokensFrom, List.append_nil] at eq
  rw [tokens, eq]
  exact builds

/-- Just those texts compile that stand for a template and use no name twice. -/
theorem compile_eq_ok_iff {source : String} {p : Pattern} :
    compile source = .ok p ↔
      ∃ t, Reads false source.toList t ∧ t.names.Nodup ∧ p = ⟨source, t.names, t⟩ := by
  have compiled : ∀ t, Builds (tokens source) t →
      Template.ofTokens (tokens source) = t ∧
        (tokens source).filterMap (·.symbol.name?) = t.names :=
    fun t builds => ⟨by rw [Template.ofTokens, builds.template]; rfl, builds.names⟩
  constructor
  · intro h
    cases faults : fault? (tokens source) with
    | some fault => simp [compile, faults] at h
    | none =>
      obtain ⟨region, _, t, whole, reads, rfl⟩ := readsUpTo faults
      rw [List.append_nil] at whole
      have reads : Reads false source.toList t := by rw [whole]; exact reads
      obtain ⟨template, names⟩ := compiled t reads.tokens_builds
      refine ⟨t, reads, names ▸ (nodup_of_faultFrom faults).1, ?_⟩
      simpa [compile, faults, template, names, eq_comm] using h
  · rintro ⟨t, reads, nodup, rfl⟩
    obtain ⟨template, names⟩ := compiled t reads.tokens_builds
    have faults : fault? (tokens source) = none := by
      have := reads.tokens_builds.fault [] [] [] nodup (by simp)
      rw [List.append_nil] at this
      rw [fault?, this, faultFrom]
    simp [compile, faults, template, names]

theorem compile_source {source : String} {p : Pattern} (h : compile source = .ok p) :
    compile p.source = .ok p := by
  obtain ⟨t, -, -, rfl⟩ := compile_eq_ok_iff.1 h
  exact h

end compile

end Pattern
end HandlerChains
