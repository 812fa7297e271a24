import HandlerChains.Proofs.Pattern.Prefix
import HandlerChains.Proofs.Text.Encoding

/-!
# Filling patterns in

A plain pattern has literals and placeholders for segments, each with a slash or nothing behind it.
Values of its placeholders make a route of it when each is written in escapes of its bytes; whatever
characters they have, the pattern then matches the route and captures just these values.
-/

namespace HandlerChains
namespace Pattern

open Text (toList_toUTF8)
open Text.Percent (Escapes encode escapes_encode)

inductive Part where
  | literal (c : Char)
  | placeholder (name : String)

namespace Part

def name? : Part → Option String
  | literal _ => none
  | placeholder name => some name

def text : Part → List Char
  | literal c => [c]
  | placeholder name => ':' :: name.toList

def filled (written : String → List Char) : Part → List Char
  | literal c => [c]
  | placeholder name => written name

end Part

def Part.names (parts : List Part) : List String := parts.filterMap Part.name?

/-- Literals that mark nothing, and placeholders with a slash or nothing behind them. -/
inductive Plain : List Part → Prop where
  | nil : Plain []
  | literal {c parts} : c ≠ ':' → c ≠ '*' → c ≠ '(' → c ≠ ')' → Plain parts →
      Plain (.literal c :: parts)
  | placeholder {name parts} : IsName name.toList → (∀ part ∈ parts.head?, part = .literal '/') →
      Plain parts → Plain (.placeholder name :: parts)

/-- A placeholder is written empty only where it ends the pattern. -/
def FilledIn (written : String → List Char) (parts : List Part) : Prop :=
  ∀ before name after, parts = before ++ .placeholder name :: after → written name = [] →
    after = []

theorem FilledIn.tail {written : String → List Char} {part : Part} {parts : List Part}
    (h : FilledIn written (part :: parts)) : FilledIn written parts :=
  fun before name after there => h (part :: before) name after (by rw [there]; rfl)

namespace Plain

variable {parts : List Part} {written : String → List Char}

def template : List Part → Template
  | [] => .done
  | .literal c :: parts => .literal c (template parts)
  | .placeholder name :: parts => .segment name parts.isEmpty (template parts)

theorem names_template (parts : List Part) : (template parts).names = Part.names parts := by
  induction parts with
  | nil => rfl
  | cons part parts ih =>
    cases part with
    | literal c => exact ih
    | placeholder name => exact congrArg (name :: ·) ih

theorem isEmpty_text (parts : List Part) : (parts.flatMap Part.text).isEmpty = parts.isEmpty := by
  cases parts with
  | nil => rfl
  | cons part parts => cases part <;> rfl

theorem reads (h : Plain parts) : Reads false (parts.flatMap Part.text) (template parts) := by
  induction h with
  | nil => exact .done
  | literal colon star opens closes _ ih => exact .literal colon star opens closes ih
  | @placeholder name parts isName follows _ ih =>
    have ends : NameEndsAt (parts.flatMap Part.text) := by
      cases parts with
      | nil => exact .nil
      | cons part parts =>
        obtain rfl := follows part rfl
        rintro c ⟨⟩
        decide
    have segment := Reads.segment isName ends ih
    rwa [isEmpty_text, String.ofList_toList] at segment

def pieces (written : String → List Char) (parts : List Part) : Pieces :=
  (Part.names parts).map fun name => (name, written name)

/-- A route that was made of a plain pattern can be cut along it. -/
theorem cuts (h : Plain parts) (apart : ∀ name ∈ Part.names parts, '/' ∉ written name)
    (filled : FilledIn written parts) :
    (template parts).Cuts (parts.flatMap (Part.filled written)) (pieces written parts) [] := by
  induction h with
  | nil => exact .done []
  | literal _ _ _ _ _ ih => exact .literal (ih apart filled.tail)
  | @placeholder name parts _ _ _ ih =>
    refine .segment (apart name List.mem_cons_self) (fun goesOn empty => ?_)
      (ih (fun other mem => apart other (List.mem_cons_of_mem _ mem)) filled.tail)
    obtain rfl := filled [] name parts rfl empty
    cases goesOn

theorem cuts_unique (h : Plain parts) {route : List Char} {cut cut' : Pieces}
    (cuts : (template parts).Cuts route cut []) (cuts' : (template parts).Cuts route cut' []) :
    cut' = cut := by
  induction h generalizing route cut cut' with
  | nil =>
    cases cuts
    cases cuts'
    rfl
  | literal _ _ _ _ _ ih =>
    cases cuts with
    | literal cuts =>
      cases cuts' with
      | literal cuts' => exact ih cuts cuts'
  | @placeholder name parts _ follows _ ih =>
    generalize hw : route = whole at cuts'
    cases cuts with
    | @segment _ _ _ piece after pieces _ apart _ cuts =>
      cases cuts' with
      | @segment _ _ _ piece' after' pieces' _ apart' _ cuts' =>
        obtain ⟨rfl, rfl⟩ : piece' = piece ∧ after' = after := by
          cases parts with
          | nil =>
            cases cuts
            cases cuts'
            exact ⟨by simpa using hw.symm, rfl⟩
          | cons part parts =>
            obtain rfl := follows part rfl
            cases cuts
            cases cuts'
            obtain ⟨rfl, rfl⟩ := Template.first_slash_unique apart apart' hw
            exact ⟨rfl, rfl⟩
        rw [ih cuts cuts']

/-- A plain pattern captures from a route what was written for its placeholders. -/
theorem matchWhole?_filled (h : Plain parts) {p : Pattern} (isTemplate : p.template = template parts)
    (apart : ∀ name ∈ Part.names parts, '/' ∉ written name) (filled : FilledIn written parts) :
    p.matchWhole? (String.ofList (parts.flatMap (Part.filled written))) =
      some (captures (pieces written parts)) := by
  have cuts := h.cuts apart filled
  have found : (p.matchWhole? (String.ofList (parts.flatMap (Part.filled written)))).isSome =
      true := matchWhole?_of_cuts (by rwa [isTemplate, String.toList_ofList])
  obtain ⟨captured, matched⟩ := Option.isSome_iff_exists.1 found
  obtain ⟨cut, cuts', rfl⟩ := cuts_of_matchWhole? matched
  rw [isTemplate, String.toList_ofList] at cuts'
  rw [matched, h.cuts_unique cuts cuts']

end Plain

/-- Values of placeholders come back from a route in which each is written in escapes of its bytes,
all of them and in the order of the pattern, whatever characters they have. -/
theorem matchWhole?_escaped {parts : List Part} {value : String → String}
    {written : String → List Char} (plain : Plain parts) (distinct : (Part.names parts).Nodup)
    (escaped : ∀ name ∈ Part.names parts, Escapes (value name).toUTF8.toList (written name))
    (filled : ∀ before name after, parts = before ++ .placeholder name :: after →
      value name = "" → after = []) :
    ∃ p, compile (String.ofList (parts.flatMap Part.text)) = .ok p ∧
      p.names = Part.names parts ∧
      p.matchWhole? (String.ofList (parts.flatMap (Part.filled written))) =
        some ((Part.names parts).map fun name => (name, value name)) := by
  have compiled : compile (String.ofList (parts.flatMap Part.text)) = .ok
      ⟨String.ofList (parts.flatMap Part.text), Part.names parts, Plain.template parts⟩ := by
    refine compile_eq_ok_iff.2 ⟨Plain.template parts, ?_, ?_, ?_⟩
    · rw [String.toList_ofList]
      exact plain.reads
    · rwa [Plain.names_template]
    · rw [Plain.names_template]
  have full : FilledIn written parts := by
    intro before name after there empty
    have listed : name ∈ Part.names parts := by
      rw [there, Part.names, List.filterMap_append]
      exact List.mem_append_right _ List.mem_cons_self
    refine filled before name after there ?_
    have read := (escaped name listed).decodeChars_eq
    rw [empty] at read
    rw [← String.toList_inj]
    exact read.symm
  refine ⟨_, compiled, rfl, ?_⟩
  rw [plain.matchWhole?_filled rfl (fun name listed => (escaped name listed).not_slash) full]
  simp only [captures, Plain.pieces, List.map_map, Option.some.injEq]
  refine List.map_congr_left fun name listed => ?_
  simp [(escaped name listed).decodeChars_eq]

def topicAndPage : List Part :=
  [.literal 't', .literal '/', .placeholder "topic", .literal '/', .placeholder "page"]

/-- A topic with characters that mean something in routes or lie outside ASCII, and no page. -/
def topicOnly (name : String) : String := if name = "topic" then "50%/é😀" else ""

theorem matchWhole?_topicOnly :
    Plain topicAndPage ∧ (Part.names topicAndPage).Nodup ∧
      ∃ p, compile "t/:topic/:page" = .ok p ∧
        p.matchWhole? "t/%35%30%25%2F%C3%A9%F0%9F%98%80/" =
          some [("topic", "50%/é😀"), ("page", "")] := by
  have plain : Plain topicAndPage := by
    refine .literal (by decide) (by decide) (by decide) (by decide) ?_
    refine .literal (by decide) (by decide) (by decide) (by decide) ?_
    refine .placeholder ⟨rfl, List.all_eq_true.1 rfl⟩ (by simp) ?_
    refine .literal (by decide) (by decide) (by decide) (by decide) ?_
    exact .placeholder ⟨rfl, List.all_eq_true.1 rfl⟩ (by simp) .nil
  have distinct : (Part.names topicAndPage).Nodup := by decide
  have filled : ∀ before name after, topicAndPage = before ++ .placeholder name :: after →
      topicOnly name = "" → after = [] := by
    intro before name after there empty
    simp only [topicAndPage] at there
    match before with
    | [_, _] =>
      obtain ⟨-, -, rfl, -⟩ : _ ∧ _ ∧ "topic" = name ∧ _ := by simpa using there
      exact absurd empty (by decide)
    | [_, _, _, _] =>
      obtain ⟨-, -, -, -, -, rfl⟩ : _ ∧ _ ∧ _ ∧ _ ∧ _ ∧ after = [] := by simpa using there
      rfl
    | [] | [_] | [_, _, _] => simp at there
    | _ :: _ :: _ :: _ :: _ :: rest => simp at there
  obtain ⟨p, compiled, -, matched⟩ := matchWhole?_escaped plain distinct
    (fun name _ => escapes_encode (topicOnly name)) filled
  refine ⟨plain, distinct, p, compiled, ?_⟩
  have route : topicAndPage.flatMap (Part.filled fun name => encode (topicOnly name)) =
      "t/%35%30%25%2F%C3%A9%F0%9F%98%80/".toList := by
    unfold encode
    simp only [toList_toUTF8]
    decide +kernel
  rw [route, String.ofList_toList] at matched
  rw [matched]
  decide +kernel

end Pattern
end HandlerChains
