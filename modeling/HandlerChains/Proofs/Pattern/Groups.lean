import HandlerChains.Proofs.Pattern.Language

/-!
# Groups of a pattern text

A group lies between two parentheses with a balanced text inside. In a balanced text every
parenthesis belongs to a group. What is open after some text are the parentheses behind each of
which the text is balanced up to the next.
-/

namespace HandlerChains
namespace Pattern

/-- A group opens at one offset of a text and closes at another. -/
def GroupAt (text : List Char) (opened closed : Nat) : Prop :=
  ∃ before body after, text = before ++ '(' :: (body ++ ')' :: after) ∧ before.length = opened ∧
    opened + 1 + body.length = closed ∧ Balanced body

def StraysAt (text : List Char) (i : Nat) : Prop :=
  text[i]? = some ')' ∧ ∀ j, ¬ GroupAt text j i

def StaysOpen (text : List Char) (i : Nat) : Prop :=
  text[i]? = some '(' ∧ ∀ j, ¬ GroupAt text i j

namespace Balanced

variable {text more : List Char}

theorem append (h : Balanced text) (h' : Balanced more) : Balanced (text ++ more) := by
  induction h with
  | nil => exact h'
  | other opens closes _ ih => exact .other opens closes ih
  | group body _ _ ih =>
    rw [List.cons_append, List.append_assoc]
    exact .group body ih

theorem single {c : Char} (opens : c ≠ '(') (closes : c ≠ ')') : Balanced [c] :=
  .other opens closes .nil

theorem count_eq (h : Balanced text) : text.count ')' = text.count '(' := by
  induction h with
  | nil => rfl
  | other opens closes _ ih => simpa [List.count_cons, opens, closes] using ih
  | group _ _ ihBody ih =>
    simp only [List.count_cons, List.count_append, ihBody, ih]
    simp
    omega

theorem count_start_le (h : Balanced text) {start rest : List Char} (split : text = start ++ rest) :
    start.count ')' ≤ start.count '(' := by
  induction h generalizing start rest with
  | nil =>
    obtain ⟨rfl, -⟩ := List.append_eq_nil_iff.1 split.symm
    exact Nat.le_refl _
  | @other c text opens closes _ ih =>
    cases start with
    | nil => exact Nat.le_refl _
    | cons d start =>
      obtain ⟨rfl, behind⟩ := List.cons.inj split
      simpa [List.count_cons, opens, closes] using ih behind
  | @group body text balanced _ ihBody ih =>
    cases start with
    | nil => exact Nat.le_refl _
    | cons d start =>
      obtain ⟨rfl, behind⟩ := List.cons.inj split
      rcases List.append_eq_append_iff.1 behind with ⟨more, rfl, closed⟩ | ⟨more, rfl, -⟩
      · cases more with
        | nil => simp [balanced.count_eq]
        | cons d more =>
          obtain ⟨rfl, after⟩ := List.cons.inj closed
          have outside := ih after
          simp [balanced.count_eq]
          omega
      · have inside := ihBody rfl
        simp
        omega

end Balanced

namespace GroupAt

variable {text : List Char} {i j : Nat}

theorem behind (front : List Char) (h : GroupAt text i j) :
    GroupAt (front ++ text) (front.length + i) (front.length + j) := by
  obtain ⟨before, body, after, rfl, rfl, rfl, balanced⟩ := h
  refine ⟨front ++ before, body, after, by simp, by simp, ?_, balanced⟩
  omega

theorem within (h : GroupAt text i j) (back : List Char) : GroupAt (text ++ back) i j := by
  obtain ⟨before, body, after, rfl, opened, closed, balanced⟩ := h
  exact ⟨before, body, after ++ back, by simp, opened, closed, balanced⟩

end GroupAt

/-- What stands at an offset belongs to a group if it is a parenthesis. -/
structure GroupedAt (text : List Char) (i : Nat) : Prop where
  opens : text[i]? = some '(' → ∃ j, GroupAt text i j
  closes : text[i]? = some ')' → ∃ j, GroupAt text j i

namespace GroupedAt

variable {text : List Char} {i : Nat}

theorem behind (front : List Char) (h : GroupedAt text i) :
    GroupedAt (front ++ text) (front.length + i) where
  opens there := by
    rw [List.getElem?_append_right (Nat.le_add_right _ _), Nat.add_sub_cancel_left] at there
    obtain ⟨j, group⟩ := h.opens there
    exact ⟨_, group.behind front⟩
  closes there := by
    rw [List.getElem?_append_right (Nat.le_add_right _ _), Nat.add_sub_cancel_left] at there
    obtain ⟨j, group⟩ := h.closes there
    exact ⟨_, group.behind front⟩

theorem within (h : GroupedAt text i) (inside : i < text.length) (back : List Char) :
    GroupedAt (text ++ back) i where
  opens there := by
    rw [List.getElem?_append_left inside] at there
    obtain ⟨j, group⟩ := h.opens there
    exact ⟨j, group.within back⟩
  closes there := by
    rw [List.getElem?_append_left inside] at there
    obtain ⟨j, group⟩ := h.closes there
    exact ⟨j, group.within back⟩

end GroupedAt

/-- Each parenthesis of a balanced text belongs to a group. -/
theorem Balanced.groupedAt {text : List Char} (h : Balanced text) (i : Nat) : GroupedAt text i := by
  induction h generalizing i with
  | nil => exact ⟨by simp, by simp⟩
  | @other c text opens closes _ ih =>
    cases i with
    | zero => exact ⟨by simp [opens], by simp [closes]⟩
    | succ i =>
      rw [Nat.add_comm]
      exact (ih i).behind [c]
  | @group body text balanced _ ihBody ih =>
    have whole : GroupAt ('(' :: (body ++ ')' :: text)) 0 (1 + body.length) :=
      ⟨[], body, text, rfl, rfl, by omega, balanced⟩
    obtain rfl | ⟨i, rfl⟩ : i = 0 ∨ ∃ k, i = 1 + k := by
      cases i with
      | zero => exact .inl rfl
      | succ i => exact .inr ⟨i, Nat.add_comm i 1⟩
    · exact ⟨fun _ => ⟨_, whole⟩, by simp⟩
    rcases Nat.lt_trichotomy i body.length with inside | rfl | outside
    · exact ((ihBody i).within inside _).behind ['(']
    · exact ⟨by simp [Nat.add_comm 1], fun _ => ⟨_, whole⟩⟩
    · obtain ⟨k, rfl⟩ := Nat.exists_eq_add_of_lt outside
      have there := ((ih k).behind [')']).behind body |>.behind ['(']
      have offset : 1 + (body.length + k + 1) = 1 + (body.length + (1 + k)) := by omega
      rw [offset]
      exact there

/-- What is open after a text: the offsets of the parentheses that are not closed in it, the last
one first. -/
inductive OpenAfter : (text : List Char) → (groups : List Nat) → Prop where
  | none {text} : Balanced text → OpenAfter text []
  | group {text groups body} : OpenAfter text groups → Balanced body →
      OpenAfter (text ++ '(' :: body) (text.length :: groups)

namespace OpenAfter

variable {text more : List Char} {groups : List Nat} {i : Nat}

theorem append (h : OpenAfter text groups) (balanced : Balanced more) :
    OpenAfter (text ++ more) groups := by
  cases h with
  | none h => exact .none (h.append balanced)
  | group outside inside =>
    rw [List.append_assoc, List.cons_append]
    exact .group outside (inside.append balanced)

theorem closes (h : OpenAfter text (i :: groups)) (more : List Char) :
    OpenAfter (text ++ [')']) groups ∧ GroupAt (text ++ ')' :: more) i text.length := by
  cases h with
  | @group text _ body outside inside =>
    constructor
    · rw [List.append_assoc, List.cons_append]
      exact outside.append (.group inside .nil)
    · exact ⟨text, body, more, by simp, rfl, by simp; omega, inside⟩

theorem strays (h : OpenAfter text []) (more : List Char) :
    StraysAt (text ++ ')' :: more) text.length := by
  cases h with
  | none balanced =>
    refine ⟨by simp, fun j group => ?_⟩
    obtain ⟨before, body, after, split, rfl, ends, inside⟩ := group
    have start : text = before ++ '(' :: body := by
      have same := congrArg (List.take text.length) split
      rw [List.take_left, ← ends] at same
      rw [same]
      have : (before ++ '(' :: body).length = before.length + 1 + body.length := by simp; omega
      rw [← this, show before ++ '(' :: (body ++ ')' :: after) =
        (before ++ '(' :: body) ++ ')' :: after by simp, List.take_left]
    have counts := balanced.count_eq
    have front := balanced.count_start_le start
    rw [start] at counts
    simp [inside.count_eq] at counts
    omega

/-- What was opened last and is not closed in a text stays open, and nothing behind it does. -/
theorem staysOpen (h : OpenAfter text (i :: groups)) :
    StaysOpen text i ∧ ∀ j, StaysOpen text j → j ≤ i := by
  cases h with
  | @group text _ body outside inside =>
    refine ⟨⟨by simp, fun j group => ?_⟩, fun j ⟨opens, never⟩ => ?_⟩
    · obtain ⟨before, body', after, split, same, -, balanced⟩ := group
      obtain ⟨rfl, rest⟩ := List.append_inj split same.symm
      have start : body = (body' ++ [')']) ++ after := by simpa using rest
      have counts := inside.count_start_le start
      have closing : [')'].count ')' = 1 ∧ [')'].count '(' = 0 := ⟨rfl, rfl⟩
      rw [List.count_append, List.count_append, balanced.count_eq, closing.1, closing.2] at counts
      omega
    · by_contra behind
      obtain ⟨k, rfl⟩ := Nat.exists_eq_add_of_lt (Nat.lt_of_not_le behind)
      have there := (inside.groupedAt k).behind ['('] |>.behind text
      have offset : text.length + k + 1 = text.length + (1 + k) := by omega
      rw [offset] at opens never
      obtain ⟨j, group⟩ := there.opens opens
      exact never j group

end OpenAfter

end Pattern
end HandlerChains
