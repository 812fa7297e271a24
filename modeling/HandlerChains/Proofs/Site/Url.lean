import HandlerChains.Site.Url
import Mathlib

/-!
# Parts of URLs

The parts that a URL is split into can be put together again: what has a scheme, two slashes, a host
and a path that begins with a slash is split into just these. A scheme that was split off is in
lower case, a host has none of the characters that end one, and a path has no query and no fragment.
-/

namespace HandlerChains
namespace Site

/-- A scheme as it comes of splitting: nothing in it can be put into lower case. -/
structure IsLowerScheme (cs : List Char) : Prop where
  scheme : isScheme cs = true
  lower : cs.map Char.toLower = cs

def IsHostChar (c : Char) : Prop := endsHost c = false ∧ isDropped c = false

def IsPathChar (c : Char) : Prop := c ≠ '#' ∧ c ≠ '?' ∧ isDropped c = false

/-- Parts that can be put together again. -/
structure UrlParts.Proper (p : UrlParts) : Prop where
  scheme : p.scheme = "" ∨ IsLowerScheme p.scheme.toList
  host : ∀ c ∈ p.host.toList, IsHostChar c
  faultless : hostFault? p.host.toList = none
  path : ∀ c ∈ p.path.toList, IsPathChar c

section

variable {c : Char}

theorem isSchemeChar_of_isAlpha (h : c.isAlpha = true) : isSchemeChar c = true := by
  simp [isSchemeChar, Char.isAlphanum, h]

theorem isSchemeChar_toLower (h : isSchemeChar c = true) : isSchemeChar c.toLower = true := by
  by_cases upper : c.isUpper
  · exact isSchemeChar_of_isAlpha (by simp [Char.isAlpha, upper])
  · rwa [Char.toLower_eq_of_not_isUpper upper]

theorem plain_of_isSchemeChar (h : isSchemeChar c = true) : c ≠ ':' ∧ isDropped c = false := by
  have apart : ∀ d, isSchemeChar d = false → c ≠ d := by
    rintro d no rfl
    rw [h] at no
    cases no
  refine ⟨apart _ (by decide), ?_⟩
  simp [isDropped, apart '\t' (by decide), apart '\r' (by decide), apart '\n' (by decide)]

theorem not_control_of_isAlpha (h : c.isAlpha = true) : isControlOrSpace c = false := by
  have large : 0x41 ≤ c.toNat := by
    simp only [Char.isAlpha, Char.isUpper, Char.isLower, Bool.or_eq_true, Bool.and_eq_true,
      decide_eq_true_eq, UInt32.le_iff_toNat_le] at h
    change 0x41 ≤ c.val.toNat
    rcases h with ⟨lower, -⟩ | ⟨lower, -⟩ <;> exact le_trans (by decide) lower
  simp only [isControlOrSpace, decide_eq_false_iff_not]
  omega

end

theorem isScheme_cons {c : Char} {rest : List Char} :
    isScheme (c :: rest) = true ↔
      c.isAlpha = true ∧ ∀ d ∈ c :: rest, isSchemeChar d = true := by
  simp only [isScheme, Bool.and_eq_true, List.all_eq_true]

theorem isLowerScheme_map {cs : List Char} (h : isScheme cs = true) :
    IsLowerScheme (cs.map Char.toLower) := by
  cases cs with
  | nil => cases h
  | cons c rest =>
    obtain ⟨alpha, all⟩ := isScheme_cons.1 h
    refine ⟨isScheme_cons.2 ⟨by simpa using alpha, ?_⟩, by simp⟩
    intro d mem
    obtain ⟨e, mem', rfl⟩ := List.mem_map.1 (List.map_cons .. ▸ mem)
    exact isSchemeChar_toLower (all e mem')

namespace IsLowerScheme

variable {cs : List Char}

theorem plain (h : IsLowerScheme cs) : ∀ c ∈ cs, c ≠ ':' ∧ isDropped c = false := by
  cases cs with
  | nil => exact nofun
  | cons c rest => exact fun d mem => plain_of_isSchemeChar ((isScheme_cons.1 h.scheme).2 d mem)

theorem begins (h : IsLowerScheme cs) (rest : List Char) :
    (cs ++ rest).dropWhile isControlOrSpace = cs ++ rest := by
  cases cs with
  | nil => cases h.scheme
  | cons c cs =>
    have alpha := (isScheme_cons.1 h.scheme).1
    simp [not_control_of_isAlpha alpha]

theorem splitScheme_append (h : IsLowerScheme cs) (rest : List Char) :
    splitScheme (cs ++ ':' :: rest) = (cs, rest) := by
  have none : ∀ c ∈ cs, (c != ':') = true := fun c mem => by simpa using (h.plain c mem).1
  have start : (cs ++ ':' :: rest).takeWhile (· != ':') = cs := by
    rw [List.takeWhile_append_of_pos none]
    simp
  have behind : (cs ++ ':' :: rest).dropWhile (· != ':') = ':' :: rest := by
    rw [List.dropWhile_append_of_pos none]
    simp
  unfold splitScheme
  simp only [start, behind, h.scheme, h.lower, if_true]

end IsLowerScheme

theorem splitHost_append {host rest : List Char} (plain : ∀ c ∈ host, IsHostChar c) :
    splitHost ('/' :: '/' :: (host ++ '/' :: rest)) = (host, '/' :: rest) := by
  have inside : ∀ c ∈ host, (!endsHost c) = true := fun c mem => by simp [(plain c mem).1]
  have ends : endsHost '/' = true := by decide
  simp only [splitHost, List.takeWhile_append_of_pos inside, List.dropWhile_append_of_pos inside]
  simp [ends]

theorem mem_splitScheme {cs : List Char} : ∀ c ∈ (splitScheme cs).2, c ∈ cs := by
  unfold splitScheme
  dsimp only
  split
  · next rest behind =>
    split
    · intro c mem
      exact (List.dropWhile_suffix _).mem (behind ▸ List.mem_cons_of_mem _ mem)
    · exact fun c mem => mem
  · exact fun c mem => mem

theorem splitScheme_scheme (cs : List Char) :
    (splitScheme cs).1 = [] ∨ IsLowerScheme (splitScheme cs).1 := by
  unfold splitScheme
  dsimp only
  split
  · split
    · next isScheme => exact .inr (isLowerScheme_map isScheme)
    · exact .inl rfl
  · exact .inl rfl

theorem splitHost_cases (cs : List Char) :
    splitHost cs = ([], cs) ∨ ∃ rest, cs = '/' :: '/' :: rest ∧
      splitHost cs = (rest.takeWhile (!endsHost ·), rest.dropWhile (!endsHost ·)) := by
  unfold splitHost
  split
  · next rest => exact .inr ⟨rest, rfl, rfl⟩
  · exact .inl rfl

theorem mem_splitHost (cs : List Char) :
    (∀ c ∈ (splitHost cs).1, c ∈ cs ∧ endsHost c = false) ∧ ∀ c ∈ (splitHost cs).2, c ∈ cs := by
  obtain none | ⟨rest, rfl, split⟩ := splitHost_cases cs
  · rw [none]
    exact ⟨nofun, fun c mem => mem⟩
  · rw [split]
    refine ⟨fun c mem => ⟨?_, ?_⟩, fun c mem => ?_⟩
    · exact List.mem_cons_of_mem _ (List.mem_cons_of_mem _ ((List.takeWhile_prefix _).mem mem))
    · simpa using List.mem_takeWhile_imp mem
    · exact List.mem_cons_of_mem _ (List.mem_cons_of_mem _ ((List.dropWhile_suffix _).mem mem))

/-- The parts of a URL can be put together again. -/
theorem splitUrl_proper {url : String} {p : UrlParts} (split : splitUrl url = .ok p) :
    p.Proper := by
  unfold splitUrl at split
  dsimp only at split
  generalize kept : (url.toList.dropWhile isControlOrSpace).filter (!isDropped ·) = cs at split
  have undropped : ∀ c ∈ cs, isDropped c = false := by
    intro c mem
    rw [← kept] at mem
    simpa using (List.mem_filter.1 mem).2
  have afterScheme : ∀ c ∈ (splitScheme cs).2, isDropped c = false :=
    fun c mem => undropped c (mem_splitScheme c mem)
  obtain ⟨host, afterHost⟩ := mem_splitHost (splitScheme cs).2
  split at split
  · cases split
  · next faultless =>
    cases split
    refine ⟨?_, ?_, ?_, ?_⟩
    · simpa using splitScheme_scheme cs
    · intro c mem
      rw [String.toList_ofList] at mem
      exact ⟨(host c mem).2, afterScheme c (host c mem).1⟩
    · rwa [String.toList_ofList]
    · intro c mem
      rw [String.toList_ofList] at mem
      have inner := (List.takeWhile_prefix _).mem mem
      refine ⟨by simpa using List.mem_takeWhile_imp inner,
        by simpa using List.mem_takeWhile_imp mem,
        afterScheme c (afterHost c ((List.takeWhile_prefix _).mem inner))⟩

/-- What is put together from parts is split into them. -/
theorem splitUrl_composed {scheme host rest : String} (isScheme : IsLowerScheme scheme.toList)
    (plain : ∀ c ∈ host.toList, IsHostChar c) (faultless : hostFault? host.toList = none)
    (path : ∀ c ∈ rest.toList, IsPathChar c) :
    splitUrl (scheme ++ "://" ++ host ++ ("/" ++ rest)) = .ok ⟨scheme, host, "/" ++ rest⟩ := by
  have chars : (scheme ++ "://" ++ host ++ ("/" ++ rest)).toList =
      scheme.toList ++ ':' :: '/' :: '/' :: (host.toList ++ '/' :: rest.toList) := by
    simp [String.toList_append]
  have kept : (scheme ++ "://" ++ host ++ ("/" ++ rest)).toList.filter (!isDropped ·) =
      (scheme ++ "://" ++ host ++ ("/" ++ rest)).toList := by
    refine List.filter_eq_self.2 fun c mem => ?_
    rw [chars] at mem
    have marks : isDropped ':' = false ∧ isDropped '/' = false := by decide
    simp only [List.mem_append, List.mem_cons] at mem
    rcases mem with mem | rfl | rfl | rfl | mem | rfl | mem
    · simp [(isScheme.plain c mem).2]
    · simp [marks.1]
    · simp [marks.2]
    · simp [marks.2]
    · simp [(plain c mem).2]
    · simp [marks.2]
    · simp [(path c mem).2.2]
  -- no fragment and no query begins in the path
  have upTo : ∀ d, '/' ≠ d → (∀ c ∈ rest.toList, c ≠ d) →
      ('/' :: rest.toList).takeWhile (· != d) = '/' :: rest.toList := by
    intro d ne apart
    refine List.takeWhile_eq_self_iff.2 fun c mem => ?_
    rcases List.mem_cons.1 mem with rfl | mem
    · simpa using ne
    · simpa using apart c mem
  have whole : '/' :: rest.toList = ("/" ++ rest).toList := by simp [String.toList_append]
  unfold splitUrl
  rw [chars, isScheme.begins, ← chars, kept, chars]
  dsimp only
  rw [isScheme.splitScheme_append]
  dsimp only
  rw [splitHost_append plain]
  dsimp only
  rw [upTo '#' (by decide) fun c mem => (path c mem).1,
    upTo '?' (by decide) fun c mem => (path c mem).2.1, faultless, whole]
  simp only [String.ofList_toList]

end Site
end HandlerChains
