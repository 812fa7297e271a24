import HandlerChains.Text.Percent
import Mathlib.Data.List.Basic
import Mathlib.Tactic.IntervalCases

/-!
# Reading encoded texts back

Reading the UTF-8 bytes of a text gives the text. So does decoding its percent encoding, in which
every byte is written as two hexadecimal digits of either case behind a percent sign.
-/

namespace HandlerChains
namespace Text

/-! ## Bytes of texts -/

theorem toList_loop (bytes : ByteArray) (i : Nat) (done : List UInt8) :
    ByteArray.toList.loop bytes i done = done.reverse ++ bytes.data.toList.drop i := by
  fun_induction ByteArray.toList.loop bytes i done with
  | case1 i done inside ih =>
    have there : i < bytes.data.toList.length := inside
    have here : bytes.get! i = bytes.data.toList[i] := getElem!_pos bytes.data i inside
    rw [ih, List.drop_eq_getElem_cons there, here]
    simp
  | case2 i done outside =>
    have beyond : bytes.data.toList.length ≤ i := Nat.le_of_not_lt outside
    rw [List.drop_of_length_le beyond, List.append_nil]

theorem toList_toUTF8 (s : String) : s.toUTF8.toList = s.toList.flatMap String.utf8EncodeChar := by
  rw [ByteArray.toList, toList_loop, String.toUTF8, ← String.utf8Encode_toList, List.utf8Encode,
    List.toList_data_toByteArray]
  rfl

namespace Utf8

theorem toNat_ofNat {n : Nat} (small : n < 256) : (UInt8.ofNat n).toNat = n :=
  Nat.mod_eq_of_lt small

section

variable {bits n : Nat} {low high : UInt8}

theorem decodeFrom_within (small : n < 64) (least : low.toNat ≤ n + 128)
    (greatest : n + 128 ≤ high.toNat) (missing : Nat) (rest : List Piece) :
    decodeFrom (some ⟨bits, missing, low, high⟩) (.byte (UInt8.ofNat (n + 128)) :: rest) =
      if missing ≤ 1 then Char.ofNat (bits * 64 + n) :: decodeFrom none rest
      else decodeFrom (some { bits := bits * 64 + n, missing := missing - 1 }) rest := by
  have value : (UInt8.ofNat (n + 128)).toNat = n + 128 := toNat_ofNat (by omega)
  have within : low ≤ UInt8.ofNat (n + 128) ∧ UInt8.ofNat (n + 128) ≤ high := by
    rw [UInt8.le_iff_toNat_le, UInt8.le_iff_toNat_le, value]
    exact ⟨least, greatest⟩
  rw [decodeFrom, if_pos within, value, Nat.add_sub_cancel]

theorem decodeFrom_inside (small : n < 64) (least : low.toNat ≤ n + 128)
    (greatest : n + 128 ≤ high.toNat) (missing : Nat) (rest : List Piece) :
    decodeFrom (some ⟨bits, missing + 2, low, high⟩) (.byte (UInt8.ofNat (n + 128)) :: rest) =
      decodeFrom (some { bits := bits * 64 + n, missing := missing + 1 }) rest := by
  rw [decodeFrom_within small least greatest, if_neg (by omega)]
  rfl

theorem decodeFrom_last (small : n < 64) (rest : List Piece) :
    decodeFrom (some { bits, missing := 1 }) (.byte (UInt8.ofNat (n + 128)) :: rest) =
      Char.ofNat (bits * 64 + n) :: decodeFrom none rest := by
  rw [decodeFrom_within small (Nat.le_add_left ..)
    (Nat.add_le_add_right (Nat.le_of_lt_succ small) _),
    if_pos (Nat.le_refl 1)]

end

theorem start_two {n : Nat} (low : 2 ≤ n) (high : n < 32) :
    start (UInt8.ofNat (n + 192)) = ([], some { bits := n, missing := 1 }) := by
  have value : (UInt8.ofNat (n + 192)).toNat = n + 192 := toNat_ofNat (by omega)
  unfold start
  rw [value]
  have lead : ¬ n + 192 < 0x80 ∧ ¬ n + 192 < 0xc2 ∧ n + 192 < 0xe0 := by omega
  simp only [lead, if_false, if_true, Nat.add_sub_cancel]

/-- What the first of three bytes starts: no overlong form and no surrogate. -/
theorem start_three {n : Nat} (high : n < 16) :
    start (UInt8.ofNat (n + 224)) = ([], some
      { bits := n, missing := 2, low := if n = 0 then 0xa0 else 0x80
        high := if n = 13 then 0x9f else 0xbf }) := by
  interval_cases n <;> rfl

/-- What the first of four bytes starts: no overlong form and nothing past the last character. -/
theorem start_four {n : Nat} (high : n < 5) :
    start (UInt8.ofNat (n + 240)) = ([], some
      { bits := n, missing := 3, low := if n = 0 then 0x90 else 0x80
        high := if n = 4 then 0x8f else 0xbf }) := by
  interval_cases n <;> rfl

theorem least_le_inside {n : Nat} : (0x80 : UInt8).toNat ≤ n % 64 + 128 := Nat.le_add_left ..

theorem inside_le_greatest {n : Nat} : n % 64 + 128 ≤ (0xbf : UInt8).toNat :=
  Nat.add_le_add_right (Nat.le_of_lt_succ (Nat.mod_lt _ (by decide))) 128

theorem least_le_inside_of {P : Prop} [Decidable P] {b : UInt8} {n : Nat}
    (close : P → b.toNat ≤ n % 64 + 128) : (if P then b else 0x80).toNat ≤ n % 64 + 128 := by
  split
  · next close' => exact close close'
  · exact least_le_inside

theorem inside_le_greatest_of {P : Prop} [Decidable P] {b : UInt8} {n : Nat}
    (close : P → n % 64 + 128 ≤ b.toNat) : n % 64 + 128 ≤ (if P then b else 0xbf).toNat := by
  split
  · next close' => exact close close'
  · exact inside_le_greatest

theorem decodeFrom_first {b : UInt8} {p : Pending} (starts : start b = ([], some p))
    (rest : List Piece) : decodeFrom none (.byte b :: rest) = decodeFrom (some p) rest := by
  rw [decodeFrom, starts]
  rfl

/-- The bytes of a character are read as that character. -/
theorem decodeFrom_utf8EncodeChar (c : Char) (rest : List Piece) :
    decodeFrom none ((String.utf8EncodeChar c).map .byte ++ rest) = c :: decodeFrom none rest := by
  have whole : Char.ofNat c.val.toNat = c := Char.ofNat_toNat c
  have valid : c.val.toNat < 0xd800 ∨ 0xdfff < c.val.toNat ∧ c.val.toNat < 0x110000 := c.valid
  unfold String.utf8EncodeChar
  generalize c.val.toNat = n at whole valid
  dsimp only
  have sixBits : ∀ {m : Nat}, m % 64 < 64 := Nat.mod_lt _ (by decide)
  by_cases one : n ≤ 127
  · have value : (UInt8.ofNat n).toNat = n := toNat_ofNat (by omega)
    have starts : start (UInt8.ofNat n) = ([Char.ofNat n], none) := by
      rw [start, value, if_pos (Nat.lt_succ_of_le one)]
    rw [if_pos one, List.map_cons, List.map_nil, List.singleton_append, decodeFrom, starts, whole]
    rfl
  by_cases two : n ≤ 2047
  · have bits : (n / 64 % 32) * 64 + n % 64 = n := by omega
    have first := start_two (n := n / 64 % 32) (by omega) (by omega)
    rw [if_neg one, if_pos two]
    simp only [List.map_cons, List.map_nil, List.cons_append, List.nil_append]
    rw [decodeFrom_first first, decodeFrom_last sixBits, bits, whole]
  by_cases three : n ≤ 65535
  · have bits : ((n / 4096 % 16) * 64 + n / 64 % 64) * 64 + n % 64 = n := by omega
    have first := start_three (n := n / 4096 % 16) (by omega)
    have low := least_le_inside_of (b := 0xa0) (n := n / 64) fun none : n / 4096 % 16 = 0 => by
      change 0xa0 ≤ _
      omega
    have high := inside_le_greatest_of (b := 0x9f) (n := n / 64) fun last : n / 4096 % 16 = 13 => by
      change _ ≤ 0x9f
      omega
    rw [if_neg one, if_neg two, if_pos three]
    simp only [List.map_cons, List.map_nil, List.cons_append, List.nil_append]
    rw [decodeFrom_first first, decodeFrom_inside sixBits low high, decodeFrom_last sixBits, bits,
      whole]
  · have bits : (((n / 262144 % 8) * 64 + n / 4096 % 64) * 64 + n / 64 % 64) * 64 + n % 64 = n := by
      omega
    have first := start_four (n := n / 262144 % 8) (by omega)
    have low := least_le_inside_of (b := 0x90) (n := n / 4096) fun none : n / 262144 % 8 = 0 => by
      change 0x90 ≤ _
      omega
    have high := inside_le_greatest_of (b := 0x8f) (n := n / 4096)
      fun last : n / 262144 % 8 = 4 => by
        change _ ≤ 0x8f
        omega
    rw [if_neg one, if_neg two, if_neg three]
    simp only [List.map_cons, List.map_nil, List.cons_append, List.nil_append]
    rw [decodeFrom_first first, decodeFrom_inside sixBits low high,
      decodeFrom_inside sixBits least_le_inside inside_le_greatest,
      decodeFrom_last sixBits, bits, whole]

theorem decode_utf8EncodeChar (cs : List Char) :
    decode ((cs.flatMap String.utf8EncodeChar).map .byte) = cs := by
  unfold decode
  induction cs with
  | nil => rfl
  | cons c cs ih => rw [List.flatMap_cons, List.map_append, decodeFrom_utf8EncodeChar, ih]

end Utf8

/-! ## Escapes -/

namespace Percent

/-- Every byte is written as two hexadecimal digits behind a percent sign. -/
inductive Escapes : List UInt8 → List Char → Prop
  | nil : Escapes [] []
  | cons {b high low h l bytes cs} : hexValue? h = some high → hexValue? l = some low →
      b.toNat = 16 * high + low → Escapes bytes cs → Escapes (b :: bytes) ('%' :: h :: l :: cs)

namespace Escapes

variable {bytes : List UInt8} {cs : List Char}

theorem pieces_eq (h : Escapes bytes cs) : pieces cs = bytes.map .byte := by
  induction h with
  | nil => rfl
  | @cons b _ _ _ _ _ _ high low value _ ih =>
    have same : UInt8.ofNat b.toNat = b := UInt8.ofNat_toNat
    simp only [pieces, high, low, ← value, ih, same, List.map_cons]

/-- What is written so decodes to the text that was written. -/
theorem decodeChars_eq {s : String} (h : Escapes s.toUTF8.toList cs) :
    decodeChars cs = s.toList := by
  rw [decodeChars, h.pieces_eq, toList_toUTF8, Utf8.decode_utf8EncodeChar]

theorem not_slash (h : Escapes bytes cs) : '/' ∉ cs := by
  have digit : ∀ {c n}, hexValue? c = some n → c ≠ '/' := by
    rintro c n value rfl
    cases value
  induction h with
  | nil => exact List.not_mem_nil
  | cons high low _ _ ih =>
    simpa [ih, eq_comm] using ⟨digit high, digit low⟩

end Escapes

/-- The usual way to write a text so has upper-case digits. -/
theorem escapes_encode (s : String) : Escapes s.toUTF8.toList (encode s) := by
  have digit : ∀ n < 16, hexValue? (hexDigit n) = some n := by decide
  unfold encode
  induction s.toUTF8.toList with
  | nil => exact .nil
  | cons b bytes ih =>
    have small : b.toNat < 256 := b.toNat_lt
    exact .cons (digit _ (by omega)) (digit _ (by omega)) (by omega) ih

end Percent
end Text
end HandlerChains
