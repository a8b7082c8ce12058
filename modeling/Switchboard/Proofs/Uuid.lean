import Mathlib.Algebra.Ring.Nat
import Switchboard.Uuid

/-!
# Written identifiers

An identifier is read back from its written form.

Main results:

- Theorem {lit}`Uuid.readHex_hexDigits`: the digits of a number stand for it.
- Theorem {lit}`Uuid.unhyphenate?_hyphenate`: the hyphens between groups come out again.
- Theorem {lit}`Uuid.parse_text`: every identifier is read back from its written form.
-/

namespace Switchboard
namespace Uuid

/-! ## Digits -/

theorem hexValue?_digitChar : ∀ d < 16, hexValue? (Nat.digitChar d) = some d := by
  decide

@[simp]
theorem length_hexDigits (width n : Nat) : (hexDigits width n).length = width := by
  induction width generalizing n with
  | zero => rfl
  | succ width ih => simp [hexDigits, ih]

/-- The last digit is read last. -/
theorem readHex_append (n : Nat) (digits : List Char) (c : Char) :
    readHex n (digits ++ [c]) =
      (readHex n digits).bind fun high => (hexValue? c).map fun low => high * 16 + low := by
  induction digits generalizing n with
  | nil => cases h : hexValue? c <;> simp [readHex, h]
  | cons d rest ih =>
    rw [List.cons_append, readHex, readHex]
    cases hexValue? d with
    | none => rfl
    | some digit => simpa using ih _

/-- The digits of a number stand for it, as far as they go. -/
theorem readHex_hexDigits (width n : Nat) :
    readHex 0 (hexDigits width n) = some (n % 16 ^ width) := by
  induction width generalizing n with
  | zero => simp [hexDigits, readHex, Nat.mod_one]
  | succ width ih =>
    have hlast : hexValue? (Nat.digitChar (n % 16)) = some (n % 16) :=
      hexValue?_digitChar _ (Nat.mod_lt _ (by decide))
    have hsplit : n % 16 ^ (width + 1) = n / 16 % 16 ^ width * 16 + n % 16 := by
      have hmod : n % (16 * 16 ^ width) = n % 16 + 16 * (n / 16 % 16 ^ width) := Nat.mod_mul
      rw [Nat.pow_succ', hmod]
      omega
    simp [hexDigits, readHex_append, ih, hlast, hsplit]

/-! ## Groups -/

/-- Hyphens add one character for each group but the first. -/
theorem length_hyphenate {lengths : List Nat} {digits : List Char} (hne : lengths ≠ [])
    (h : digits.length = lengths.sum) :
    (hyphenate lengths digits).length + 1 = digits.length + lengths.length := by
  induction lengths generalizing digits with
  | nil => exact absurd rfl hne
  | cons length rest ih =>
    cases rest with
    | nil => simp_all [hyphenate]
    | cons next rest =>
      have hrest : (hyphenate (next :: rest) (digits.drop length)).length + 1 =
          (digits.drop length).length + (next :: rest).length := ih (by simp) (by simp [h])
      simp only [hyphenate, List.length_append, List.length_take, List.length_cons,
        List.length_drop, List.sum_cons] at hrest h ⊢
      omega

/-- The hyphens between groups come out again. -/
theorem unhyphenate?_hyphenate {lengths : List Nat} {digits : List Char} (hne : lengths ≠ [])
    (h : digits.length = lengths.sum) :
    unhyphenate? lengths (hyphenate lengths digits) = some digits := by
  induction lengths generalizing digits with
  | nil => exact absurd rfl hne
  | cons length rest ih =>
    cases rest with
    | nil =>
      have hlength : digits.length = length := by simpa using h
      simp [hyphenate, unhyphenate?, ← hlength]
    | cons next rest =>
      have hlength : length ≤ digits.length := by simp [h]
      have htake : (digits.take length).length = length := by simp [hlength]
      have hrest : unhyphenate? (next :: rest) (hyphenate (next :: rest) (digits.drop length)) =
          some (digits.drop length) := ih (by simp) (by simp [h])
      rw [hyphenate, unhyphenate?]
      · rw [List.drop_left' htake, List.take_left' htake]
        simp [hrest]
      · simp
      · simp

/-- Every identifier is read back from its written form. -/
theorem parse_text (id : Uuid) : parse id.text = some id := by
  have hsum : (hexDigits 32 id.value).length = groups.sum := by
    rw [length_hexDigits]
    rfl
  have hlength : (hyphenate groups (hexDigits 32 id.value)).length = 36 := by
    have := length_hyphenate (by decide) hsum
    rw [length_hexDigits] at this
    simpa [groups] using this
  have hread : readHex 0 (hexDigits 32 id.value) = some id.value := by
    rw [readHex_hexDigits, Nat.mod_eq_of_lt]
    exact id.isLt
  have hdigits : ofGroups? (hyphenate groups (hexDigits 32 id.value)) = some id := by
    rw [ofGroups?, unhyphenate?_hyphenate (by decide) hsum, Option.bind_some, ofDigits?,
      if_pos (length_hexDigits 32 id.value), hread, Option.bind_some, dif_pos id.isLt]
  simp [parse, text, hlength, hdigits]

end Uuid
end Switchboard
