import Mathlib.Data.List.TakeWhile
import Switchboard.Proofs.Decimal.Shortest
import Switchboard.Proofs.Json.RoundTrip
import Switchboard.Settings.Value

/-!
# Numbers that are read back

Whole numbers of 64 bits and floating point numbers are written in decimal digits.  A whole number
is read back from what is written for it.  So is a floating point number, as its digits round to it
and to no other number.

Main results:

- Theorem {lit}`wholeNumber?_repr`: whole numbers are read back.
- Theorem {lit}`decimalNumber?_positional`: positional digits write the decimal number that they
  were made from.
- Theorem {lit}`Binary64.realNumber?_text`: floating point numbers are read back.
- Theorem {lit}`Binary64.realNumber?_wellFormed`: only numbers that rounding gives are read.
-/

namespace Switchboard

/-! ## Digits -/

/-- Zeros in front count for nothing. -/
theorem digitsValue_replicate_append (zeros : Nat) (digits : List Char) :
    digitsValue (List.replicate zeros '0' ++ digits) = digitsValue digits := by
  induction zeros with
  | zero => rfl
  | succ zeros ih => rw [List.replicate_succ, List.cons_append, digitsValue_zero_cons, ih]

/-- Zeros at the end multiply by a power of ten. -/
theorem digitsValue_append_replicate (digits : List Char) (zeros : Nat) :
    digitsValue (digits ++ List.replicate zeros '0') = digitsValue digits * 10 ^ zeros := by
  induction zeros with
  | zero => rw [List.replicate_zero, List.append_nil, Nat.pow_zero, Nat.mul_one]
  | succ zeros ih =>
    have hlast : digitsValue (digits ++ List.replicate zeros '0' ++ ['0']) =
        digitsValue (digits ++ List.replicate zeros '0') * 10 := by
      rw [digitsValue, List.foldl_append]
      rfl
    rw [List.replicate_succ', ← List.append_assoc, hlast, ih, Nat.pow_succ, Nat.mul_assoc]

theorem digitsNumber?_of_isDigit {digits : List Char} (hne : digits ≠ [])
    (hdigits : ∀ c ∈ digits, c.isDigit = true) :
    digitsNumber? digits = some (digitsValue digits) :=
  if_pos ⟨hne, List.all_eq_true.mpr hdigits⟩

/-- Digits are ASCII and have no case. -/
theorem ascii_of_isDigit {c : Char} (h : c.isDigit = true) : c.toNat < 128 ∧ c.toLower = c := by
  have hdigit : 48 ≤ c.val ∧ c.val ≤ 57 := by simpa [Char.isDigit] using h
  have hle : c.toNat ≤ '9'.toNat := hdigit.2
  refine ⟨hle.trans_lt (by decide), ?_⟩
  unfold Char.toLower
  refine dif_neg fun hupper => ?_
  have hge : 'A'.toNat ≤ c.toNat := hupper.1
  exact absurd (hge.trans hle) (by decide)

/-! ## Signs -/

/-- A text without a sign in front is taken as it is. -/
theorem splitSign_of_head {c : Char} {rest : List Char} (hplus : c ≠ '+') (hminus : c ≠ '-') :
    splitSign (c :: rest) = (false, c :: rest) := by
  unfold splitSign
  split
  · rename_i heq
    exact absurd (List.cons.inj heq).1 hminus
  · rename_i heq
    exact absurd (List.cons.inj heq).1 hplus
  · rfl

/-- A sign is split off what begins with a digit. -/
theorem splitSign_writeSign (negative : Bool) {c : Char} (hc : c.isDigit = true)
    (rest : List Char) :
    splitSign (Json.writeSign negative ++ c :: rest) = (negative, c :: rest) := by
  cases negative with
  | true => rfl
  | false =>
    exact splitSign_of_head (Json.ne_of_isDigit hc (by decide)) (Json.ne_of_isDigit hc (by decide))

/-! ## Whole numbers -/

/-- The whole numbers of 64 bits. -/
def IsInt64 (n : Int) : Prop :=
  Int64.minValue.toInt ≤ n ∧ n ≤ Int64.maxValue.toInt

theorem signedNumber?_eq_some {negative : Bool} {digits : List Char} {n : Int}
    (h : signedNumber? negative digits = some n) : IsInt64 n := by
  obtain ⟨magnitude, -, hvalue⟩ := Option.bind_eq_some_iff.mp h
  dsimp only at hvalue
  generalize (if negative then -(magnitude : Int) else magnitude) = value at hvalue
  split at hvalue
  · rename_i hrange
    cases hvalue
    exact hrange
  · cases hvalue

/-- A whole number that is written in digits is read back. -/
theorem wholeNumber?_toDigits (negative : Bool) (magnitude : Nat)
    (h : IsInt64 (if negative then -(magnitude : Int) else magnitude)) :
    wholeNumber? (Json.writeSign negative ++ Nat.toDigits 10 magnitude) =
      some (if negative then -(magnitude : Int) else magnitude) := by
  have hdigits : ∀ c ∈ Nat.toDigits 10 magnitude, c.isDigit = true := fun c hc =>
    Json.isDigit_of_mem_writeNat hc
  have hnumber : digitsNumber? (Nat.toDigits 10 magnitude) = some magnitude := by
    rw [digitsNumber?_of_isDigit Nat.toDigits_ne_nil hdigits]
    exact congrArg some (Json.digitsValue_writeNat magnitude)
  have hsplit : splitSign (Json.writeSign negative ++ Nat.toDigits 10 magnitude) =
      (negative, Nat.toDigits 10 magnitude) := by
    obtain ⟨c, rest, hcons⟩ := List.exists_cons_of_ne_nil (Nat.toDigits_ne_nil (n := magnitude))
    rw [hcons]
    exact splitSign_writeSign negative (hdigits c (by rw [hcons]; exact List.mem_cons_self)) rest
  rw [wholeNumber?, hsplit]
  dsimp only
  rw [signedNumber?, hnumber, Option.bind_some]
  exact if_pos h

/-- A whole number is written with a minus, if it needs one, and the digits of its magnitude. -/
theorem toList_repr (n : Int) :
    (Int.repr n).toList = Json.writeSign (n < 0) ++ Nat.toDigits 10 n.natAbs := by
  cases n with
  | ofNat magnitude => exact Nat.toList_repr
  | negSucc magnitude =>
    change ("-" ++ Nat.repr (magnitude + 1)).toList = _
    rw [String.toList_append, Nat.toList_repr, decide_eq_true (Int.negSucc_lt_zero magnitude)]
    rfl

/-- A whole number is read back from what is written for it. -/
theorem wholeNumber?_repr {n : Int} (h : IsInt64 n) :
    wholeNumber? (Int.repr n).toList = some n := by
  have hvalue : (if decide (n < 0) = true then -(n.natAbs : Int) else n.natAbs) = n := by
    split
    · rename_i hneg
      have := of_decide_eq_true hneg
      omega
    · rename_i hpos
      have := of_decide_eq_false (Bool.eq_false_iff.mpr hpos)
      omega
  have hread := wholeNumber?_toDigits (n < 0) n.natAbs (hvalue.symm ▸ h)
  rw [toList_repr, hread, hvalue]

/-! ## First characters -/

/-- What may stand in front of a number that was written. -/
def IsNumberHead (c : Char) : Prop :=
  c.isDigit = true ∨ c ∈ ['-', 'i', 'N']

/-- Such a character is ASCII, and its small letter does not stand in front of a truth value. -/
theorem IsNumberHead.ascii {c : Char} (h : IsNumberHead c) :
    c.toNat < 128 ∧ c.toLower ∉ ['t', 'f'] := by
  rcases h with hdigit | hmem
  · obtain ⟨hascii, hlower⟩ := ascii_of_isDigit hdigit
    refine ⟨hascii, fun hmem => ?_⟩
    rw [hlower] at hmem
    simp only [List.mem_cons, List.not_mem_nil, or_false] at hmem
    rcases hmem with rfl | rfl <;> cases hdigit
  · simp only [List.mem_cons, List.not_mem_nil, or_false] at hmem
    rcases hmem with rfl | rfl | rfl <;> decide

theorem exists_cons_of_isDigit {digits : List Char} (hne : digits ≠ [])
    (hdigits : ∀ c ∈ digits, c.isDigit = true) (rest : List Char) :
    ∃ c rest', digits ++ rest = c :: rest' ∧ c.isDigit = true := by
  obtain ⟨c, rest', rfl⟩ := List.exists_cons_of_ne_nil hne
  exact ⟨c, rest' ++ rest, rfl, hdigits c List.mem_cons_self⟩

theorem exists_cons_writeSign (negative : Bool) {digits : List Char}
    (h : ∃ c rest, digits = c :: rest ∧ c.isDigit = true) :
    ∃ c rest, Json.writeSign negative ++ digits = c :: rest ∧ IsNumberHead c := by
  obtain ⟨c, rest, rfl, hc⟩ := h
  cases negative with
  | true => exact ⟨'-', c :: rest, rfl, .inr List.mem_cons_self⟩
  | false => exact ⟨c, rest, rfl, .inl hc⟩

theorem exists_cons_repr (n : Int) :
    ∃ c rest, (Int.repr n).toList = c :: rest ∧ IsNumberHead c := by
  have hdigits := exists_cons_of_isDigit (Nat.toDigits_ne_nil (b := 10) (n := n.natAbs))
    (fun c hc => Json.isDigit_of_mem_writeNat hc) []
  rw [List.append_nil] at hdigits
  rw [toList_repr]
  exact exists_cons_writeSign _ hdigits

/-! ## Floating point numbers -/

/-- Digits alone write the decimal number without places. -/
theorem decimalNumber?_whole (negative : Bool) {digits : List Char} (hne : digits ≠ [])
    (hdigits : ∀ c ∈ digits, c.isDigit = true) :
    decimalNumber? negative digits =
      some (Binary64.ofDecimal negative (digitsValue digits) 0) := by
  have htake : digits.takeWhile Char.isDigit = digits := List.takeWhile_eq_self_iff.mpr hdigits
  have hdrop : digits.dropWhile Char.isDigit = [] := List.dropWhile_eq_nil_iff.mpr hdigits
  simp only [decimalNumber?, htake, hdrop, List.append_nil, digitsNumber?_of_isDigit hne hdigits,
    Option.bind_some, List.length_nil]
  rfl

/-- Digits after a point are places. -/
theorem decimalNumber?_pointed (negative : Bool) {before after : List Char} (hne : before ≠ [])
    (hbefore : ∀ c ∈ before, c.isDigit = true) (hafter : ∀ c ∈ after, c.isDigit = true) :
    decimalNumber? negative (before ++ '.' :: after) =
      some (Binary64.ofDecimal negative (digitsValue (before ++ after)) (-after.length)) := by
  have htake : (before ++ '.' :: after).takeWhile Char.isDigit = before := by
    rw [List.takeWhile_append_of_pos hbefore, List.takeWhile_cons_of_neg (by decide),
      List.append_nil]
  have hdrop : (before ++ '.' :: after).dropWhile Char.isDigit = '.' :: after := by
    rw [List.dropWhile_append_of_pos hbefore, List.dropWhile_cons_of_neg (by decide)]
  have hplaces : after.takeWhile Char.isDigit = after := List.takeWhile_eq_self_iff.mpr hafter
  have hnone : after.dropWhile Char.isDigit = [] := List.dropWhile_eq_nil_iff.mpr hafter
  have hall : ∀ c ∈ before ++ after, c.isDigit = true := fun c hc =>
    (List.mem_append.mp hc).elim (hbefore c) (hafter c)
  have hne' : before ++ after ≠ [] := List.append_ne_nil_of_left_ne_nil hne after
  simp only [decimalNumber?, htake, hdrop, hplaces, hnone, digitsNumber?_of_isDigit hne' hall,
    Option.bind_some, zero_sub]

/-- What is written for a decimal number: its digits, with zeros at the end, or with a point before
its places and zeros in front. -/
theorem positional_cases (digits : Nat) (power : Int) :
    (0 ≤ power ∧ Binary64.positional digits power ≠ [] ∧
        (∀ c ∈ Binary64.positional digits power, c.isDigit = true) ∧
        digitsValue (Binary64.positional digits power) = digits * 10 ^ power.toNat) ∨
      power < 0 ∧ ∃ before after, Binary64.positional digits power = before ++ '.' :: after ∧
        before ≠ [] ∧ (∀ c ∈ before, c.isDigit = true) ∧ (∀ c ∈ after, c.isDigit = true) ∧
        digitsValue (before ++ after) = digits ∧ -(after.length : Int) = power := by
  have hvalue : digitsValue (Nat.toDigits 10 digits) = digits := Json.digitsValue_writeNat digits
  have hdigits : ∀ c ∈ Nat.toDigits 10 digits, c.isDigit = true := fun c hc =>
    Json.isDigit_of_mem_writeNat hc
  have hzero (zeros : Nat) : ∀ c ∈ List.replicate zeros '0', c.isDigit = true := fun c hc => by
    rw [List.eq_of_mem_replicate hc]
    decide
  rcases le_or_gt 0 power with hpos | hneg
  · have hwritten : Binary64.positional digits power =
        Nat.toDigits 10 digits ++ List.replicate power.toNat '0' := if_pos hpos
    rw [hwritten]
    refine .inl ⟨hpos, List.append_ne_nil_of_left_ne_nil Nat.toDigits_ne_nil _, ?_, ?_⟩
    · exact fun c hc => (List.mem_append.mp hc).elim (hdigits c) (hzero power.toNat c)
    · rw [digitsValue_append_replicate, hvalue]
  · generalize hpadded : List.replicate ((-power).toNat + 1 - (Nat.toDigits 10 digits).length) '0'
      ++ Nat.toDigits 10 digits = padded
    have hwritten : Binary64.positional digits power =
        padded.take (padded.length - (-power).toNat) ++
          '.' :: padded.drop (padded.length - (-power).toNat) := by
      rw [← hpadded]
      exact if_neg (not_le.mpr hneg)
    have hall : ∀ c ∈ padded, c.isDigit = true := fun c hc => by
      rw [← hpadded] at hc
      exact (List.mem_append.mp hc).elim (hzero _ c) (hdigits c)
    have hlength : (-power).toNat + 1 ≤ padded.length := by
      rw [← hpadded, List.length_append, List.length_replicate]
      omega
    refine .inr ⟨hneg, _, _, hwritten, ?_, ?_, ?_, ?_, ?_⟩
    · apply List.ne_nil_of_length_pos
      rw [List.length_take]
      omega
    · exact fun c hc => hall c (List.mem_of_mem_take hc)
    · exact fun c hc => hall c (List.mem_of_mem_drop hc)
    · rw [List.take_append_drop, ← hpadded, digitsValue_replicate_append, hvalue]
    · rw [List.length_drop]
      omega

theorem exists_cons_positional (digits : Nat) (power : Int) :
    ∃ c rest, Binary64.positional digits power = c :: rest ∧ c.isDigit = true := by
  rcases positional_cases digits power with ⟨-, hne, hdigits, -⟩ |
    ⟨-, before, after, hwritten, hne, hbefore, -⟩
  · have hcons := exists_cons_of_isDigit hne hdigits []
    rwa [List.append_nil] at hcons
  · rw [hwritten]
    exact exists_cons_of_isDigit hne hbefore _

/-- What is written for a decimal number is read as that number, of which zeros at the end are taken
for digits. -/
theorem decimalNumber?_positional (negative : Bool) (digits : Nat) (power : Int) :
    decimalNumber? negative (Binary64.positional digits power) =
      some (Binary64.ofDecimal negative (digits * 10 ^ power.toNat) (min power 0)) := by
  rcases positional_cases digits power with ⟨hpos, hne, hdigits, hvalue⟩ |
    ⟨hneg, before, after, hwritten, hne, hbefore, hafter, hvalue, hplaces⟩
  · rw [decimalNumber?_whole negative hne hdigits, hvalue, min_eq_right hpos]
  · rw [hwritten, decimalNumber?_pointed negative hne hbefore hafter, hvalue, hplaces,
      min_eq_left hneg.le, Int.toNat_of_nonpos hneg.le, Nat.pow_zero, Nat.mul_one]

/-- What is written for a decimal number is read as a floating point number, with or without a
minus. -/
theorem realNumber?_positional (negative : Bool) (digits : Nat) (power : Int) :
    realNumber? (Json.writeSign negative ++ Binary64.positional digits power) =
      some (Binary64.ofDecimal negative (digits * 10 ^ power.toNat) (min power 0)) := by
  obtain ⟨c, rest, hcons, hc⟩ := exists_cons_positional digits power
  have hword {word : String} {d : Char} (hhead : word.toList.head? = some d)
      (hd : d.isDigit = false) : String.ofList ((c :: rest).map Char.toLower) ≠ word := by
    rintro rfl
    rw [String.toList_ofList, List.map_cons, List.head?_cons, (ascii_of_isDigit hc).2] at hhead
    rw [← Option.some.inj hhead, hc] at hd
    cases hd
  rw [hcons, realNumber?, splitSign_writeSign negative hc]
  dsimp only
  rw [if_neg, if_neg, ← hcons, decimalNumber?_positional]
  · exact hword (d := 'n') rfl (by decide)
  · exact not_or.mpr ⟨hword (d := 'i') rfl (by decide), hword (d := 'i') rfl (by decide)⟩

namespace Binary64

/-- Zeros at the end of a decimal number may be taken for digits. -/
theorem digits_mul_ten_zpow (digits : Nat) (power : Int) :
    ((digits * 10 ^ power.toNat : Nat) : ℚ) * 10 ^ (min power 0) = digits * 10 ^ power := by
  rcases le_total 0 power with hle | hle
  · rw [min_eq_right hle, zpow_zero, mul_one]
    push_cast
    rw [← zpow_natCast, Int.toNat_of_nonneg hle]
  · rw [min_eq_left hle, Int.toNat_of_nonpos hle, Nat.pow_zero, Nat.mul_one]

/-- A finite number is written with a minus, if it has one, and its shortest decimal number. -/
theorem toList_text_finite (negative : Bool) (m : Nat) (e : Int) :
    (finite negative m e).text.toList = Json.writeSign negative ++
      if m = 0 then ['0'] else positional (shortest m e).1 (shortest m e).2 := by
  have hsign : (if negative then "-" else "").toList = Json.writeSign negative := by
    cases negative <;> rfl
  rw [text]
  dsimp only
  split
  · rw [String.toList_append, hsign]
    rfl
  · rw [String.toList_append, hsign, String.toList_ofList]

theorem exists_cons_text (x : Binary64) :
    ∃ c rest, x.text.toList = c :: rest ∧ IsNumberHead c := by
  cases x with
  | finite negative m e =>
    rw [toList_text_finite]
    refine exists_cons_writeSign negative ?_
    split
    · exact ⟨'0', [], rfl, by decide⟩
    · exact exists_cons_positional _ _
  | infinite negative => cases negative <;> exact ⟨_, _, rfl, .inr (by decide)⟩
  | notANumber => exact ⟨_, _, rfl, .inr (by decide)⟩

/-- A floating point number is read back from what is written for it. -/
theorem realNumber?_text {x : Binary64} (h : x.WellFormed) :
    realNumber? x.text.toList = some x := by
  cases x with
  | finite negative m e =>
    obtain ⟨hm, he⟩ := h
    rw [toList_text_finite]
    split
    · rename_i hzero
      subst hzero
      have hmin : e = minExponent := hm.full.resolve_left (by decide)
      subst hmin
      cases negative <;> decide +kernel
    · rename_i hne
      rw [realNumber?_positional]
      exact congrArg some (ofDecimal_of_eq_shortest negative hm he (Nat.pos_of_ne_zero hne)
        (digits_mul_ten_zpow _ _))
  | infinite negative => cases negative <;> decide +kernel
  | notANumber => decide +kernel

theorem wellFormed_of_exponent {scaled : Int → Binary64} (hscaled : ∀ p, (scaled p).WellFormed)
    {rest : List Char} {x : Binary64}
    (h : (match rest with
      | [] => some (scaled 0)
      | mark :: rest =>
        if mark = 'e' ∨ mark = 'E' then (exponentNumber? rest).map scaled else none) = some x) :
    x.WellFormed := by
  split at h
  · cases h
    exact hscaled 0
  · split at h
    · obtain ⟨power, -, rfl⟩ := Option.map_eq_some_iff.mp h
      exact hscaled power
    · cases h

/-- Only numbers that rounding gives are read. -/
theorem realNumber?_wellFormed {cs : List Char} {x : Binary64} (h : realNumber? cs = some x) :
    x.WellFormed := by
  unfold realNumber? at h
  dsimp only at h
  split at h
  · cases h
    exact trivial
  · split at h
    · cases h
      exact trivial
    · obtain ⟨digits, -, hscaled⟩ := Option.bind_eq_some_iff.mp h
      extract_lets scaled at hscaled
      have hwell : ∀ p, (scaled p).WellFormed := fun p => ofDecimal_wellFormed _ _ _
      exact wellFormed_of_exponent hwell hscaled

end Binary64
end Switchboard
