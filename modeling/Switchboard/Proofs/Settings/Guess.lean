import Switchboard.Proofs.Settings.Numbers
import Switchboard.Proofs.Text

/-!
# Texts that come back

A text from the environment is guessed to be a truth value, a whole number or a floating point
number before it is taken for a text again.  A text that is none of these comes back as it was.  Any
other comes back in the one form in which its value is written, which need not be the one that was
given.

What is written for a truth value or a number reads as that truth value or number again.  So texts
come back alike only if they stand for the same value.  The exception is a floating point number
without decimal places, which is written as a whole number is.

Main results:

- Definition {lit}`ConfigValue.restored`: what a text comes back as.
- Definition {lit}`ConfigValue.Plain`: the texts that are guessed to be nothing else.
- Theorem {lit}`ConfigValue.text?_ofGuess`: every text comes back as some text.
- Theorem {lit}`ConfigValue.restored_eq_self_iff`: which texts come back as they were.
- Theorem {lit}`ConfigValue.restored_eq_iff`: which texts come back alike.
-/

namespace Switchboard
namespace ConfigValue

/-! ## Guesses -/

/-- A text that is guessed to be neither a truth value nor a number. -/
structure Plain (value : String) : Prop where
  notTrue : Text.lowercase value ≠ "true"
  notFalse : Text.lowercase value ≠ "false"
  notWhole : wholeNumber? value.toList = none
  notReal : realNumber? value.toList = none

/-- What is written for a truth value. -/
def truthText (truth : Bool) : String :=
  if truth then "true" else "false"

/-- What a text is guessed to be. -/
inductive Guessed (value : String) : ConfigValue → Prop
  | bool {truth : Bool} (h : Text.lowercase value = truthText truth) : Guessed value (.bool truth)
  | whole {n : Int} (h : wholeNumber? value.toList = some n) : Guessed value (.whole n)
  | real {x : Binary64} (hwhole : wholeNumber? value.toList = none)
      (h : realNumber? value.toList = some x) : Guessed value (.real x)
  | text (h : Plain value) : Guessed value (.text value)

theorem guessed_ofGuess (value : String) : Guessed value (ofGuess value) := by
  unfold ofGuess
  dsimp only
  split
  · rename_i htrue
    exact .bool htrue
  · rename_i htrue
    split
    · rename_i hfalse
      exact .bool hfalse
    · rename_i hfalse
      split
      · rename_i n hwhole
        exact .whole hwhole
      · rename_i hwhole
        split
        · rename_i x hreal
          exact .real hwhole hreal
        · rename_i hreal
          exact .text ⟨htrue, hfalse, hwhole, hreal⟩

/-- What a text from the environment comes back as. -/
def restored (value : String) : String :=
  (ofGuess value).text?.getD value

/-- Every text comes back as some text. -/
theorem text?_ofGuess (value : String) : (ofGuess value).text? = some (restored value) := by
  have hguessed := guessed_ofGuess value
  unfold restored
  generalize ofGuess value = guess at *
  cases hguessed <;> rfl

theorem Plain.ofGuess_eq {value : String} (h : Plain value) : ofGuess value = text value := by
  simp only [ofGuess, h.notTrue, h.notFalse, h.notWhole, h.notReal, if_false]

/-! ## Values that are guessed from their texts -/

/-- What is written for a truth value is no number. -/
theorem number?_truthText (truth : Bool) :
    wholeNumber? (truthText truth).toList = none ∧ realNumber? (truthText truth).toList = none := by
  cases truth <;> decide +kernel

/-- What is written for a number is no truth value. -/
theorem lowercase_ne_truthText {value : String}
    (h : ∃ c rest, value.toList = c :: rest ∧ IsNumberHead c) (truth : Bool) :
    Text.lowercase value ≠ truthText truth := by
  obtain ⟨c, rest, hcons, hc⟩ := h
  intro heq
  have hhead := Text.head?_lowercase hcons hc.ascii.1
  rw [heq] at hhead
  have hfirst : (truthText truth).toList.head? = some (if truth then 't' else 'f') := by
    cases truth <;> rfl
  rw [hfirst] at hhead
  refine hc.ascii.2 ?_
  rw [← Option.some.inj hhead]
  cases truth <;> decide

theorem ofGuess_truthText (truth : Bool) : ofGuess (truthText truth) = bool truth := by
  have hlower : ∀ truth, Text.lowercase (truthText truth) = truthText truth := by
    rintro (_ | _) <;> decide +kernel
  rw [ofGuess, hlower]
  cases truth <;> rfl

theorem ofGuess_repr {n : Int} (h : IsInt64 n) : ofGuess (Int.repr n) = whole n := by
  have hnot := lowercase_ne_truthText (exists_cons_repr n)
  have htrue : Text.lowercase (Int.repr n) ≠ "true" := hnot true
  have hfalse : Text.lowercase (Int.repr n) ≠ "false" := hnot false
  simp only [ofGuess, htrue, hfalse, if_false, wholeNumber?_repr h]

theorem ofGuess_text {x : Binary64} (h : x.WellFormed)
    (hwhole : wholeNumber? x.text.toList = none) : ofGuess x.text = real x := by
  have hnot := lowercase_ne_truthText x.exists_cons_text
  have htrue : Text.lowercase x.text ≠ "true" := hnot true
  have hfalse : Text.lowercase x.text ≠ "false" := hnot false
  simp only [ofGuess, htrue, hfalse, if_false, hwhole, Binary64.realNumber?_text h]

/-! ## Texts that come back as they were -/

/-- A text in the one form in which what it stands for is written. -/
inductive Canonical (value : String) : Prop
  | plain (h : Plain value)
  | bool (truth : Bool) (h : value = truthText truth)
  | whole {n : Int} (hrange : IsInt64 n) (h : value = Int.repr n)
  | real {x : Binary64} (hx : x.WellFormed) (hwhole : wholeNumber? value.toList = none)
      (h : value = x.text)

theorem restored_of_ofGuess {value written : String} {guess : ConfigValue}
    (h : ofGuess value = guess) (htext : guess.text? = some written) :
    restored value = written := by
  rw [restored, h, htext]
  rfl

/-- A text comes back as it was if it is plain, or else in the form in which its value is
written. -/
theorem restored_eq_self_iff (value : String) : restored value = value ↔ Canonical value := by
  constructor
  · intro heq
    have htext := text?_ofGuess value
    rw [heq] at htext
    have hguessed := guessed_ofGuess value
    generalize ofGuess value = guess at *
    cases hguessed with
    | bool h => exact .bool _ (Option.some.inj htext).symm
    | whole h => exact .whole (signedNumber?_eq_some h) (Option.some.inj htext).symm
    | real hwhole h =>
      exact .real (Binary64.realNumber?_wellFormed h) hwhole (Option.some.inj htext).symm
    | text h => exact .plain h
  · intro hcanonical
    cases hcanonical with
    | plain h => exact restored_of_ofGuess h.ofGuess_eq rfl
    | bool truth h =>
      subst h
      exact restored_of_ofGuess (ofGuess_truthText truth) rfl
    | whole hrange h =>
      subst h
      exact restored_of_ofGuess (ofGuess_repr hrange) rfl
    | real hx hwhole h =>
      subst h
      exact restored_of_ofGuess (ofGuess_text hx hwhole) rfl

/-! ## Texts that come back alike -/

/-- Values that are one and the same, or a whole number and a floating point number that is written
as it is. -/
inductive Alike : ConfigValue → ConfigValue → Prop
  | same (value : ConfigValue) : Alike value value
  | wholeReal {n : Int} {x : Binary64} (h : x.text = Int.repr n) : Alike (.whole n) (.real x)
  | realWhole {n : Int} {x : Binary64} (h : x.text = Int.repr n) : Alike (.real x) (.whole n)

theorem Alike.text?_eq {value other : ConfigValue} (h : Alike value other) :
    value.text? = other.text? := by
  cases h with
  | same value => rfl
  | wholeReal h => exact congrArg some h.symm
  | realWhole h => exact congrArg some h

/-- What is written for a guess is read as it. -/
inductive Reads (written : String) : ConfigValue → Prop
  | bool {truth : Bool} (h : written = truthText truth) : Reads written (.bool truth)
  | whole {n : Int} (h : wholeNumber? written.toList = some n) (hrepr : written = Int.repr n) :
      Reads written (.whole n)
  | real {x : Binary64} (h : realNumber? written.toList = some x) (htext : written = x.text) :
      Reads written (.real x)
  | text (h : Plain written) : Reads written (.text written)

theorem Guessed.reads {value : String} {guess : ConfigValue} (h : Guessed value guess)
    {written : String} (htext : guess.text? = some written) : Reads written guess := by
  cases h with
  | bool h => exact .bool (Option.some.inj htext).symm
  | whole h =>
    cases htext
    exact .whole (wholeNumber?_repr (signedNumber?_eq_some h)) rfl
  | real hwhole h =>
    cases htext
    exact .real (Binary64.realNumber?_text (Binary64.realNumber?_wellFormed h)) rfl
  | text h =>
    cases htext
    exact .text h

namespace Reads

variable {written : String} {guess other : ConfigValue}

theorem eq_of_truthText {truth : Bool} (h : Reads (truthText truth) guess) :
    guess = .bool truth := by
  cases h with
  | bool h => rw [← ofGuess_truthText, ← h, ofGuess_truthText]
  | whole h _ =>
    rw [(number?_truthText truth).1] at h
    cases h
  | real h _ =>
    rw [(number?_truthText truth).2] at h
    cases h
  | text h => rw [← h.ofGuess_eq, ofGuess_truthText]

theorem eq_of_plain (h : Reads written guess) (hplain : Plain written) : guess = .text written := by
  cases h with
  | bool h => rw [← hplain.ofGuess_eq, h, ofGuess_truthText]
  | whole h _ =>
    rw [hplain.notWhole] at h
    cases h
  | real h _ =>
    rw [hplain.notReal] at h
    cases h
  | text _ => rfl

/-- Only values that are alike are written alike. -/
theorem alike (h : Reads written guess) (h' : Reads written other) : Alike guess other := by
  cases h with
  | bool heq =>
    subst heq
    rw [h'.eq_of_truthText]
    exact .same _
  | text hplain =>
    rw [h'.eq_of_plain hplain]
    exact .same _
  | @whole n hread heq =>
    cases h' with
    | bool heq' =>
      subst heq'
      cases (Reads.whole hread heq).eq_of_truthText
    | text hplain => cases (Reads.whole hread heq).eq_of_plain hplain
    | whole hread' _ =>
      rw [hread] at hread'
      cases hread'
      exact .same _
    | real _ heq' => exact .wholeReal (heq'.symm.trans heq)
  | @real x hread heq =>
    cases h' with
    | bool heq' =>
      subst heq'
      cases (Reads.real hread heq).eq_of_truthText
    | text hplain => cases (Reads.real hread heq).eq_of_plain hplain
    | whole _ heq' => exact .realWhole (heq.symm.trans heq')
    | real hread' _ =>
      rw [hread] at hread'
      cases hread'
      exact .same _

end Reads

/-- Two texts come back alike if and only if they stand for values that are alike. -/
theorem restored_eq_iff (value other : String) :
    restored value = restored other ↔ Alike (ofGuess value) (ofGuess other) := by
  have hvalue := text?_ofGuess value
  have hother := text?_ofGuess other
  constructor
  · intro heq
    rw [← heq] at hother
    exact ((guessed_ofGuess value).reads hvalue).alike ((guessed_ofGuess other).reads hother)
  · intro halike
    have htext := halike.text?_eq
    rw [hvalue, hother] at htext
    exact Option.some.inj htext

end ConfigValue
end Switchboard
