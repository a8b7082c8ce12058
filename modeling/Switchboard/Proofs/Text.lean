import Switchboard.Text.Lowercase

/-!
# Small letters of ASCII

Lowering a text depends on what stands around a letter, and may change how many characters there
are.  ASCII is lowered letter by letter, and back from small letters nothing but ASCII leads to it.

Main results:

- Theorem {lit}`lowerChars_of_ascii`: ASCII is lowered letter by letter.
- Theorem {lit}`head?_lowercase`: an ASCII character in front of any text is lowered alone.
- Theorem {lit}`CaseVariant.isAscii`: all spellings of an ASCII text are ASCII.
-/

namespace Switchboard
namespace Text

/-- All characters are ASCII. -/
def IsAscii (text : String) : Prop :=
  ∀ c ∈ text.toList, c.toNat < 128

instance (text : String) : Decidable (IsAscii text) :=
  List.decidableBAll (fun c : Char => c.toNat < 128) text.toList

/-- Two texts that differ at most in ASCII letters being capital or small. -/
def CaseVariant (text other : String) : Prop :=
  text.toList.map Char.toLower = other.toList.map Char.toLower

instance (text other : String) : Decidable (CaseVariant text other) :=
  inferInstanceAs (Decidable (text.toList.map Char.toLower = other.toList.map Char.toLower))

/-- An ASCII character is lowered alone, whatever stands before and after it. -/
theorem lowerAfter_cons_of_ascii {c : Char} (h : c.toNat < 128) (before rest : List Char) :
    lowerAfter before (c :: rest) = c.toLower :: lowerAfter (c :: before) rest := by
  have hsigma : c ≠ 'Σ' := by
    rintro rfl
    exact absurd h (by decide)
  have hdotted : c ≠ 'İ' := by
    rintro rfl
    exact absurd h (by decide)
  have hplain : lowerPlain c = c.toLower := by
    have hlower := lowerPlain_of_ascii h
    rwa [Char.ofNat_toNat] at hlower
  rw [lowerAfter, if_neg hsigma, if_neg hdotted, hplain]
  rfl

theorem lowerAfter_of_ascii {cs : List Char} (h : ∀ c ∈ cs, c.toNat < 128) (before : List Char) :
    lowerAfter before cs = cs.map Char.toLower := by
  induction cs generalizing before with
  | nil => rfl
  | cons c rest ih =>
    rw [lowerAfter_cons_of_ascii (h c List.mem_cons_self),
      ih (fun d hd => h d (List.mem_cons_of_mem c hd))]
    rfl

/-- ASCII is lowered letter by letter. -/
theorem lowerChars_of_ascii {text : String} (h : IsAscii text) :
    lowerChars text.toList = text.toList.map Char.toLower :=
  lowerAfter_of_ascii h []

theorem lowercase_of_ascii {text : String} (h : IsAscii text) :
    (lowercase text).toList = text.toList.map Char.toLower := by
  rw [lowercase, String.toList_ofList, lowerChars_of_ascii h]

/-- The first character of a text is lowered alone if it is ASCII. -/
theorem head?_lowercase {text : String} {c : Char} {rest : List Char} (h : text.toList = c :: rest)
    (hc : c.toNat < 128) : (lowercase text).toList.head? = some c.toLower := by
  rw [lowercase, String.toList_ofList, lowerChars, h, lowerAfter_cons_of_ascii hc]
  rfl

/-- A character whose small letter is ASCII is ASCII. -/
theorem toNat_lt_of_toLower {c : Char} (h : c.toLower.toNat < 128) : c.toNat < 128 := by
  unfold Char.toLower at h
  split at h
  · rename_i hupper
    have hle : c.toNat ≤ 'Z'.toNat := hupper.2
    have hz : 'Z'.toNat = 90 := rfl
    omega
  · exact h

/-- The small letter of an ASCII character is ASCII. -/
theorem toNat_toLower_lt {c : Char} (h : c.toNat < 128) : c.toLower.toNat < 128 := by
  have hall : ∀ n < 128, (Char.ofNat n).toLower.toNat < 128 := by decide +kernel
  have hc := hall c.toNat h
  rwa [Char.ofNat_toNat] at hc

/-- A spelling of an ASCII text is ASCII. -/
theorem CaseVariant.isAscii {text other : String} (h : CaseVariant text other)
    (hother : IsAscii other) : IsAscii text := by
  intro c hc
  have hlower : c.toLower ∈ other.toList.map Char.toLower := by
    rw [← h]
    exact List.mem_map_of_mem hc
  obtain ⟨d, hd, heq⟩ := List.mem_map.mp hlower
  refine toNat_lt_of_toLower ?_
  rw [← heq]
  exact toNat_toLower_lt (hother d hd)

end Text
end Switchboard
