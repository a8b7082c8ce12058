import Mathlib.Data.List.Basic
import Switchboard.Naming
import Switchboard.Proofs.Text

/-!
# Queues of types

The name of a queue for one type is the tag without the words that only tell where the type was
declared, and without regard to letters being capital or small.  Words are taken out one after the
other, each where it occurs first.  An occurrence could lie across the seam of two parts of a tag,
or come about by an earlier removal, so that the rest is not what was meant.

Neither happens to a name that holds none of the words itself.  Two of them end in a point, which
the word after a name does not hold, and the third cannot overlap with itself, so the one after the
name is its first occurrence.

Main results:

- Theorem {lit}`removeFirst_of_not_occurs`: without an occurrence nothing is taken out.
- Theorem {lit}`removeFirst_append_append`: a word that does not overlap with itself is taken out
  after what does not hold it.
- Theorem {lit}`QueueNaming.Plain.strip_eq`: the words before and after a name are taken out of a
  tag.
- Theorem {lit}`QueueNaming.queueName_spelling`: all spellings of a name have one queue.
-/

namespace Switchboard

/-! ## Occurrences of words -/

section
variable {word head rest left right : List Char} {c : Char}

/-- Without an occurrence of a word nothing is taken out. -/
theorem removeFirst_of_not_occurs (h : ¬ word <:+: rest) : removeFirst word rest = rest := by
  induction rest with
  | nil => rfl
  | cons c rest ih =>
    have hfirst : ¬ word.isPrefixOf (c :: rest) = true := by
      intro hbegins
      have hfront : word <+: c :: rest := List.isPrefixOf_iff_prefix.mp hbegins
      exact h hfront.isInfix
    have hlater : ¬ word <:+: rest := fun hoccurs =>
      h (hoccurs.trans (List.suffix_cons c rest).isInfix)
    rw [removeFirst, if_neg hfirst, ih hlater]

/-- An occurrence of a word in two parts, the second of which does not hold its last character, is
one in the first part. -/
theorem occurs_left_of_getLast (hlast : word.getLast? = some c) (hright : c ∉ right)
    (h : word <:+: left ++ right) : word <:+: left := by
  have hmem : c ∈ word := List.mem_of_getLast? hlast
  rcases List.infix_append_iff.mp h with hleft | hin | ⟨before, after, rfl, hbefore, hafter⟩
  · exact hleft
  · exact absurd (hin.subset hmem) hright
  · cases hnil : after with
    | nil =>
      rw [List.append_nil]
      exact hbefore.isInfix
    | cons d ds =>
      have hin : c ∈ after := by
        rw [List.getLast?_append_of_ne_nil _ (by simp [hnil])] at hlast
        exact List.mem_of_getLast? hlast
      exact absurd (hafter.subset hin) hright

/-- An occurrence of a word in two parts, the first of which does not hold its first character, is
one in the second part. -/
theorem occurs_right_of_head (hhead : word.head? = some c) (hleft : c ∉ left)
    (h : word <:+: left ++ right) : word <:+: right := by
  have hmem : c ∈ word := List.mem_of_head? hhead
  rcases List.infix_append_iff.mp h with hin | hright | ⟨before, after, rfl, hbefore, hafter⟩
  · exact absurd (hin.subset hmem) hleft
  · exact hright
  · cases hnil : before with
    | nil => exact hafter.isInfix
    | cons d ds =>
      have hin : c ∈ before := by
        rw [List.head?_append_of_ne_nil _ (by simp [hnil])] at hhead
        exact List.mem_of_head? hhead
      exact absurd (hbefore.subset hin) hleft

/-- A word overlaps with itself if one may begin within another. -/
def Overlaps (word : List Char) : Prop :=
  ∃ k < word.length, 0 < k ∧ word.drop k <+: word

instance : Decidable (Overlaps word) :=
  inferInstanceAs (Decidable (∃ k < word.length, 0 < k ∧ word.drop k <+: word))

/-- A word that does not overlap with itself cannot begin in what stands before it and does not
hold it. -/
theorem not_begins_of_not_overlaps (hoverlaps : ¬ Overlaps word) (hne : head ≠ [])
    (hfree : ¬ word <:+: head) : ¬ word <+: head ++ (word ++ rest) := by
  intro hbegins
  by_cases hlength : word.length ≤ head.length
  · have hwithin : word <+: head :=
      List.prefix_of_prefix_length_le hbegins (List.prefix_append _ _) hlength
    exact hfree hwithin.isInfix
  · -- What of the occurrence lies beyond the head is the front of the word that stands there.
    have hhead : head <+: word :=
      List.prefix_of_prefix_length_le (List.prefix_append _ _) hbegins (by omega)
    obtain ⟨after, rfl⟩ := hhead
    have hafter : after <+: head ++ after ++ rest := (List.prefix_append_right_inj head).mp hbegins
    have hfront : after <+: head ++ after :=
      List.prefix_of_prefix_length_le hafter (List.prefix_append _ _) (by simp)
    have hpositive : 0 < head.length := List.length_pos_of_ne_nil hne
    refine hoverlaps ⟨head.length, by omega, hpositive, ?_⟩
    rw [List.drop_left]
    exact hfront

/-- A word that does not overlap with itself is taken out after what does not hold it. -/
theorem removeFirst_append_append (hne : word ≠ []) (hoverlaps : ¬ Overlaps word)
    (hfree : ¬ word <:+: head) : removeFirst word (head ++ (word ++ rest)) = head ++ rest := by
  induction head with
  | nil => exact removeFirst_append hne rest
  | cons c head ih =>
    have hfirst : ¬ word.isPrefixOf (c :: (head ++ (word ++ rest))) = true := by
      intro hbegins
      have hfront : word <+: c :: (head ++ (word ++ rest)) :=
        List.isPrefixOf_iff_prefix.mp hbegins
      exact not_begins_of_not_overlaps hoverlaps (List.cons_ne_nil c head) hfree hfront
    have hlater : ¬ word <:+: head := fun hoccurs =>
      hfree (hoccurs.trans (List.suffix_cons c head).isInfix)
    rw [List.cons_append, removeFirst, if_neg hfirst, ih hlater, List.cons_append]

end

/-! ## Tags -/

namespace QueueNaming

/-- The words that are taken out of a tag, in this order. -/
def noise : List String :=
  ["api.", "events.", "event"]

/-- What may stand before a name, in small letters. -/
def heads : List String :=
  ["", "api.", "events.", "api.events."]

/-- What may stand after a name, in small letters. -/
def tails : List String :=
  ["", "event"]

/-- Take the words out of a lowered tag. -/
def strip (tag : List Char) : List Char :=
  noise.foldl (fun rest word => removeFirst word.toList rest) tag

theorem typePart_eq (tag : String) :
    typePart tag = String.ofList (strip (Text.lowerChars tag.toList)) :=
  rfl

/-- A name that holds none of the words. -/
def Plain (name : List Char) : Prop :=
  ∀ word ∈ noise, ¬ word.toList <:+: name

instance (name : List Char) : Decidable (Plain name) :=
  inferInstanceAs (Decidable (∀ word ∈ noise, ¬ word.toList <:+: name))

variable {name : List Char} {head tail : String}

/-- What stands after a name does not bring about a word that ends in a point. -/
theorem Plain.not_occurs_append (h : Plain name) (htail : tail ∈ tails) {word : String}
    (hword : word ∈ noise) (hpoint : word.toList.getLast? = some '.') :
    ¬ word.toList <:+: name ++ tail.toList := by
  have hnone : ∀ tail ∈ tails, '.' ∉ tail.toList := by decide
  exact fun hoccurs => h word hword (occurs_left_of_getLast hpoint (hnone tail htail) hoccurs)

/-- What stands after a name is taken out, and the name is not touched. -/
theorem Plain.removeFirst_tail (h : Plain name) (htail : tail ∈ tails) :
    removeFirst "event".toList (name ++ tail.toList) = name := by
  have hfree : ¬ "event".toList <:+: name := h "event" (by decide)
  have hcases : tail = "" ∨ tail = "event" := by simpa [tails] using htail
  rcases hcases with rfl | rfl
  · rw [show "".toList = [] from rfl, List.append_nil, removeFirst_of_not_occurs hfree]
  · have hlast : removeFirst "event".toList (name ++ ("event".toList ++ [])) = name ++ [] :=
      removeFirst_append_append (by decide) (by decide) hfree
    rwa [List.append_nil, List.append_nil] at hlast

/-- What stands before and after a name is taken out of a tag, and the name is left. -/
theorem Plain.strip_eq (h : Plain name) (hhead : head ∈ heads) (htail : tail ∈ tails) :
    strip (head.toList ++ (name ++ tail.toList)) = name := by
  have hapi : ¬ "api.".toList <:+: name ++ tail.toList :=
    h.not_occurs_append htail (by decide) (by decide)
  have hevents : ¬ "events.".toList <:+: name ++ tail.toList :=
    h.not_occurs_append htail (by decide) (by decide)
  have hhidden : ¬ "api.".toList <:+: "events.".toList ++ (name ++ tail.toList) := fun hoccurs =>
    hapi (occurs_right_of_head (c := 'a') (by decide) (by decide) hoccurs)
  have hcases : head = "" ∨ head = "api." ∨ head = "events." ∨ head = "api.events." := by
    simpa [heads] using hhead
  simp only [strip, noise, List.foldl_cons, List.foldl_nil]
  rcases hcases with rfl | rfl | rfl | rfl
  · rw [show "".toList = [] from rfl, List.nil_append, removeFirst_of_not_occurs hapi,
      removeFirst_of_not_occurs hevents, h.removeFirst_tail htail]
  · rw [removeFirst_append (by decide), removeFirst_of_not_occurs hevents,
      h.removeFirst_tail htail]
  · rw [removeFirst_of_not_occurs hhidden, removeFirst_append (by decide),
      h.removeFirst_tail htail]
  · have hsplit : "api.events.".toList = "api.".toList ++ "events.".toList := by decide
    rw [hsplit, List.append_assoc, removeFirst_append (by decide), removeFirst_append (by decide),
      h.removeFirst_tail htail]

end QueueNaming

/-! ## Spellings -/

namespace QueueNaming

/-- All spellings of an ASCII name that holds none of the words have one queue in an application,
with any of the words that may stand before it and after it: the queue of the name in small
letters. -/
theorem queueName_spelling {name spelling : String} (hascii : Text.IsAscii name)
    (hplain : Plain (Text.lowercase name).toList) (hspelling : Text.CaseVariant spelling name)
    (hhead : ∃ word ∈ heads, Text.CaseVariant head word)
    (htail : ∃ word ∈ tails, Text.CaseVariant tail word) (application : String) :
    (perType application).queueName (head ++ spelling ++ tail) =
      application ++ "-" ++ Text.lowercase name := by
  obtain ⟨headWord, hheadMem, hhead⟩ := hhead
  obtain ⟨tailWord, htailMem, htail⟩ := htail
  have hheads : ∀ word ∈ heads,
      Text.IsAscii word ∧ word.toList.map Char.toLower = word.toList := by decide
  have htails : ∀ word ∈ tails,
      Text.IsAscii word ∧ word.toList.map Char.toLower = word.toList := by decide
  obtain ⟨hheadAscii, hheadLower⟩ := hheads headWord hheadMem
  obtain ⟨htailAscii, htailLower⟩ := htails tailWord htailMem
  have htag : Text.IsAscii (head ++ spelling ++ tail) := by
    intro c hc
    simp only [String.toList_append, List.mem_append] at hc
    rcases hc with (hc | hc) | hc
    · exact hhead.isAscii hheadAscii c hc
    · exact hspelling.isAscii hascii c hc
    · exact htail.isAscii htailAscii c hc
  have hlowered : Text.lowerChars (head ++ spelling ++ tail).toList =
      headWord.toList ++ ((Text.lowercase name).toList ++ tailWord.toList) := by
    rw [Text.lowerChars_of_ascii htag, String.toList_append, String.toList_append,
      List.map_append, List.map_append, List.append_assoc, hhead, htail, hheadLower, htailLower,
      hspelling, ← Text.lowercase_of_ascii hascii]
  rw [queueName, typePart_eq, hlowered, hplain.strip_eq hheadMem htailMem, String.ofList_toList]

/-- A name in odd letters between two words and another. -/
theorem queueName_spelling_invoicePaid :
    Text.IsAscii "InvoicePaid" ∧ Plain (Text.lowercase "InvoicePaid").toList ∧
      (perType "billing").queueName ("API.Events." ++ "iNVOICEpaid" ++ "EVENT") =
        "billing-invoicepaid" := by
  have hascii : Text.IsAscii "InvoicePaid" := by decide
  have hlower : Text.lowercase "InvoicePaid" = "invoicepaid" := by decide +kernel
  have hplain : Plain (Text.lowercase "InvoicePaid").toList := by
    rw [hlower]
    decide +kernel
  have hspelling : Text.CaseVariant "iNVOICEpaid" "InvoicePaid" := by decide +kernel
  have hhead : Text.CaseVariant "API.Events." "api.events." := by decide +kernel
  have htail : Text.CaseVariant "EVENT" "event" := by decide +kernel
  have hqueue := queueName_spelling hascii hplain hspelling ⟨_, by decide, hhead⟩
    ⟨_, by decide, htail⟩ "billing"
  rw [hlower] at hqueue
  exact ⟨hascii, hplain, hqueue⟩

end QueueNaming
end Switchboard
