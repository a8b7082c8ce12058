import Switchboard.Json.Reader
import Switchboard.Json.Writer

/-!
# Reading what was written

A value that is written in the compact form is read back, as long as none of its numbers has a
fraction or an exponent: such a number is written in a form of its own.

Every reader gives back what it read with the rest of the characters, so for each part of a value
there is a lemma that says what its reader makes of the written part in front of any rest.  Only a
number needs to know something of the rest, for what follows must not go on with it.

Main results:

- Theorem {lit}`Json.readNumber_writeNat`: numbers are read back.
- Theorem {lit}`Json.readText_writeContent`: texts are read back, whatever has to be escaped.
- Theorem {lit}`Json.readValue_write`: values are read back, by induction on the value.
- Theorem {lit}`Json.parse_compact`: so are whole texts.
-/

namespace Switchboard
namespace Json

/-! ## Numbers -/

/-- The rest of the characters does not go on with a number. -/
def EndsNumber : List Char → Prop
  | [] => True
  | c :: _ => c.isDigit = false ∧ c ≠ '.' ∧ c ≠ 'e' ∧ c ≠ 'E'

theorem isDigit_of_mem_writeNat {n : Nat} {c : Char} (h : c ∈ writeNat n) : c.isDigit = true :=
  Nat.isDigit_of_mem_toDigits (by decide) (by decide) h

/-- The digits of a number stand for it. -/
theorem digitsValue_writeNat (n : Nat) : digitsValue (writeNat n) = n := by
  have hfold : digitsValue (writeNat n) = Nat.ofDigitChars 10 (writeNat n) 0 := by
    unfold digitsValue Nat.ofDigitChars
    simp only [Nat.mul_comm]
  rw [hfold]
  exact Nat.ofDigitChars_ten_toDigits

/-- The digits of a number begin with a zero only if there are no others. -/
theorem writeNat_eq_cons (n : Nat) :
    ∃ c rest, writeNat n = c :: rest ∧ c.isDigit = true ∧ (c = '0' → rest = []) := by
  induction n using Nat.strongRecOn with
  | ind n ih =>
    by_cases hn : n < 10
    · have hdigits : writeNat n = [Nat.digitChar n] := Nat.toDigits_of_lt_base hn
      refine ⟨Nat.digitChar n, [], hdigits, ?_, fun _ => rfl⟩
      exact isDigit_of_mem_writeNat (n := n) (by rw [hdigits]; exact List.mem_singleton_self _)
    · have hdigits : writeNat n = writeNat (n / 10) ++ [Nat.digitChar (n % 10)] :=
        Nat.toDigits_of_base_le (by decide) (by omega)
      obtain ⟨c, rest, hcons, hdigit, hzero⟩ := ih (n / 10) (by omega)
      refine ⟨c, rest ++ [Nat.digitChar (n % 10)], by rw [hdigits, hcons]; rfl, hdigit, ?_⟩
      -- A leading zero would be all there is of the tenth, which is not zero.
      intro hc
      have htenth := digitsValue_writeNat (n / 10)
      rw [hcons, hzero hc, hc] at htenth
      have hnone : digitsValue ['0'] = 0 := rfl
      omega

/-- What separates or closes parts of a value ends a number. -/
theorem endsNumber_of_mem {c : Char} (h : c ∈ [',', ']', '\x7d']) (rest : List Char) :
    EndsNumber (c :: rest) := by
  simp only [List.mem_cons, List.not_mem_nil, or_false] at h
  rcases h with rfl | rfl | rfl
  all_goals exact ⟨by decide, by decide, by decide, by decide⟩

/-- A digit is no other character. -/
theorem ne_of_isDigit {c d : Char} (hc : c.isDigit = true) (hd : d.isDigit = false) : c ≠ d := by
  rintro rfl
  rw [hc] at hd
  cases hd

theorem takeWhile_isDigit_of_endsNumber {rest : List Char} (h : EndsNumber rest) :
    rest.takeWhile Char.isDigit = [] ∧ rest.dropWhile Char.isDigit = rest := by
  cases rest with
  | nil => exact ⟨rfl, rfl⟩
  | cons c rest => simp [h.1]

/-- The whole part of a number is read up to what does not go on with it. -/
theorem readWhole_writeNat (n : Nat) {rest : List Char} (h : EndsNumber rest) :
    readWhole (writeNat n ++ rest) = some (writeNat n, rest) := by
  obtain ⟨c, digits, hcons, hdigit, hzero⟩ := writeNat_eq_cons n
  by_cases hc : c = '0'
  · rw [hcons, hzero hc, hc]
    rfl
  · have hall : ∀ d ∈ writeNat n, d.isDigit = true := fun d hd => isDigit_of_mem_writeNat hd
    obtain ⟨htake, hdrop⟩ := takeWhile_isDigit_of_endsNumber h
    have hread : readWhole (writeNat n ++ rest) =
        some ((writeNat n ++ rest).takeWhile Char.isDigit,
          (writeNat n ++ rest).dropWhile Char.isDigit) := by
      rw [hcons, List.cons_append, readWhole]
      · rw [if_pos hdigit]
      · exact hc
    rw [hread, List.takeWhile_append_of_pos hall, List.dropWhile_append_of_pos hall, htake, hdrop,
      List.append_nil]

/-- A number without fraction and exponent is read back. -/
theorem readNumber_writeNat (negative : Bool) (n : Nat) {rest : List Char} (h : EndsNumber rest) :
    readNumber negative (writeNat n ++ rest) = some (integer negative n, rest) := by
  have hfraction : readFraction rest = some (none, rest) := by
    cases rest with
    | nil => rfl
    | cons c rest => simp [readFraction, h.2.1]
  have hexponent : readExponent rest = some (none, rest) := by
    cases rest with
    | nil => rfl
    | cons c rest => simp [readExponent, h.2.2.1, h.2.2.2]
  simp only [readNumber, readWhole_writeNat n h, hfraction, hexponent, Option.bind_eq_bind,
    Option.bind_some, assemble, digitsValue_writeNat]
  rfl

/-! ## Texts -/

/-- A control character is read back from its four hexadecimal digits. -/
theorem fourHex?_control : ∀ n < 32,
    fourHex? '0' '0' (Nat.digitChar (n / 16)) (Nat.digitChar (n % 16)) = some n := by
  decide

/-- A character of a text is written with a short escape, with four hexadecimal digits, or as it
is. -/
theorem escape_cases (c : Char) :
    (∃ d, escape c = ['\\', d] ∧ shortEscape? d = some c ∧ d ≠ 'u') ∨
      (c.toNat < 32 ∧ escape c = '\\' :: 'u' :: '0' :: '0' :: twoHexDigits c.toNat) ∨
      (escape c = [c] ∧ c ≠ '"' ∧ c ≠ '\\' ∧ ¬ c.toNat < 32) := by
  by_cases hshort : c = '"' ∨ c = '\\' ∨ c = '\n' ∨ c = '\r' ∨ c = '\t' ∨ c = '\x08' ∨ c = '\x0c'
  · left
    rcases hshort with rfl | rfl | rfl | rfl | rfl | rfl | rfl
    all_goals exact ⟨_, rfl, rfl, by decide⟩
  · right
    simp only [not_or] at hshort
    obtain ⟨hquote, hbackslash, hn, hr, ht, hb, hf⟩ := hshort
    by_cases hcontrol : c.toNat < 32
    · left
      simp [escape, hquote, hbackslash, hn, hr, ht, hb, hf, hcontrol]
    · right
      exact ⟨escape_of_plain hquote hbackslash (Nat.not_lt.mp hcontrol), hquote, hbackslash,
        hcontrol⟩

/-- A character is read back, however it is written. -/
theorem readUnits_escape (c : Char) (rest : List Char) :
    readUnits (escape c ++ rest) =
      (readUnits rest).map fun read => (.char c :: read.1, read.2) := by
  rcases escape_cases c with ⟨d, hescape, hshort, hd⟩ | ⟨hcontrol, hescape⟩ |
    ⟨hescape, hquote, hbackslash, hplain⟩
  · rw [hescape, List.cons_append, List.singleton_append, readUnits]
    · rw [hshort]
    · intro _ _ _ _ _ hu
      exact absurd hu hd
  · have hunit : unitOf c.toNat = .char c := by
      rw [unitOf, if_neg (by omega), if_neg (by omega), Char.ofNat_toNat]
    rw [hescape]
    simp only [twoHexDigits, List.cons_append, List.nil_append, readUnits,
      fourHex?_control c.toNat hcontrol, hunit]
  · rw [hescape, List.singleton_append, readUnits]
    · rw [if_neg (not_or.mpr ⟨hbackslash, hplain⟩)]
    · exact hquote
    · intro _ _ _ _ _ hc
      exact absurd hc hbackslash
    · intro _ _ hc
      exact absurd hc hbackslash

/-- The characters of a text are read up to the closing quote. -/
theorem readUnits_writeText (content rest : List Char) :
    readUnits (content.flatMap escape ++ '"' :: rest) = some (content.map .char, rest) := by
  induction content with
  | nil => rw [List.flatMap_nil, List.nil_append, readUnits, List.map_nil]
  | cons c content ih =>
    rw [List.flatMap_cons, List.append_assoc, readUnits_escape, ih]
    rfl

theorem joinUnits_map_char (content : List Char) :
    joinUnits (content.map .char) = some content := by
  induction content with
  | nil => rfl
  | cons c content ih =>
    rw [List.map_cons, joinUnits, ih]
    rfl

/-- A text is read back after its opening quote, also one with half a surrogate pair. -/
theorem readText_writeContent (content : Option String) :
    ∃ body, writeContent content = '"' :: body ∧
      ∀ rest, readText (body ++ rest) = some (content, rest) := by
  cases content with
  | none => exact ⟨_, rfl, fun rest => rfl⟩
  | some content =>
    refine ⟨content.toList.flatMap escape ++ ['"'], rfl, fun rest => ?_⟩
    rw [readText, List.append_assoc, List.singleton_append, readUnits_writeText, Option.map_some,
      joinUnits_map_char, Option.map_some, String.ofList_toList]

/-! ## Values -/

mutual

/-- None of the numbers in a value has a fraction or an exponent. -/
def Whole : Json → Prop
  | decimal _ => False
  | array items => WholeItems items
  | object members => WholeMembers members
  | _ => True

/-- None of the numbers in items has a fraction or an exponent. -/
def WholeItems : List Json → Prop
  | [] => True
  | item :: rest => item.Whole ∧ WholeItems rest

/-- None of the numbers in the values of members has a fraction or an exponent. -/
def WholeMembers : List (Option String × Json) → Prop
  | [] => True
  | (_, value) :: rest => value.Whole ∧ WholeMembers rest

end

theorem writeItems_cons_cons (item next : Json) (more : List Json) :
    writeItems (item :: next :: more) = write item ++ ',' :: writeItems (next :: more) := by
  rw [writeItems]
  exact List.cons_ne_nil next more

theorem writeMembers_cons_cons (key : Option String) (value : Json) (next : Option String × Json)
    (more : List (Option String × Json)) :
    writeMembers ((key, value) :: next :: more) =
      writeContent key ++ ':' :: write value ++ ',' :: writeMembers (next :: more) := by
  rw [writeMembers]
  exact List.cons_ne_nil next more

/-- A value is written with something in front that is neither a blank nor the end of an array. -/
theorem write_eq_cons {v : Json} (h : v.Whole) :
    ∃ c rest, write v = c :: rest ∧ isBlank c = false ∧ c ≠ ']' := by
  cases v with
  | null => exact ⟨_, _, rfl, by decide, by decide⟩
  | bool value => cases value <;> exact ⟨_, _, rfl, by decide, by decide⟩
  | integer negative magnitude =>
    cases negative with
    | true => exact ⟨_, _, rfl, by decide, by decide⟩
    | false =>
      obtain ⟨c, rest, hcons, hdigit, -⟩ := writeNat_eq_cons magnitude
      have hblank : isBlank c = false := by
        simp [isBlank, ne_of_isDigit hdigit]
      exact ⟨c, rest, hcons, hblank, ne_of_isDigit hdigit (by decide)⟩
  | decimal value => exact h.elim
  | text content =>
    obtain ⟨body, hbody, -⟩ := readText_writeContent content
    exact ⟨'"', body, hbody, by decide, by decide⟩
  | array items => exact ⟨_, _, rfl, by decide, by decide⟩
  | object members => exact ⟨_, _, rfl, by decide, by decide⟩

/-- So are the items of an array. -/
theorem writeItems_eq_cons {items : List Json} (hne : items ≠ []) (h : WholeItems items) :
    ∃ c rest, writeItems items = c :: rest ∧ isBlank c = false ∧ c ≠ ']' := by
  cases items with
  | nil => exact absurd rfl hne
  | cons item more =>
    obtain ⟨c, rest, hcons, hblank, hend⟩ := write_eq_cons h.1
    cases more with
    | nil => exact ⟨c, rest, by rw [writeItems, hcons], hblank, hend⟩
    | cons next more => exact ⟨c, _, by rw [writeItems_cons_cons, hcons]; rfl, hblank, hend⟩

/-- The members of an object are written with a quote in front. -/
theorem writeMembers_eq_cons {members : List (Option String × Json)} (hne : members ≠ []) :
    ∃ rest, writeMembers members = '"' :: rest := by
  cases members with
  | nil => exact absurd rfl hne
  | cons member more =>
    obtain ⟨key, value⟩ := member
    obtain ⟨body, hbody, -⟩ := readText_writeContent key
    cases more with
    | nil => exact ⟨_, by rw [writeMembers, hbody]; rfl⟩
    | cons next more => exact ⟨_, by rw [writeMembers_cons_cons, hbody]; rfl⟩

theorem skipBlanks_cons {c : Char} (h : isBlank c = false) (rest : List Char) :
    skipBlanks (c :: rest) = c :: rest := by
  rw [skipBlanks, List.dropWhile_cons_of_neg]
  rw [h]
  exact Bool.false_ne_true

/-- A value that is written has no blanks in front. -/
theorem skipBlanks_write {v : Json} (h : v.Whole) (rest : List Char) :
    skipBlanks (write v ++ rest) = write v ++ rest := by
  obtain ⟨c, tail, hcons, hblank, -⟩ := write_eq_cons h
  rw [hcons, List.cons_append, skipBlanks_cons hblank]

/-- A digit opens a number. -/
theorem readValue_of_isDigit {c : Char} (h : c.isDigit = true) (depth : Nat) (rest : List Char) :
    readValue (depth + 1) (c :: rest) = readNumber false (c :: rest) := by
  have hopens : ∀ {d : Char} {rest' : List Char}, d.isDigit = false → c :: rest ≠ d :: rest' := by
    intro d rest' hd heq
    exact ne_of_isDigit h hd (List.cons.inj heq).1
  rw [readValue]
  all_goals exact fun _ => hopens (by decide)

/-- What opens an array and does not close it goes on with items. -/
theorem readValue_array {c : Char} (hblank : isBlank c = false) (hend : c ≠ ']') (depth : Nat)
    (rest : List Char) :
    readValue (depth + 1) ('[' :: c :: rest) =
      (readItems depth (c :: rest)).map fun read => (array read.1, read.2) := by
  rw [readValue, skipBlanks_cons hblank]
  split
  · rename_i heq
    exact absurd (List.cons.inj heq).1 hend
  · rfl

/-- What opens an object and goes on with a quote goes on with members. -/
theorem readValue_object (depth : Nat) (rest : List Char) :
    readValue (depth + 1) ('\x7b' :: '"' :: rest) =
      (readMembers depth ('"' :: rest)).map fun read => (object read.1, read.2) := by
  rw [readValue, skipBlanks_cons (by decide)]
  split
  · rename_i heq
    exact absurd (List.cons.inj heq).1 (by decide)
  · rfl

/-- The last item of an array is read with the end of the array. -/
theorem readItems_last {item : Json} {depth : Nat} {rest : List Char}
    (hitem : readValue depth (write item ++ ']' :: rest) = some (item, ']' :: rest)) :
    readItems (depth + 1) (write item ++ ']' :: rest) = some ([item], rest) := by
  have hend : isBlank ']' = false := by decide
  rw [readItems, hitem]
  simp only [skipBlanks_cons hend]

/-- An item with others behind it is read first. -/
theorem readItems_next {item : Json} {depth : Nat} {rest : List Char}
    (hitem : readValue depth (write item ++ ',' :: rest) = some (item, ',' :: rest)) :
    readItems (depth + 1) (write item ++ ',' :: rest) =
      (readItems depth (skipBlanks rest)).map fun read => (item :: read.1, read.2) := by
  have hcomma : isBlank ',' = false := by decide
  rw [readItems, hitem]
  simp only [skipBlanks_cons hcomma]

/-- The last member of an object is read with the end of the object. -/
theorem readMembers_last (key : Option String) {value : Json} (hwhole : value.Whole)
    {depth : Nat} {rest : List Char}
    (hvalue : readValue depth (write value ++ '\x7d' :: rest) = some (value, '\x7d' :: rest)) :
    readMembers (depth + 1) (writeContent key ++ ':' :: (write value ++ '\x7d' :: rest)) =
      some ([(key, value)], rest) := by
  obtain ⟨body, hbody, hkey⟩ := readText_writeContent key
  have hcolon : isBlank ':' = false := by decide
  have hend : isBlank '\x7d' = false := by decide
  rw [hbody, List.cons_append, readMembers, hkey]
  simp only [skipBlanks_cons hcolon, skipBlanks_write hwhole, hvalue, skipBlanks_cons hend]

/-- A member with others behind it is read first. -/
theorem readMembers_next (key : Option String) {value : Json} (hwhole : value.Whole)
    {depth : Nat} {rest : List Char}
    (hvalue : readValue depth (write value ++ ',' :: rest) = some (value, ',' :: rest)) :
    readMembers (depth + 1) (writeContent key ++ ':' :: (write value ++ ',' :: rest)) =
      (readMembers depth (skipBlanks rest)).map fun read =>
        ((key, value) :: read.1, read.2) := by
  obtain ⟨body, hbody, hkey⟩ := readText_writeContent key
  have hcolon : isBlank ':' = false := by decide
  have hcomma : isBlank ',' = false := by decide
  rw [hbody, List.cons_append, readMembers, hkey]
  simp only [skipBlanks_cons hcolon, skipBlanks_write hwhole, hvalue, skipBlanks_cons hcomma]

mutual

/-- A value is read back, if the bound on the nesting is no less than its length. -/
theorem readValue_write (v : Json) (hwhole : v.Whole) (depth : Nat)
    (hdepth : (write v).length ≤ depth) {rest : List Char} (hrest : EndsNumber rest) :
    readValue depth (write v ++ rest) = some (v, rest) := by
  have hpos : depth ≠ 0 := by
    rintro rfl
    obtain ⟨c, tail, hcons, -⟩ := write_eq_cons hwhole
    rw [hcons] at hdepth
    exact absurd hdepth (Nat.not_succ_le_zero _)
  obtain ⟨depth, rfl⟩ := Nat.exists_eq_add_one_of_ne_zero hpos
  cases v with
  | null => rfl
  | bool value => cases value <;> rfl
  | integer negative magnitude =>
    cases negative with
    | true =>
      have hread := readNumber_writeNat true magnitude hrest
      rw [← hread]
      rfl
    | false =>
      obtain ⟨c, digits, hdigits, hdigit, -⟩ := writeNat_eq_cons magnitude
      have hread := readNumber_writeNat false magnitude hrest
      rw [hdigits, List.cons_append] at hread
      rw [← hread, ← readValue_of_isDigit hdigit depth, ← List.cons_append, ← hdigits]
      rfl
  | decimal value => exact hwhole.elim
  | text content =>
    obtain ⟨body, hbody, hread⟩ := readText_writeContent content
    rw [write, hbody, List.cons_append, readValue, hread]
    rfl
  | array items =>
    by_cases hne : items = []
    · subst hne
      rfl
    · obtain ⟨c, tail, hcons, hblank, hend⟩ := writeItems_eq_cons hne hwhole
      have hlength : (write (array items)).length = (writeItems items).length + 2 := by
        simp [write]
      have hread := readItems_writeItems items hne hwhole depth (by omega) rest
      have hwrite : write (array items) ++ rest = '[' :: (writeItems items ++ ']' :: rest) := by
        simp [write]
      rw [hcons, List.cons_append] at hread hwrite
      rw [hwrite, readValue_array hblank hend, hread]
      rfl
  | object members =>
    by_cases hne : members = []
    · subst hne
      rfl
    · obtain ⟨tail, hcons⟩ := writeMembers_eq_cons hne
      have hlength : (write (object members)).length = (writeMembers members).length + 2 := by
        simp [write]
      have hread := readMembers_writeMembers members hne hwhole depth (by omega) rest
      have hwrite : write (object members) ++ rest =
          '\x7b' :: (writeMembers members ++ '\x7d' :: rest) := by
        simp [write]
      rw [hcons, List.cons_append] at hread hwrite
      rw [hwrite, readValue_object, hread]
      rfl

/-- So are the items of an array, -/
theorem readItems_writeItems (items : List Json) (hne : items ≠ []) (hwhole : WholeItems items)
    (depth : Nat) (hdepth : (writeItems items).length < depth) (rest : List Char) :
    readItems depth (writeItems items ++ ']' :: rest) = some (items, rest) := by
  cases items with
  | nil => exact absurd rfl hne
  | cons item more =>
    obtain ⟨depth, rfl⟩ := Nat.exists_eq_add_one_of_ne_zero (Nat.ne_zero_of_lt hdepth)
    cases more with
    | nil =>
      rw [writeItems] at hdepth ⊢
      have hitem := readValue_write item hwhole.1 depth (Nat.lt_succ_iff.mp hdepth)
        (endsNumber_of_mem (c := ']') (by decide) rest)
      exact readItems_last hitem
    | cons next more =>
      have hmore : next :: more ≠ [] := List.cons_ne_nil next more
      rw [writeItems_cons_cons] at hdepth ⊢
      rw [List.length_append, List.length_cons] at hdepth
      have hitem := readValue_write item hwhole.1 depth (by omega)
        (endsNumber_of_mem (c := ',') (by decide) (writeItems (next :: more) ++ ']' :: rest))
      have hread := readItems_writeItems (next :: more) hmore hwhole.2 depth (by omega) rest
      obtain ⟨c, tail, hcons, hblank, -⟩ := writeItems_eq_cons hmore hwhole.2
      rw [List.append_assoc, List.cons_append, readItems_next hitem]
      rw [hcons, List.cons_append] at hread ⊢
      rw [skipBlanks_cons hblank, hread]
      rfl

/-- and the members of an object. -/
theorem readMembers_writeMembers (members : List (Option String × Json)) (hne : members ≠ [])
    (hwhole : WholeMembers members) (depth : Nat) (hdepth : (writeMembers members).length < depth)
    (rest : List Char) :
    readMembers depth (writeMembers members ++ '\x7d' :: rest) = some (members, rest) := by
  cases members with
  | nil => exact absurd rfl hne
  | cons member more =>
    obtain ⟨key, value⟩ := member
    obtain ⟨depth, rfl⟩ := Nat.exists_eq_add_one_of_ne_zero (Nat.ne_zero_of_lt hdepth)
    cases more with
    | nil =>
      rw [writeMembers, List.length_append, List.length_cons] at hdepth
      have hvalue := readValue_write value hwhole.1 depth (by omega)
        (endsNumber_of_mem (c := '\x7d') (by decide) rest)
      rw [writeMembers, List.append_assoc, List.cons_append, readMembers_last key hwhole.1 hvalue]
    | cons next more =>
      have hmore : next :: more ≠ [] := List.cons_ne_nil next more
      rw [writeMembers_cons_cons, List.length_append, List.length_append, List.length_cons,
        List.length_cons] at hdepth
      have hvalue := readValue_write value hwhole.1 depth (by omega)
        (endsNumber_of_mem (c := ',') (by decide) (writeMembers (next :: more) ++ '\x7d' :: rest))
      have hread := readMembers_writeMembers (next :: more) hmore hwhole.2 depth
        (by omega) rest
      have hwrite : writeMembers ((key, value) :: next :: more) ++ '\x7d' :: rest =
          writeContent key ++ ':' :: (write value ++ ',' ::
            (writeMembers (next :: more) ++ '\x7d' :: rest)) := by
        simp [writeMembers_cons_cons]
      obtain ⟨tail, hcons⟩ := writeMembers_eq_cons hmore
      rw [hwrite, readMembers_next key hwhole.1 hvalue]
      rw [hcons, List.cons_append] at hread ⊢
      rw [skipBlanks_cons (by decide), hread]
      rfl

end

/-- The text of a value without fractions and exponents stands for it. -/
theorem parse_compact {v : Json} (h : v.Whole) : parse v.compact = some v := by
  have hread : readValue (2 * (write v).length + 2) (write v ++ []) = some (v, []) :=
    readValue_write v h _ (by omega) trivial
  have hskip := skipBlanks_write h []
  rw [List.append_nil] at hread hskip
  rw [parse, compact, String.toList_ofList, parseChars, hskip, hread]
  rfl

end Json
end Switchboard
