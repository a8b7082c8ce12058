/-!
# Dictionaries

Finite maps from texts to values, kept as a list in strictly increasing order of the keys.  The
order makes the list of entries a canonical form: two dictionaries that answer every look-up alike
are equal.

Main results:

- Theorem {lit}`Dictionary.find?_insert_self`: a key that was just written is found.
- Theorem {lit}`Dictionary.find?_insert_of_ne`: a write leaves every other key alone.
- Theorem {lit}`Dictionary.ext_find?`: look-ups decide equality.
- Theorem {lit}`Dictionary.ofList_entries`: entering all entries again gives the same dictionary.
-/

namespace Switchboard

/-- A finite map from texts to values, as its entries in strictly increasing order of the keys. -/
structure Dictionary (α : Type) where
  entries : List (String × α)
  sorted : entries.Pairwise fun a b => a.1 < b.1

namespace Dictionary

variable {α : Type}

/-! ## Operations -/

/-- The dictionary without entries. -/
def empty : Dictionary α :=
  ⟨[], .nil⟩

instance : EmptyCollection (Dictionary α) := ⟨empty⟩

instance : Inhabited (Dictionary α) := ⟨empty⟩

instance [DecidableEq α] : DecidableEq (Dictionary α) := fun d e =>
  if h : d.entries = e.entries then
    .isTrue (by cases d; cases e; cases h; rfl)
  else
    .isFalse fun same => h (same ▸ rfl)

/-- The value that a list of entries holds first under a key. -/
def search (key : String) : List (String × α) → Option α
  | [] => none
  | entry :: rest => if key = entry.1 then some entry.2 else search key rest

/-- The value under a key. -/
def find? (d : Dictionary α) (key : String) : Option α :=
  search key d.entries

/-- Whether a key has a value. -/
def contains (d : Dictionary α) (key : String) : Bool :=
  (d.find? key).isSome

/-- The keys in increasing order. -/
def keys (d : Dictionary α) : List String :=
  d.entries.map Prod.fst

/-- Put an entry at its place, instead of an earlier entry of the same key. -/
def place (key : String) (value : α) : List (String × α) → List (String × α)
  | [] => [(key, value)]
  | (k, v) :: rest =>
    if key < k then (key, value) :: (k, v) :: rest
    else if key = k then (key, value) :: rest
    else (k, v) :: place key value rest

theorem mem_place {key : String} {value : α} {entry : String × α} {l : List (String × α)}
    (h : entry ∈ place key value l) : entry = (key, value) ∨ entry ∈ l := by
  induction l with
  | nil => simpa [place] using h
  | cons head rest ih =>
    obtain ⟨k, v⟩ := head
    simp only [place] at h
    split at h
    · simpa using h
    · split at h
      · rcases List.mem_cons.mp h with h | h
        · exact .inl h
        · exact .inr (List.mem_cons_of_mem _ h)
      · rcases List.mem_cons.mp h with h | h
        · exact .inr (h ▸ List.mem_cons_self)
        · rcases ih h with h | h
          · exact .inl h
          · exact .inr (List.mem_cons_of_mem _ h)

/-- Keys that are neither below nor equal are above. -/
theorem lt_of_not_lt_of_ne {a b : String} (h : ¬ a < b) (hne : a ≠ b) : b < a :=
  Std.lt_of_le_of_ne (String.not_lt.mp h) (Ne.symm hne)

theorem sorted_place {key : String} {value : α} {l : List (String × α)}
    (h : l.Pairwise fun a b => a.1 < b.1) :
    (place key value l).Pairwise fun a b => a.1 < b.1 := by
  induction l with
  | nil => simp [place]
  | cons head rest ih =>
    obtain ⟨k, v⟩ := head
    have hrest := List.pairwise_cons.mp h
    simp only [place]
    split
    case isTrue hlt =>
      refine List.pairwise_cons.mpr ⟨fun entry hmem => ?_, h⟩
      rcases List.mem_cons.mp hmem with rfl | hmem
      · exact hlt
      · exact String.lt_trans hlt (hrest.1 entry hmem)
    case isFalse hlt =>
      split
      case isTrue heq =>
        subst heq
        exact List.pairwise_cons.mpr hrest
      case isFalse hne =>
        refine List.pairwise_cons.mpr ⟨fun entry hmem => ?_, ih hrest.2⟩
        rcases mem_place hmem with rfl | hmem
        · exact lt_of_not_lt_of_ne hlt hne
        · exact hrest.1 entry hmem

/-- Write a value under a key, over an earlier one. -/
def insert (d : Dictionary α) (key : String) (value : α) : Dictionary α :=
  ⟨place key value d.entries, sorted_place d.sorted⟩

/-- Change the value under a key, if it has one. -/
def modify (d : Dictionary α) (key : String) (f : α → α) : Dictionary α :=
  match d.find? key with
  | some value => d.insert key (f value)
  | none => d

/-- Enter the pairs one after the other, so that the last value of a key stays. -/
def insertAll (d : Dictionary α) (pairs : List (String × α)) : Dictionary α :=
  pairs.foldl (fun d pair => d.insert pair.1 pair.2) d

/-- The dictionary of a list of pairs, in which the last value of a key stays. -/
def ofList (pairs : List (String × α)) : Dictionary α :=
  empty.insertAll pairs

/-! ## Look-ups -/

@[simp]
theorem find?_empty (key : String) : (empty : Dictionary α).find? key = none :=
  rfl

theorem search_place_self (key : String) (value : α) (l : List (String × α)) :
    search key (place key value l) = some value := by
  induction l with
  | nil => simp [place, search]
  | cons head rest ih =>
    obtain ⟨k, v⟩ := head
    simp only [place]
    split
    · simp [search]
    · split
      · simp [search]
      · rename_i hne
        simp [search, hne, ih]

theorem search_place_of_ne {key other : String} (hne : other ≠ key) (value : α)
    (l : List (String × α)) : search other (place key value l) = search other l := by
  induction l with
  | nil => simp [place, search, hne]
  | cons head rest ih =>
    obtain ⟨k, v⟩ := head
    simp only [place]
    split
    · simp [search, hne]
    · split
      · rename_i heq
        subst heq
        simp [search, hne]
      · simp [search, ih]

/-- A key that was just written is found. -/
@[simp]
theorem find?_insert_self (d : Dictionary α) (key : String) (value : α) :
    (d.insert key value).find? key = some value :=
  search_place_self key value d.entries

/-- A write leaves every other key alone. -/
theorem find?_insert_of_ne (d : Dictionary α) {key other : String} (hne : other ≠ key)
    (value : α) : (d.insert key value).find? other = d.find? other :=
  search_place_of_ne hne value d.entries

/-- A look-up after a write. -/
theorem find?_insert (d : Dictionary α) (key other : String) (value : α) :
    (d.insert key value).find? other = if other = key then some value else d.find? other := by
  split
  · subst_vars
    simp
  · exact find?_insert_of_ne d (by assumption) value

theorem isSome_search_iff {key : String} {l : List (String × α)} :
    (search key l).isSome = true ↔ key ∈ l.map Prod.fst := by
  induction l with
  | nil => simp [search]
  | cons head rest ih =>
    rw [search, List.map_cons, List.mem_cons]
    by_cases hkey : key = head.1
    · simp [hkey]
    · simp [hkey, ih]

/-- The keys are those that have values. -/
theorem mem_keys_iff {d : Dictionary α} {key : String} :
    key ∈ d.keys ↔ d.contains key = true :=
  isSome_search_iff.symm

/-! ## Equality -/

theorem search_eq_none_of_forall_lt {key : String} {l : List (String × α)}
    (h : ∀ entry ∈ l, key < entry.1) : search key l = none := by
  induction l with
  | nil => rfl
  | cons head rest ih =>
    have hne : key ≠ head.1 := fun heq =>
      String.lt_irrefl _ (heq ▸ h head List.mem_cons_self)
    simp [search, hne, ih fun entry hmem => h entry (List.mem_cons_of_mem _ hmem)]

theorem search_cons_of_lt {key : String} {head : String × α} {rest : List (String × α)}
    (hlt : key < head.1) (sorted : (head :: rest).Pairwise fun a b => a.1 < b.1) :
    search key (head :: rest) = none :=
  search_eq_none_of_forall_lt fun entry hmem => by
    rcases List.mem_cons.mp hmem with rfl | hmem
    · exact hlt
    · exact String.lt_trans hlt ((List.pairwise_cons.mp sorted).1 entry hmem)

/-- Two sorted lists of entries that answer every look-up alike are equal. -/
theorem entries_eq_of_search_eq {l₁ l₂ : List (String × α)}
    (h₁ : l₁.Pairwise fun a b => a.1 < b.1) (h₂ : l₂.Pairwise fun a b => a.1 < b.1)
    (h : ∀ key, search key l₁ = search key l₂) : l₁ = l₂ := by
  induction l₁ generalizing l₂ with
  | nil =>
    cases l₂ with
    | nil => rfl
    | cons head rest => simpa [search] using h head.1
  | cons a rest₁ ih =>
    cases l₂ with
    | nil => simpa [search] using h a.1
    | cons b rest₂ =>
      obtain ⟨ha, hrest₁⟩ := List.pairwise_cons.mp h₁
      obtain ⟨hb, hrest₂⟩ := List.pairwise_cons.mp h₂
      have hkeys : a.1 = b.1 := by
        apply Classical.byContradiction
        intro hne
        by_cases hlt : a.1 < b.1
        · have := h a.1
          rw [search_cons_of_lt hlt h₂] at this
          simp [search] at this
        · have := h b.1
          rw [search_cons_of_lt (lt_of_not_lt_of_ne hlt hne) h₁] at this
          simp [search] at this
      have hvalues : a.2 = b.2 := by
        have := h a.1
        simpa [search, hkeys] using this
      have hab : a = b := Prod.ext hkeys hvalues
      subst hab
      congr 1
      refine ih hrest₁ hrest₂ fun key => ?_
      by_cases hkey : key = a.1
      · subst hkey
        rw [search_eq_none_of_forall_lt ha, search_eq_none_of_forall_lt hb]
      · have := h key
        simpa [search, hkey] using this

/-- Look-ups decide equality. -/
theorem ext_find? {d e : Dictionary α} (h : ∀ key, d.find? key = e.find? key) : d = e := by
  obtain ⟨l₁, h₁⟩ := d
  obtain ⟨l₂, h₂⟩ := e
  have : l₁ = l₂ := entries_eq_of_search_eq h₁ h₂ h
  subst this
  rfl

/-- Writing the value that a key already has changes nothing. -/
theorem insert_eq_self {d : Dictionary α} {key : String} {value : α}
    (h : d.find? key = some value) : d.insert key value = d := by
  apply ext_find?
  intro other
  rw [find?_insert]
  split
  · rename_i heq
    rw [heq, h]
  · rfl

/-- A value that was just written can be written over. -/
theorem insert_insert (d : Dictionary α) (key : String) (value value' : α) :
    (d.insert key value).insert key value' = d.insert key value' := by
  apply ext_find?
  intro other
  simp only [find?_insert]
  split <;> rfl

/-- A look-up after the value under a key was changed. -/
theorem find?_modify (d : Dictionary α) (key other : String) (f : α → α) :
    (d.modify key f).find? other =
      if other = key then (d.find? key).map f else d.find? other := by
  unfold modify
  cases h : d.find? key with
  | some value => simp [find?_insert]
  | none =>
    by_cases heq : other = key
    · simp [heq, h]
    · simp [heq]

/-- A change that leaves the value under a key alone changes nothing. -/
theorem modify_eq_self {d : Dictionary α} {key : String} {f : α → α}
    (h : ∀ value, d.find? key = some value → f value = value) : d.modify key f = d := by
  unfold modify
  split
  · rename_i value hvalue
    rw [h value hvalue]
    exact insert_eq_self hvalue
  · rfl

/-- Entering pairs leaves every key alone that none of them has. -/
theorem find?_insertAll_of_ne (d : Dictionary α) {pairs : List (String × α)} {key : String}
    (hne : ∀ pair ∈ pairs, key ≠ pair.1) : (d.insertAll pairs).find? key = d.find? key := by
  induction pairs generalizing d with
  | nil => rfl
  | cons head rest ih =>
    have hrest := ih (d.insert head.1 head.2) fun pair hpair =>
      hne pair (List.mem_cons_of_mem _ hpair)
    exact hrest.trans (find?_insert_of_ne d (hne head List.mem_cons_self) head.2)

/-- A look-up after a sorted list of pairs was entered. -/
theorem find?_insertAll (d : Dictionary α) {pairs : List (String × α)}
    (sorted : pairs.Pairwise fun a b => a.1 < b.1) (key : String) :
    (d.insertAll pairs).find? key = (search key pairs).or (d.find? key) := by
  induction pairs generalizing d with
  | nil => simp [insertAll, search]
  | cons head rest ih =>
    obtain ⟨hhead, hrest⟩ := List.pairwise_cons.mp sorted
    have hstep : d.insertAll (head :: rest) = (d.insert head.1 head.2).insertAll rest := rfl
    rw [hstep, ih _ hrest]
    by_cases hkey : key = head.1
    · subst hkey
      simp [search, search_eq_none_of_forall_lt hhead]
    · simp [search, hkey, find?_insert_of_ne d hkey]

/-- Entering all entries of a dictionary again gives the same dictionary. -/
@[simp]
theorem ofList_entries (d : Dictionary α) : ofList d.entries = d :=
  ext_find? fun key => by
    rw [ofList, find?_insertAll empty d.sorted, find?_empty, Option.or_none]
    rfl

end Dictionary
end Switchboard
