import Switchboard.Proofs.Json.RoundTrip
import Switchboard.Proofs.Uuid
import Switchboard.Sample.Payload

/-!
# Payloads read back

Every plain reading inverts the form in which its values are written: numbers within the limits of
their types, identifiers, texts that may be missing, lists, and records.  So all payloads of the
sample service are read back from their JSON values, except for the sealed one, which shows nothing
of itself.

Main results:

- Theorems {lit}`Json.uint64?_nat`, {lit}`Json.int64?_int` and their companions: numbers of a type.
- Theorem {lit}`Json.list?_map`: lists of what is read back.
- Theorem {lit}`Json.fields?_record`: the members of a record.
- Theorem {lit}`Sample.ofJson?_toJson`: payloads of the sample service.
-/

namespace Switchboard

/-! ## Plain readings -/

namespace Json

theorem uint64?_nat (n : UInt64) : (nat n.toNat).uint64? = some n := by
  simp only [uint64?, nat, natBelow?, if_pos n.toNat_lt_size, Option.map_some, UInt64.ofNat_toNat]

theorem uint32?_nat (n : UInt32) : (nat n.toNat).uint32? = some n := by
  simp only [uint32?, nat, natBelow?, if_pos n.toNat_lt_size, Option.map_some, UInt32.ofNat_toNat]

/-- A whole number is read back, whatever its sign. -/
theorem int?_int (n : Int) : (int n).int? = some n := by
  unfold int
  by_cases hn : n < 0
  · have habs : n.natAbs ≠ 0 := by omega
    simp only [hn, decide_true, int?, if_neg habs]
    congr 1
    omega
  · simp only [hn, decide_false, int?]
    congr 1
    omega

/-- A whole number in a range is read back. -/
theorem intWithin?_int {low high n : Int} (hlow : low ≤ n) (hhigh : n ≤ high) :
    (int n).intWithin? low high = some n := by
  rw [intWithin?, int?_int, Option.bind_some, if_pos ⟨hlow, hhigh⟩]

theorem int64?_int (n : Int64) : (int n.toInt).int64? = some n := by
  rw [int64?, intWithin?_int n.minValue_le_toInt n.toInt_le, Option.map_some, Int64.ofInt_toInt]

theorem int32?_int (n : Int32) : (int n.toInt).int32? = some n := by
  rw [int32?, intWithin?_int n.minValue_le_toInt n.toInt_le, Option.map_some, Int32.ofInt_toInt]

theorem int8?_int (n : Int8) : (int n.toInt).int8? = some n := by
  rw [int8?, intWithin?_int n.minValue_le_toInt n.toInt_le, Option.map_some, Int8.ofInt_toInt]

theorem uuid?_text (id : Uuid) : (str id.text).uuid? = some id := by
  simp only [uuid?, str, text?, Option.bind_some, Uuid.parse_text]

/-- A text that may be missing is read back. -/
theorem nullable?_optionalStr (content : Option String) :
    nullable? text? (optionalStr content) = some content := by
  cases content <;> rfl

variable {α : Type} {read : Json → Option α} {write : α → Json}

/-- A list is read back if its items are. -/
theorem list?_map (h : ∀ a, read (write a) = some a) (l : List α) :
    list? read (array (l.map write)) = some l := by
  rw [list?]
  induction l with
  | nil => rfl
  | cons a rest ih =>
    rw [List.map_cons, List.mapM_cons, h a, ih]
    rfl

/-! ## Records -/

/-- A name that is given once is found with its value. -/
theorem member?_of_mem {members : List (String × Json)} (hnames : (members.map Prod.fst).Nodup)
    {entry : String × Json} (h : entry ∈ members) :
    member? entry.1 members = some (some entry.2) := by
  have hfilter : (members.filter fun other => other.1 = entry.1) = [entry] := by
    induction members with
    | nil => cases h
    | cons head rest ih =>
      obtain ⟨hnew, hrest⟩ := List.nodup_cons.mp hnames
      rcases List.mem_cons.mp h with rfl | hmem
      · have hnone : (rest.filter fun other => other.1 = entry.1) = [] := by
          rw [List.filter_eq_nil_iff]
          intro other hother hsame
          exact hnew (of_decide_eq_true hsame ▸ List.mem_map_of_mem hother)
        rw [List.filter_cons, if_pos (decide_eq_true rfl), hnone]
      · have hne : head.1 ≠ entry.1 := fun hsame => hnew (hsame ▸ List.mem_map_of_mem hmem)
        rw [List.filter_cons, if_neg (by simpa using hne), ih hrest hmem]
  rw [member?, hfilter]

/-- The members of a record are found by their names. -/
theorem fields?_record {names : List String} {members : List (String × Json)}
    (hnames : members.map Prod.fst = names) (hnodup : names.Nodup) :
    (record members).fields? names = some ⟨false, members.map fun member => some member.2⟩ := by
  subst hnames
  have hnamed : ∀ l : List (String × Json),
      namedMembers? (l.map fun member => (some member.1, member.2)) = some l := by
    intro l
    induction l with
    | nil => rfl
    | cons head rest ih =>
      rw [namedMembers?] at ih ⊢
      rw [List.map_cons, List.mapM_cons, ih]
      rfl
  have hvalues : ∀ l : List (String × Json), (∀ member ∈ l, member ∈ members) →
      (l.map Prod.fst).mapM (fun name => member? name members) =
        some (l.map fun member => some member.2) := by
    intro l hl
    induction l with
    | nil => rfl
    | cons head rest ih =>
      obtain ⟨hhead, hrest⟩ := List.forall_mem_cons.mp hl
      rw [List.map_cons, List.mapM_cons, member?_of_mem hnodup hhead, ih hrest]
      rfl
  simp only [record, fields?, hnamed, hvalues members fun _ h => h, Option.bind_eq_bind,
    Option.bind_some, Option.pure_def]

/-! ## Values without fractions and exponents -/

theorem whole_array {items : List Json} (h : ∀ item ∈ items, item.Whole) : (array items).Whole := by
  rw [Whole]
  induction items with
  | nil => trivial
  | cons item rest ih =>
    obtain ⟨hitem, hrest⟩ := List.forall_mem_cons.mp h
    exact ⟨hitem, ih hrest⟩

theorem whole_record {members : List (String × Json)} (h : ∀ member ∈ members, member.2.Whole) :
    (record members).Whole := by
  rw [record, Whole]
  induction members with
  | nil => trivial
  | cons member rest ih =>
    obtain ⟨hmember, hrest⟩ := List.forall_mem_cons.mp h
    exact ⟨hmember, ih hrest⟩

theorem whole_strs (contents : List String) : (strs contents).Whole := by
  apply whole_array
  intro item hitem
  obtain ⟨content, -, rfl⟩ := List.mem_map.mp hitem
  trivial

theorem whole_optionalStr (content : Option String) : (optionalStr content).Whole := by
  cases content <;> trivial

end Json

/-! ## Payloads -/

namespace Sample

/-- A shape is read back. -/
theorem Shape.ofJson?_toJson (shape : Shape) :
    shape.toJson.Whole ∧ Shape.ofJson? shape.toJson = some shape := by
  cases shape with
  | blank => exact ⟨trivial, rfl⟩
  | circle radius =>
    refine ⟨⟨⟨trivial, trivial⟩, trivial⟩, ?_⟩
    have hradius : radius? (.record [("r", .nat radius.toNat)]) = some radius := by
      rw [radius?, Json.fields?_record]
      · simp [Json.Fields.require, Json.Fields.found, Json.uint32?_nat]
      · rfl
      · decide
    exact congrArg (Option.map Shape.circle) hradius
  | square x y =>
    refine ⟨⟨⟨trivial, trivial, trivial⟩, trivial⟩, ?_⟩
    have hsides : Json.pair? Json.int8? Json.int8? (.array [.int x.toInt, .int y.toInt]) =
        some (x, y) := by
      simp [Json.pair?, Json.int8?_int]
    exact congrArg (Option.map fun sides => Shape.square sides.1 sides.2) hsides
  | label text => exact ⟨⟨trivial, trivial⟩, rfl⟩

/-- A note is read back. -/
theorem Note.ofJson?_toJson (note : Note) :
    note.toJson.Whole ∧ Note.ofJson? note.toJson = some note := by
  constructor
  · refine ⟨trivial, trivial, Json.whole_strs note.tags, Json.whole_optionalStr note.replyTo, ?_,
      trivial⟩
    apply Json.whole_array
    intro item hitem
    obtain ⟨entry, -, rfl⟩ := List.mem_map.mp hitem
    exact Json.whole_strs _
  · have htags : Json.list? Json.text? (.strs note.tags) = some note.tags :=
      Json.list?_map (fun content => (rfl : (Json.str content).text? = some content)) note.tags
    have hpair : ∀ entry : String × String,
        Json.pair? Json.text? Json.text? (.strs [entry.1, entry.2]) = some entry := fun _ => rfl
    have hattributes : Json.list? (Json.pair? Json.text? Json.text?)
        (.array (note.attributes.map fun entry => .strs [entry.1, entry.2])) =
          some note.attributes :=
      Json.list?_map hpair note.attributes
    rw [Note.toJson, Note.ofJson?, Json.fields?_record]
    · simp [Json.Fields.require, Json.Fields.orElse, Json.Fields.optional, Json.Fields.found,
        Json.int32?_int, Json.nullable?_optionalStr, htags, hattributes, Json.str, Json.text?]
    · rfl
    · decide

/-- A payload's value is read back as the payload. -/
theorem ofJson?_toJson {kind : Kind} (hkind : kind ≠ .sealed) {payload : kind.Value} {value : Json}
    (h : toJson payload = .ok value) : value.Whole ∧ ofJson? kind value = some payload := by
  cases kind with
  | createInvoice =>
    cases h
    refine ⟨⟨trivial, trivial, trivial, trivial⟩, ?_⟩
    rw [ofJson?, Json.fields?_record]
    · simp [Json.Fields.require, Json.Fields.found, Json.uuid?_text, Json.uint64?_nat]
    · rfl
    · decide
  | legacyCreateInvoice =>
    cases h
    refine ⟨⟨trivial, trivial⟩, ?_⟩
    rw [ofJson?, Json.fields?_record]
    · simp [Json.Fields.require, Json.Fields.found, Json.uint64?_nat]
    · rfl
    · decide
  | voidInvoice =>
    cases h
    refine ⟨⟨trivial, trivial⟩, ?_⟩
    rw [ofJson?, Json.fields?_record]
    · simp [Json.Fields.require, Json.Fields.found, Json.uuid?_text]
    · rfl
    · decide
  | invoicePaid =>
    cases h
    refine ⟨⟨trivial, trivial, trivial⟩, ?_⟩
    rw [ofJson?, Json.fields?_record]
    · simp [Json.Fields.require, Json.Fields.found, Json.uuid?_text, Json.uint64?_nat]
    · rfl
    · decide
  | fakeInvoicePaid =>
    cases h
    refine ⟨⟨trivial, trivial⟩, ?_⟩
    rw [ofJson?, Json.fields?_record]
    · simp [Json.Fields.require, Json.Fields.found, Json.int64?_int]
    · rfl
    · decide
  | note =>
    cases h
    exact Note.ofJson?_toJson payload
  | ping =>
    cases h
    exact ⟨trivial, rfl⟩
  | sealed => exact absurd rfl hkind
  | eventuallyPaid =>
    cases h
    refine ⟨trivial, ?_⟩
    change ((Json.nat payload.amount.toNat).uint32?).map EventuallyPaid.mk = some payload
    rw [Json.uint32?_nat]
    rfl
  | shape =>
    cases h
    exact Shape.ofJson?_toJson payload

end Sample
end Switchboard
