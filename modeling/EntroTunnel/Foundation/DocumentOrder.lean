import EntroTunnel.Foundation.Document
import Mathlib.Data.List.Nodup

/-!
# Documents up to the order of their tables

A format may give the entries of a table in another order than they were written in. Two documents
are `Same` when they differ in nothing else. A reader `ReadsBack` a value from a document when it
takes it from every document that is the same.

A table is `written` from the fields of a record, some of which are left out. Where a field that
is left out has the default of the reader, `Records.defaulted` is the rule that reads it back,
whichever other fields are there.
-/

set_option autoImplicit false
set_option relaxedAutoImplicit false

namespace EntroTunnel.Foundation.Document

variable {α β : Type*}

/-! ### The same document -/

/-- Equal up to the order of table entries, at every depth. -/
inductive Same : Document → Document → Prop
  | refl (document : Document) : Same document document
  | array {elements others : List Document} (helements : List.Forall₂ Same elements others) :
    Same (.array elements) (.array others)
  | object {entries others : List (String × Document)}
    (hkeys : (entries.map Prod.fst).Perm (others.map Prod.fst))
    (hentries : ∀ key document other, (key, document) ∈ entries → (key, other) ∈ others →
      Same document other) : Same (.object entries) (.object others)

theorem Same.string {text : String} {other : Document} (hsame : Same (.string text) other) :
    other = .string text := by
  cases hsame
  rfl

theorem Same.bool {value : Bool} {other : Document} (hsame : Same (.bool value) other) :
    other = .bool value := by
  cases hsame
  rfl

theorem Same.integer {value : ℤ} {other : Document} (hsame : Same (.integer value) other) :
    other = .integer value := by
  cases hsame
  rfl

theorem Same.elements {elements : List Document} {other : Document}
    (hsame : Same (.array elements) other) :
    ∃ others, other = .array others ∧ List.Forall₂ Same elements others := by
  cases hsame with
  | refl => exact ⟨elements, rfl, List.forall₂_same.mpr fun element _ ↦ .refl element⟩
  | array helements => exact ⟨_, rfl, helements⟩

/-- A table without repeated keys may give its entries in any order. -/
theorem Same.of_perm {entries others : List (String × Document)}
    (hnodup : (entries.map Prod.fst).Nodup) (hperm : entries.Perm others) :
    Same (.object entries) (.object others) := by
  refine .object (hperm.map _) fun key document other hentry hother ↦ ?_
  obtain ⟨-, rfl⟩ := Prod.mk.inj
    (List.inj_on_of_nodup_map hnodup hentry (hperm.mem_iff.mpr hother) rfl)
  exact .refl document

/-! ### Fields -/

theorem lookup_eq_some_iff {entries : List (String × Document)}
    (hnodup : (entries.map Prod.fst).Nodup) {key : String} {document : Document} :
    entries.lookup key = some document ↔ (key, document) ∈ entries := by
  induction entries with
  | nil => simp
  | cons entry rest ih =>
    obtain ⟨first, value⟩ := entry
    rw [List.map_cons, List.nodup_cons] at hnodup
    rw [lookup_cons_eq, List.mem_cons, Prod.mk.injEq]
    by_cases hkey : key = first
    · subst hkey
      have hrest : (key, document) ∉ rest := fun hmem ↦
        hnodup.1 (List.mem_map.mpr ⟨(key, document), hmem, rfl⟩)
      simp [hrest, eq_comm]
    · simp [hkey, ih hnodup.2]

theorem lookup_eq_none_iff {entries : List (String × Document)} {key : String} :
    entries.lookup key = none ↔ key ∉ entries.map Prod.fst := by
  induction entries with
  | nil => simp
  | cons entry rest ih =>
    rw [lookup_cons_eq, List.map_cons, List.mem_cons, not_or]
    by_cases hkey : key = entry.1
    · simp [hkey]
    · simp [hkey, ih]

/-- The fields of a table say the same as its entries, whatever their order. -/
def Tells (field : String → Option Document) (entries : List (String × Document)) : Prop :=
  ∀ key, (entries.lookup key = none → field key = none) ∧
    ∀ document, entries.lookup key = some document → ∃ other, field key = some other ∧
      Same document other

/-- The same document of a table is a record with the same fields. -/
theorem Same.slots {entries : List (String × Document)} {other : Document}
    (hsame : Same (.object entries) other) (hnodup : (entries.map Prod.fst).Nodup)
    (keys : List String) : ∃ field, slots keys other = some field ∧ Tells field entries := by
  cases hsame with
  | refl =>
    exact ⟨_, slots_of_nodup hnodup keys, fun key ↦
      ⟨id, fun document hlookup ↦ ⟨document, hlookup, .refl document⟩⟩⟩
  | @object _ others hkeys hentries =>
    have hothers : (others.map Prod.fst).Nodup := hkeys.nodup_iff.mp hnodup
    refine ⟨_, slots_of_nodup hothers keys, fun key ↦ ⟨fun hnone ↦ ?_, fun document hsome ↦ ?_⟩⟩
    · rw [lookup_eq_none_iff] at hnone ⊢
      exact fun hmem ↦ hnone (hkeys.mem_iff.mpr hmem)
    · have hmem := (lookup_eq_some_iff hnodup).mp hsome
      obtain ⟨⟨_, value⟩, hvalue, rfl⟩ :=
        List.mem_map.mp (hkeys.mem_iff.mp (List.mem_map_of_mem hmem))
      exact ⟨value, (lookup_eq_some_iff hothers).mpr hvalue, hentries _ _ _ hmem hvalue⟩

/-! ### Reading back -/

/-- The reader takes the value from every document that is the same. -/
def ReadsBack (reader : Reader α) (document : Document) (value : α) : Prop :=
  ∀ other, Same document other → reader other = some value

theorem readsBack_string (text : String) : ReadsBack readString (.string text) text :=
  fun _ hsame ↦ hsame.string ▸ rfl

theorem readsBack_bool (value : Bool) : ReadsBack readBool (.bool value) value :=
  fun _ hsame ↦ hsame.bool ▸ rfl

theorem readsBack_variant {variants : List (String × α)} {name : String} {value : α}
    (hname : variants.lookup name = some value) :
    ReadsBack (readVariant variants) (.string name) value :=
  fun _ hsame ↦ hsame.string ▸ hname

theorem readsBack_option {reader : Reader α} {document : Document} {value : α}
    (hread : ReadsBack reader document value) (hnull : reader .null = none) :
    ReadsBack (readOption reader) document (some value) := by
  intro other hsame
  have hother := hread other hsame
  have hne : other ≠ .null := by
    rintro rfl
    exact Option.some_ne_none value (hother.symm.trans hnull)
  have hoption : readOption reader other = (reader other).map some := by
    cases other with
    | null => exact absurd rfl hne
    | _ => rfl
  rw [hoption, hother, Option.map_some]

theorem readsBack_list {reader : Reader α} {write : α → Document} {values : List α}
    (hwrite : ∀ value ∈ values, ReadsBack reader (write value) value) :
    ReadsBack (readList reader) (.array (values.map write)) values := by
  intro other hsame
  obtain ⟨others, rfl, helements⟩ := hsame.elements
  refine readList_eq_some.mpr ⟨others, rfl, ?_⟩
  clear hsame
  induction values generalizing others with
  | nil =>
    rw [List.map_nil, List.forall₂_nil_left_iff] at helements
    rw [helements]
    exact .nil
  | cons value rest ih =>
    rw [List.map_cons, List.forall₂_cons_left_iff] at helements
    obtain ⟨element, remaining, hfirst, hrest, rfl⟩ := helements
    rw [List.forall_mem_cons] at hwrite
    exact .cons (hwrite.1 element hfirst) (ih hwrite.2 remaining hrest)

/-! ### Tables that are written -/

/-- A field of a record to write. -/
structure Field where
  key : String
  document : Document
  omitted : Bool := false

/-- The entries for the fields that are not left out. -/
def written (fields : List Field) : List (String × Document) :=
  fields.flatMap fun field ↦ entryUnless field.omitted field.key field.document

theorem mem_written {fields : List Field} {entry : String × Document} :
    entry ∈ written fields ↔
      ∃ field ∈ fields, field.omitted = false ∧ entry = (field.key, field.document) := by
  rw [written, List.mem_flatMap]
  refine exists_congr fun field ↦ and_congr_right fun _ ↦ ?_
  cases field.omitted <;> simp [entryUnless]

theorem keys_written_sublist (fields : List Field) :
    ((written fields).map Prod.fst).Sublist (fields.map Field.key) := by
  induction fields with
  | nil => exact List.Sublist.slnil
  | cons field rest ih =>
    rw [written, List.flatMap_cons, List.map_append, List.map_cons]
    cases hfield : field.omitted with
    | true => exact ih.cons _
    | false => exact ih.cons_cons _

/-- What a table can hold: no nulls, integers of 64 bits, and no key twice. -/
inductive Plain : Document → Prop
  | bool (value : Bool) : Plain (.bool value)
  | string (text : String) : Plain (.string text)
  | integer {value : ℤ} (hlow : -0x8000000000000000 ≤ value) (hhigh : value < 0x8000000000000000) :
    Plain (.integer value)
  | array {elements : List Document} (helements : ∀ element ∈ elements, Plain element) :
    Plain (.array elements)
  | object {entries : List (String × Document)} (hkeys : (entries.map Prod.fst).Nodup)
    (hentries : ∀ entry ∈ entries, Plain entry.2) : Plain (.object entries)

theorem plain_list {write : α → Document} {values : List α}
    (hwrite : ∀ value ∈ values, Plain (write value)) : Plain (.array (values.map write)) := by
  refine .array fun element helement ↦ ?_
  obtain ⟨value, hvalue, rfl⟩ := List.mem_map.mp helement
  exact hwrite value hvalue

/-- A written table has distinct keys, whichever fields are left out. -/
theorem plain_written {fields : List Field} (hkeys : (fields.map Field.key).Nodup)
    (hfields : ∀ field ∈ fields, field.omitted = false → Plain field.document) :
    Plain (.object (written fields)) := by
  refine .object (hkeys.sublist (keys_written_sublist fields)) fun entry hentry ↦ ?_
  obtain ⟨field, hfield, hpresent, rfl⟩ := mem_written.mp hentry
  exact hfields field hfield hpresent

/-- A library that writes documents as texts and reads texts keeps this document, if it is plain. -/
def Keeps {Text Error : Type*} (render : Document → Except Error Text)
    (parse : Text → Except Error Document) (document : Document) : Prop :=
  Plain document →
    ∃ text other, render document = .ok text ∧ parse text = .ok other ∧ Same document other

section Fields

variable {fields : List Field} {field : String → Option Document} {key : String}
  {document : Document} {omitted : Bool} {reader : Reader α} {value : α}

/-- The record of a document tells the fields that were written. -/
structure Records (field : String → Option Document) (fields : List Field) : Prop where
  nodup_keys : (fields.map Field.key).Nodup
  tells : Tells field (written fields)

/-- The same document of a written table is a record of its fields. -/
theorem slots_written {other : Document} (hsame : Same (.object (written fields)) other)
    (hkeys : (fields.map Field.key).Nodup) (keys : List String) :
    ∃ field, slots keys other = some field ∧ Records field fields := by
  obtain ⟨field, hslots, htells⟩ :=
    hsame.slots (hkeys.sublist (keys_written_sublist fields)) keys
  exact ⟨field, hslots, hkeys, htells⟩

namespace Records

variable (hrecords : Records field fields)

include hrecords

/-- A field that is written is there. -/
theorem exists_same (hentry : ⟨key, document, false⟩ ∈ fields) :
    ∃ other, field key = some other ∧ Same document other := by
  have hnodup := hrecords.nodup_keys.sublist (keys_written_sublist fields)
  refine (hrecords.tells key).2 document ((lookup_eq_some_iff hnodup).mpr ?_)
  exact mem_written.mpr ⟨_, hentry, rfl, rfl⟩

/-- A field that is left out is not there. -/
theorem eq_none (hentry : ⟨key, document, true⟩ ∈ fields) : field key = none := by
  refine (hrecords.tells key).1 (lookup_eq_none_iff.mpr fun hmem ↦ ?_)
  obtain ⟨_, hwritten, hkey⟩ := List.mem_map.mp hmem
  obtain ⟨other, hother, hpresent, rfl⟩ := mem_written.mp hwritten
  have heq : other = ⟨key, document, true⟩ :=
    List.inj_on_of_nodup_map hrecords.nodup_keys hother hentry hkey
  rw [heq] at hpresent
  cases hpresent

/-- A field that is always written is read back. -/
theorem required (i : ℕ) (hentry : fields[i]? = some ⟨key, document, false⟩)
    (hread : ReadsBack reader document value) :
    Document.required field key reader = some value := by
  obtain ⟨other, hother, hsame⟩ := hrecords.exists_same (List.mem_of_getElem? hentry)
  rw [Document.required, hother, Option.bind_some, hread other hsame]

/-- A field is read back when it is left out only where it has its default. -/
theorem defaulted (i : ℕ) (hentry : fields[i]? = some ⟨key, document, omitted⟩) {default : α}
    (hdefault : omitted = true → value = default)
    (hread : omitted = false → ReadsBack reader document value) :
    Document.defaulted field key default reader = some value := by
  have hmem := List.mem_of_getElem? hentry
  cases omitted with
  | true => rw [Document.defaulted, hrecords.eq_none hmem, Option.elim_none, hdefault rfl]
  | false =>
    obtain ⟨other, hother, hsame⟩ := hrecords.exists_same hmem
    rw [Document.defaulted, hother, Option.elim_some, hread rfl other hsame]

/-- A field that is always written is read back, whatever its default. -/
theorem present (i : ℕ) (hentry : fields[i]? = some ⟨key, document, false⟩) {default : α}
    (hread : ReadsBack reader document value) :
    Document.defaulted field key default reader = some value :=
  hrecords.defaulted i hentry (fun h ↦ absurd h Bool.false_ne_true) fun _ ↦ hread

/-- A field whose key is not among those of the record has its default. -/
theorem unwritten (hkey : key ∉ fields.map Field.key) (default : α) :
    Document.defaulted field key default reader = some default := by
  have hnone : (written fields).lookup key = none :=
    lookup_eq_none_iff.mpr fun hmem ↦ hkey ((keys_written_sublist fields).mem hmem)
  rw [Document.defaulted, (hrecords.tells key).1 hnone, Option.elim_none]

end Records

end Fields

/-! ### Documents of a format without nulls -/

/-- No null at any depth. -/
inductive NoNull : Document → Prop
  | bool (value : Bool) : NoNull (.bool value)
  | integer (value : ℤ) : NoNull (.integer value)
  | scalar (text : String) : NoNull (.scalar text)
  | string (text : String) : NoNull (.string text)
  | array {elements : List Document} (helements : ∀ element ∈ elements, NoNull element) :
    NoNull (.array elements)
  | object {entries : List (String × Document)} (hentries : ∀ entry ∈ entries, NoNull entry.2) :
    NoNull (.object entries)

theorem Plain.noNull {document : Document} (hplain : Plain document) : NoNull document := by
  induction hplain with
  | bool value => exact .bool value
  | string text => exact .string text
  | integer => exact .integer _
  | array _ ih => exact .array ih
  | object _ _ ih => exact .object ih

theorem mem_of_lookup {entries : List (String × Document)} {key : String} {document : Document}
    (hlookup : entries.lookup key = some document) : (key, document) ∈ entries := by
  induction entries with
  | nil => cases hlookup
  | cons entry rest ih =>
    rw [lookup_cons_eq key entry.1 entry.2 rest] at hlookup
    split_ifs at hlookup with hkey
    · obtain rfl := Option.some.inj hlookup
      exact hkey ▸ List.mem_cons_self
    · exact List.mem_cons_of_mem _ (ih hlookup)

/-- Nor is there one in a field of a record. -/
theorem NoNull.slots {keys : List String} {document content : Document}
    {field : String → Option Document} {key : String} (hdocument : NoNull document)
    (hslots : slots keys document = some field) (hfield : field key = some content) :
    NoNull content := by
  rcases shape_of_slots hslots with ⟨entries, rfl⟩ | ⟨elements, rfl⟩
  · rw [slots_object hslots] at hfield
    cases hdocument with
    | object hentries => exact hentries _ (mem_of_lookup hfield)
  · rw [slots_array hslots] at hfield
    cases hdocument with
    | array helements => exact helements _ (List.mem_of_getElem? hfield)

/-- An optional field with a value for its default always has one. -/
theorem NoNull.isSome_defaulted {keys : List String} {document : Document}
    {field : String → Option Document} {key : String} {reader : Reader α} {default value : Option α}
    (hdocument : NoNull document) (hslots : Document.slots keys document = some field)
    (hdefault : default.isSome = true)
    (hvalue : Document.defaulted field key default (readOption reader) = some value) :
    value.isSome = true := by
  rw [Document.defaulted] at hvalue
  cases hfield : field key with
  | none =>
    rw [hfield] at hvalue
    exact Option.some.inj hvalue ▸ hdefault
  | some content =>
    have hcontent := hdocument.slots hslots hfield
    rw [hfield, Option.elim_some] at hvalue
    have hread : readOption reader content = (reader content).map some := by
      cases hcontent <;> rfl
    rw [hread] at hvalue
    obtain ⟨inner, -, rfl⟩ := Option.map_eq_some_iff.mp hvalue
    rfl

end EntroTunnel.Foundation.Document
