import Mathlib.Data.Int.Notation
import Mathlib.Data.List.Forall2

/-!
# Documents of a self-describing format

A `Document` is what a text in a format such as JSON or TOML stands for. A `Reader` takes a value of
some type from it, or refuses. The readers here behave as derived deserializers do: a record is an
object, in which a known key occurs at most once and other keys are ignored, or an array of its
fields in order, from which fields may be missing at the end; an enumeration without data is the
name of a variant, or an object with that name and no content.

`readList_eq_some` is the rule for lists, and `slots_array` and `slots_object` the two ways to read
a record.
-/

set_option autoImplicit false
set_option relaxedAutoImplicit false

namespace EntroTunnel.Foundation

inductive Document
  | null
  | bool (value : Bool)
  | integer (value : ℤ)
  /-- A scalar of any other kind, as it is written. -/
  | scalar (text : String)
  | string (text : String)
  | array (elements : List Document)
  /-- Keys may repeat. -/
  | object (entries : List (String × Document))
  deriving Inhabited, Repr

/-- Takes a value from a document; `none` when the document has another shape. -/
abbrev Reader (α : Type*) := Document → Option α

namespace Document

variable {α β : Type*}

/-! ### Scalars, lists and variants -/

def readString : Reader String
  | .string text => some text
  | _ => none

def readBool : Reader Bool
  | .bool value => some value
  | _ => none

/-- A natural number below a bound. -/
def readNat (bound : ℕ) : Reader ℕ
  | .integer (.ofNat value) => if value < bound then some value else none
  | _ => none

/-- An optional value: `null` is no value. -/
def readOption (reader : Reader α) : Reader (Option α)
  | .null => some none
  | document => (reader document).map some

def readList (reader : Reader α) : Reader (List α)
  | .array elements => elements.mapM reader
  | _ => none

/-- A variant of an enumeration, by its name. -/
def readVariant (variants : List (String × α)) : Reader α
  | .string name => variants.lookup name
  | .object [(name, .null)] => variants.lookup name
  | _ => none

/-- What is read from a list is read from its elements one by one. -/
theorem mapM_eq_some {γ : Type*} {read : γ → Option α} {elements : List γ} {values : List α} :
    elements.mapM read = some values ↔
      List.Forall₂ (fun element value ↦ read element = some value) elements values := by
  induction elements generalizing values with
  | nil =>
    rw [List.mapM_nil, List.forall₂_nil_left_iff]
    exact ⟨fun h ↦ (Option.some.inj h).symm, fun h ↦ congrArg some h.symm⟩
  | cons element rest ih =>
    rw [List.mapM_cons, List.forall₂_cons_left_iff]
    constructor
    · intro hread
      obtain ⟨value, hvalue, hread⟩ := Option.bind_eq_some_iff.mp hread
      obtain ⟨others, hothers, hread⟩ := Option.bind_eq_some_iff.mp hread
      exact ⟨value, others, hvalue, ih.mp hothers, (Option.some.inj hread).symm⟩
    · rintro ⟨value, others, hvalue, hothers, rfl⟩
      exact Option.bind_eq_some_iff.mpr ⟨value, hvalue,
        Option.bind_eq_some_iff.mpr ⟨others, ih.mpr hothers, rfl⟩⟩

theorem readList_eq_some {reader : Reader α} {document : Document} {values : List α} :
    readList reader document = some values ↔ ∃ elements, document = .array elements ∧
      List.Forall₂ (fun element value ↦ reader element = some value) elements values := by
  cases document with
  | array elements => simp [readList, mapM_eq_some]
  | _ => simp [readList]

/-- What is read element by element is read from every element. -/
theorem exists_mem_of_forall₂ {relation : α → β → Prop} {first : List α} {second : List β}
    (hrelated : List.Forall₂ relation first second) {item : α} (hitem : item ∈ first) :
    ∃ other ∈ second, relation item other := by
  induction hrelated with
  | nil => exact absurd hitem List.not_mem_nil
  | cons hhead _ ih =>
    rcases List.mem_cons.mp hitem with rfl | hitem
    · exact ⟨_, List.mem_cons_self, hhead⟩
    · obtain ⟨other, hother, hrelated⟩ := ih hitem
      exact ⟨other, List.mem_cons_of_mem _ hother, hrelated⟩

/-- A list that was written element by element is read back. -/
theorem readList_map {reader : Reader α} {write : α → Document}
    (hwrite : ∀ value, reader (write value) = some value) (values : List α) :
    readList reader (.array (values.map write)) = some values := by
  refine readList_eq_some.mpr ⟨_, rfl, List.forall₂_map_left_iff.mpr ?_⟩
  exact List.forall₂_same.mpr fun value _ ↦ hwrite value

/-! ### Records -/

/-- The fields of a record with the given keys. -/
def slots (keys : List String) : Reader (String → Option Document)
  | .object entries =>
    if keys.all fun key ↦ (entries.filter fun entry ↦ entry.1 = key).length ≤ 1 then
      some fun key ↦ entries.lookup key
    else none
  | .array elements =>
    if elements.length ≤ keys.length then some fun key ↦ elements[keys.idxOf key]? else none
  | _ => none

/-- A field that must be there. -/
def required (field : String → Option Document) (key : String) (reader : Reader α) : Option α :=
  (field key).bind reader

/-- A field with a default. -/
def defaulted (field : String → Option Document) (key : String) (default : α)
    (reader : Reader α) : Option α :=
  (field key).elim (some default) reader

/-- A field of a record to write, left out when it has its default. -/
def entryUnless (omitted : Bool) (key : String) (document : Document) : List (String × Document) :=
  if omitted then [] else [(key, document)]

theorem slots_object {keys : List String} {entries : List (String × Document)}
    {field : String → Option Document} (hslots : slots keys (.object entries) = some field) :
    field = fun key ↦ entries.lookup key := by
  simp only [slots] at hslots
  split_ifs at hslots
  exact (Option.some.inj hslots).symm

/-- A key is looked up by comparing it with the first key. -/
theorem lookup_cons_eq (key first : String) (document : Document)
    (rest : List (String × Document)) :
    ((first, document) :: rest).lookup key =
      if key = first then some document else rest.lookup key := by
  rw [List.lookup_cons]
  by_cases hkey : key = first
  · rw [beq_iff_eq.mpr hkey, if_pos hkey]
  · rw [beq_eq_false_iff_ne.mpr hkey, if_neg hkey]

/-- An object without repeated keys is a record. -/
theorem slots_of_nodup {entries : List (String × Document)}
    (hnodup : (entries.map Prod.fst).Nodup) (keys : List String) :
    slots keys (.object entries) = some fun key ↦ entries.lookup key := by
  refine if_pos (List.all_eq_true.mpr fun key _ ↦ decide_eq_true ?_)
  have hcount := List.nodup_iff_count.mp hnodup key
  rw [List.count, List.countP_map, List.countP_eq_length_filter] at hcount
  exact hcount

theorem slots_array {keys : List String} {elements : List Document}
    {field : String → Option Document} (hslots : slots keys (.array elements) = some field) :
    field = fun key ↦ elements[keys.idxOf key]? := by
  simp only [slots] at hslots
  split_ifs at hslots
  exact (Option.some.inj hslots).symm

/-- Only an object or an array is a record. -/
theorem shape_of_slots {keys : List String} {document : Document}
    {field : String → Option Document} (hslots : slots keys document = some field) :
    (∃ entries, document = .object entries) ∨ ∃ elements, document = .array elements := by
  cases document with
  | object entries => exact Or.inl ⟨entries, rfl⟩
  | array elements => exact Or.inr ⟨elements, rfl⟩
  | _ => simp [slots] at hslots

end Document

end EntroTunnel.Foundation
