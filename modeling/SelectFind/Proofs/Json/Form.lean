import SelectFind.Json.Form
import SelectFind.Proofs.Text.Numeral

/-!
# Which JSON values are read

An object has a field by the last entry of its name, whatever else it holds; it is its one field if
every entry has the name. A choice is its name, alone or as that of the one field of an object,
which is null. A word of 64 bits is a numeral that fits it. What
may be missing is null or, as a field, not there at all. Reading accepts exactly these.
-/

namespace SelectFind.Json

/-! ### Fields -/

/-- The last entry of the name holds the value. -/
def HasField (fields : List (String × Json)) (name : String) (j : Json) : Prop :=
  ∃ front back, fields = front ++ (name, j) :: back ∧ ∀ field ∈ back, field.1 ≠ name

/-- No entry has the name. -/
def LacksField (fields : List (String × Json)) (name : String) : Prop :=
  ∀ field ∈ fields, field.1 ≠ name

/-- The field is the one field: every entry has its name, and the last holds the value. -/
def HasSoleField (fields : List (String × Json)) (name : String) (j : Json) : Prop :=
  HasField fields name j ∧ ∀ field ∈ fields, field.1 = name

/-- A field is found if and only if the object has it. -/
theorem field?_eq_some_iff {fields : List (String × Json)} {name : String} {j : Json} :
    field? fields name = some j ↔ HasField fields name j := by
  rw [field?, List.lookup_eq_some_iff]
  constructor
  · rintro ⟨back, front, hsplit, hback⟩
    refine ⟨front.reverse, back.reverse, ?_, fun field hf ↦ ?_⟩
    · rw [← List.reverse_reverse fields, hsplit]
      simp
    · have := hback field (List.mem_reverse.mp hf)
      exact Ne.symm (by simpa using this)
  · rintro ⟨front, back, rfl, hback⟩
    refine ⟨back.reverse, front.reverse, by simp, fun field hf ↦ ?_⟩
    simpa using (hback field (List.mem_reverse.mp hf)).symm

/-- No field is found if and only if the object lacks it. -/
theorem field?_eq_none_iff {fields : List (String × Json)} {name : String} :
    field? fields name = none ↔ LacksField fields name := by
  rw [field?, List.lookup_eq_none_iff]
  constructor
  · intro h field hf
    have := h field (List.mem_reverse.mpr hf)
    exact Ne.symm (by simpa using this)
  · intro h field hf
    simpa using (h field (List.mem_reverse.mp hf)).symm

/-- A field is found as the one field if and only if it is. -/
theorem soleField?_eq_some_iff {fields : List (String × Json)} {name : String} {j : Json} :
    soleField? fields = some (name, j) ↔ HasSoleField fields name j := by
  constructor
  · intro h
    unfold soleField? at h
    split at h
    · next field hlast =>
      split at h
      · next hall =>
        cases h
        obtain ⟨front, rfl⟩ := List.getLast?_eq_some_iff.mp hlast
        exact ⟨⟨front, [], rfl, by simp⟩, fun field hf ↦
          eq_of_beq (List.all_eq_true.mp hall field hf)⟩
      · cases h
    · cases h
  · rintro ⟨⟨front, back, rfl, hback⟩, hall⟩
    -- An entry behind the last one of the name would have another name.
    cases back with
    | nil =>
      have hnames : (front ++ [(name, j)]).all (·.1 == name) = true :=
        List.all_eq_true.mpr fun field hf ↦ beq_iff_eq.mpr (hall field hf)
      rw [soleField?, List.getLast?_concat]
      exact if_pos hnames
    | cons field back =>
      exact absurd (hall field (by simp)) (hback field List.mem_cons_self)

/-- An object with one entry has it as its one field. -/
theorem hasSoleField_singleton (name : String) (j : Json) : HasSoleField [(name, j)] name j :=
  ⟨⟨[], [], rfl, by simp⟩, by simp⟩

/-! ### Choices, words and what may be missing -/

/-- The forms of a choice by its name. -/
inductive ChoiceForm : Json → String → Prop
  | name (name : String) : ChoiceForm (string name) name
  | key {fields : List (String × Json)} {name : String} (h : HasSoleField fields name null) :
      ChoiceForm (object fields) name

/-- The forms of a word of 64 bits. -/
inductive WordForm : Json → UInt64 → Prop
  | numeral {literal : String} {n : UInt64} (h : Text.Numeral literal.toList n.toNat) :
      WordForm (number literal) n

/-- The forms of nothing or a value. -/
inductive OptionalForm {α : Type} (Form : Json → α → Prop) : Json → Option α → Prop
  | null : OptionalForm Form null none
  | value {j : Json} {a : α} (h : Form j a) : OptionalForm Form j (some a)

/-- The forms of a field that may be missing or null. -/
inductive FieldForm {α : Type} (Form : Json → α → Prop) (fields : List (String × Json))
    (name : String) : Option α → Prop
  | missing (h : LacksField fields name) : FieldForm Form fields name none
  | given {j : Json} {o : Option α} (h : HasField fields name j) (ho : OptionalForm Form j o) :
      FieldForm Form fields name o

/-- A choice is read from its forms only. -/
theorem choice?_eq_some_iff {j : Json} {name : String} :
    choice? j = some name ↔ ChoiceForm j name := by
  constructor
  · intro h
    unfold choice? at h
    split at h
    · cases h
      exact .name _
    · split at h
      · next hsole =>
        cases h
        exact .key (soleField?_eq_some_iff.mp hsole)
      · cases h
    · cases h
  · rintro (_ | h)
    · rfl
    · rw [choice?, soleField?_eq_some_iff.mpr h]

/-- The choice among values by their names, which are all different. -/
theorem find?_choice_eq_some_iff {α : Type} {all : List α} {name : α → String}
    (hall : ∀ a, all.find? (fun b ↦ name b == name a) = some a) {j : Json} {a : α} :
    (choice? j).bind (fun choice ↦ all.find? fun b ↦ name b == choice) = some a ↔
      ChoiceForm j (name a) := by
  simp only [Option.bind_eq_some_iff, choice?_eq_some_iff]
  constructor
  · rintro ⟨choice, hj, ha⟩
    have hname : name a = choice := by simpa using List.find?_some ha
    rwa [hname]
  · intro hj
    exact ⟨name a, hj, hall a⟩

/-- A word of 64 bits is read from the numerals that fit it only. -/
theorem word?_eq_some_iff (j : Json) (n : UInt64) : word? j = some n ↔ WordForm j n := by
  constructor
  · intro h
    unfold word? at h
    split at h
    · split at h
      · next literal m hm =>
        split at h
        · next hlt =>
          cases h
          refine .numeral ?_
          rw [UInt64.toNat_ofNat_of_lt' hlt]
          exact (Text.digits?_eq_some_iff _ m).mp hm
        · cases h
      · cases h
    · cases h
  · rintro ⟨h⟩
    simp [word?, (Text.digits?_eq_some_iff _ _).mpr h, n.toNat_lt]

section Optional

variable {α : Type} {read? : Json → Option α} {Form : Json → α → Prop}

/-- Nothing is read from null, and a value from its forms, of which null is none. -/
theorem optional?_eq_some_iff (hread : ∀ j a, read? j = some a ↔ Form j a)
    (hnull : read? null = none) {j : Json} {o : Option α} :
    optional? read? j = some o ↔ OptionalForm Form j o := by
  constructor
  · intro h
    unfold optional? at h
    split at h
    · cases h
      exact .null
    · obtain ⟨a, ha, rfl⟩ := Option.map_eq_some_iff.mp h
      exact .value ((hread _ a).mp ha)
  · rintro (_ | h)
    · rfl
    · have ha := (hread _ _).mpr h
      cases j with
      | null =>
        rw [hnull] at ha
        cases ha
      | _ => simp [optional?, ha]

/-- A field that may be missing or null is read from its forms only. -/
theorem optionalField?_eq_some_iff (hread : ∀ j a, read? j = some a ↔ Form j a)
    (hnull : read? null = none) {fields : List (String × Json)} {name : String} {o : Option α} :
    optionalField? read? fields name = some o ↔ FieldForm Form fields name o := by
  constructor
  · intro h
    unfold optionalField? at h
    split at h
    · next hf =>
      cases h
      exact .missing (field?_eq_none_iff.mp hf)
    · next hf =>
      exact .given (field?_eq_some_iff.mp hf) ((optional?_eq_some_iff hread hnull).mp h)
  · rintro (h | ⟨h, ho⟩)
    · rw [optionalField?, field?_eq_none_iff.mpr h]
    · rw [optionalField?, field?_eq_some_iff.mpr h]
      exact (optional?_eq_some_iff hread hnull).mpr ho

/-- Nothing or a value is written in one of its forms. -/
theorem optionalForm_ofOption {write : α → Json} (hwrite : ∀ a, Form (write a) a) (o : Option α) :
    OptionalForm Form (ofOption write o) o := by
  cases o with
  | none => exact .null
  | some a => exact .value (hwrite a)

end Optional

/-- A word of 64 bits is written in one of its forms. -/
theorem wordForm_ofWord (n : UInt64) : WordForm (ofWord n) n :=
  .numeral (Text.numeral_decimal n.toNat)

end SelectFind.Json
