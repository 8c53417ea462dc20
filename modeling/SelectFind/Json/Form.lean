import SelectFind.Json.Basic
import SelectFind.Text.Decimal

/-!
# Forms shared by the JSON of every type

A choice among names is written as the name; an object whose one field has that name and is null is
read as well. A word of 64 bits is read only from a whole number. What may be missing is null.
-/

namespace SelectFind.Json

/-- The name of a choice. -/
def choice? : Json → Option String
  | string name => some name
  | object fields =>
    match soleField? fields with
    | some (name, null) => some name
    | _ => none
  | _ => none

/-- A word of 64 bits, from a number without sign, fraction and exponent. -/
def word? : Json → Option UInt64
  | number literal =>
    match Text.digits? literal.toList with
    | some n => if n < UInt64.size then some (UInt64.ofNat n) else none
    | none => none
  | _ => none

/-- A whole number. -/
def natural (n : Nat) : Json := number (Text.decimal n)

/-- A word of 64 bits as a number. -/
def ofWord (n : UInt64) : Json := natural n.toNat

/-- Null stands for nothing. -/
def optional? {α : Type} (read? : Json → Option α) : Json → Option (Option α)
  | null => some none
  | j => (read? j).map some

/-- Null stands for nothing. -/
def ofOption {α : Type} (write : α → Json) : Option α → Json
  | none => null
  | some a => write a

/-- A field that may be missing or null. -/
def optionalField? {α : Type} (read? : Json → Option α) (fields : List (String × Json))
    (name : String) : Option (Option α) :=
  match field? fields name with
  | none => some none
  | some j => optional? read? j

/-- The value of a field is a part of the fields. -/
theorem sizeOf_of_field? {fields : List (String × Json)} {name : String} {j : Json}
    (h : field? fields name = some j) : sizeOf j < sizeOf fields := by
  have hmem : (name, j) ∈ fields := by
    rw [← List.mem_reverse]
    unfold field? at h
    generalize fields.reverse = entries at h
    induction entries with
    | nil => cases h
    | cons entry entries ih =>
      rw [List.lookup_cons] at h
      split at h
      · next hname =>
        cases h
        rw [eq_of_beq hname]
        exact List.mem_cons_self
      · exact List.mem_cons_of_mem _ (ih h)
  have := List.sizeOf_lt_of_mem hmem
  simp only [Prod.mk.sizeOf_spec] at this
  omega

/-- The value of the one field is a part of the fields. -/
theorem sizeOf_of_soleField? {fields : List (String × Json)} {name : String} {j : Json}
    (h : soleField? fields = some (name, j)) : sizeOf j < sizeOf fields := by
  unfold soleField? at h
  split at h
  · next field hlast =>
    split at h
    · cases h
      have := List.sizeOf_lt_of_mem (List.mem_of_getLast? hlast)
      simp only [Prod.mk.sizeOf_spec] at this
      omega
    · cases h
  · cases h

end SelectFind.Json
