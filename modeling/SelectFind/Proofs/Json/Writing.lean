import SelectFind.Json.Form
import SelectFind.Json.Printer
import SelectFind.Proofs.Json.Text
import SelectFind.Proofs.Text.Numeral
import Mathlib.Data.List.TakeWhile
import Mathlib.Tactic.SplitIfs

/-!
# Every layout is a JSON text

The pretty layout of a value spells the tokens of the value, with line breaks and blanks between
them. A string is written with the escapes that it needs and no others, so every string has a text.
A number is written as it is kept; only this asks something of the value, that what it keeps as a
number is one.
-/

namespace SelectFind.Json

/-- Every number in the value is a number as JSON writes it. -/
inductive WellNumbered : Json → Prop
  | null : WellNumbered null
  | bool (b : Bool) : WellNumbered (bool b)
  | number {literal : String} (h : isNumber literal.toList = true) : WellNumbered (number literal)
  | string (s : String) : WellNumbered (string s)
  | array {items : List Json} (h : ∀ item ∈ items, WellNumbered item) : WellNumbered (array items)
  | object {fields : List (String × Json)} (h : ∀ field ∈ fields, WellNumbered field.2) :
      WellNumbered (object fields)

/-! ### Strings -/

private theorem hexDigit?_digitChar : ∀ d < 16, hexDigit? (Nat.digitChar d) = some d := by
  decide

private theorem hex4_of_lt (n : Nat) (h : n < 0x100) :
    hex4 n = ['0', '0', Nat.digitChar (n / 16), Nat.digitChar (n % 16)] := by
  rcases Nat.lt_or_ge n 16 with hn | hn
  · have hdiv : n / 16 = 0 := by omega
    have hmod : n % 16 = n := by omega
    rw [hex4, Nat.toDigits_of_lt_base hn, hdiv, hmod]
    rfl
  · have hdiv : n / 16 < 16 := by omega
    rw [hex4, Nat.toDigits_of_base_le (by decide) hn, Nat.toDigits_of_lt_base hdiv]
    rfl

private theorem unit?_hex4 (n : Nat) (h : n < 0x100) :
    unit? '0' '0' (Nat.digitChar (n / 16)) (Nat.digitChar (n % 16)) = some n := by
  have hzero : hexDigit? '0' = some 0 := by decide
  have hdiv := hexDigit?_digitChar (n / 16) (by omega)
  have hmod := hexDigit?_digitChar (n % 16) (by omega)
  simp only [unit?, hzero, hdiv, hmod, Option.pure_def, Option.bind_eq_bind, Option.bind_some,
    Option.some.injEq]
  omega

private theorem unescape?_of_shortEscape? {c e : Char} (h : shortEscape? c = some e) :
    unescape? e = some c := by
  unfold shortEscape? at h
  split_ifs at h <;> cases h <;> subst_vars <;> decide

private theorem StringText.escaped_append {cs text : List Char} (c : Char)
    (h : StringText cs text) : StringText (escaped c ++ cs) (c :: text) := by
  unfold escaped
  split
  · next e he => exact .short (unescape?_of_shortEscape? he) h
  · next hnone =>
    split
    · next hlow =>
      rw [hex4_of_lt c.toNat (by omega)]
      refine .unit (unit?_hex4 c.toNat (by omega)) ?_ h
      rw [scalar?, if_pos (by omega), Char.ofNat_toNat]
    · next hhigh =>
      refine .plain (by omega) ?_ ?_ h <;> rintro rfl <;> exact absurd hnone (by decide)

private theorem stringText_escaped (cs : List Char) : StringText (cs.flatMap escaped) cs := by
  induction cs with
  | nil => exact .nil
  | cons c cs ih => exact ih.escaped_append c

private theorem spelledBy_quoted (s : String) :
    Token.SpelledBy (.literal (string s)) (quoted escaped s) :=
  .string (stringText_escaped s.toList)

/-! ### Numbers -/

private theorem isNumber_decimal (n : Nat) : isNumber (Text.decimal n).toList = true := by
  have hnumeral := Text.numeral_decimal n
  have htake := List.takeWhile_eq_self_iff.mpr hnumeral.isDigit
  have hdrop := List.dropWhile_eq_nil_iff.mpr hnumeral.isDigit
  have hsign : (Text.decimal n).toList.head? ≠ some '-' := by
    intro hhead
    exact absurd (hnumeral.isDigit '-' (List.mem_of_head? hhead)) (by decide)
  have hwhole : areWhole (Text.decimal n).toList = true := by
    have hdigits : areDigits (Text.decimal n).toList = true := by
      simpa [areDigits, hnumeral.ne_nil] using hnumeral.isDigit
    rcases Nat.eq_zero_or_pos n with rfl | hn
    · decide
    · simp [areWhole, hdigits, Text.head?_decimal n hn]
  simp only [isNumber, if_neg hsign, htake, hdrop, hwhole]
  rfl

/-- A natural number is well-numbered. -/
theorem wellNumbered_natural (n : Nat) : WellNumbered (natural n) := .number (isNumber_decimal n)

/-- Nothing or a value is well-numbered if the value is. -/
theorem wellNumbered_ofOption {α : Type} (write : α → Json) (o : Option α)
    (h : ∀ a, WellNumbered (write a)) : WellNumbered (ofOption write o) := by
  cases o with
  | none => exact .null
  | some a => exact h a

/-! ### The pretty layout -/

private theorem Spelled.newLine {ts : List Token} {cs : List Char} (depth : Nat)
    (h : Spelled ts cs) : Spelled ts (newLine depth ++ cs) := by
  refine .space (by decide) (h.spaces _ fun c hc ↦ ?_)
  rw [List.eq_of_mem_replicate hc]
  decide

private theorem spelled_field (name : String) {ts : List Token} {cs : List Char}
    (h : Spelled ts cs) :
    Spelled (.literal (string name) :: .colon :: ts)
      (quoted escaped name ++ (": ".toList ++ cs)) := by
  have hcolon : Spelled (.colon :: ts) ([':'] ++ ' ' :: cs) := .token .colon (.space (by decide) h)
  exact .token (spelledBy_quoted name) hcolon

private theorem spelled_prettyItems (depth : Nat) (items : List Json)
    (h : ∀ item ∈ items, Spelled (tokens item) (prettyChars depth item)) :
    Spelled (itemTokens items) (prettyItems depth items) := by
  induction items with
  | nil => exact .nil
  | cons item items ih =>
    obtain ⟨hitem, hitems⟩ := List.forall_mem_cons.mp h
    simp only [itemTokens, prettyItems, List.cons_append, List.append_assoc]
    exact .token .comma ((hitem.append (ih hitems)).newLine depth)

private theorem spelled_prettyFields (depth : Nat) (fields : List (String × Json))
    (h : ∀ field ∈ fields, Spelled (tokens field.2) (prettyChars depth field.2)) :
    Spelled (fieldTokens fields) (prettyFields depth fields) := by
  induction fields with
  | nil => exact .nil
  | cons field fields ih =>
    obtain ⟨name, value⟩ := field
    obtain ⟨hvalue, hfields⟩ := List.forall_mem_cons.mp h
    simp only [fieldTokens, prettyFields, List.cons_append, List.append_assoc]
    exact .token .comma ((spelled_field name (hvalue.append (ih hfields))).newLine depth)

private theorem spelled_prettyChars {j : Json} (h : WellNumbered j) (depth : Nat) :
    Spelled (tokens j) (prettyChars depth j) := by
  induction h generalizing depth with
  | null => exact .token .nullWord .nil
  | bool b =>
    cases b with
    | true => exact .token .trueWord .nil
    | false => exact .token .falseWord .nil
  | @number literal h =>
    rw [tokens, prettyChars, ← List.append_nil literal.toList]
    exact .token (.number h) .nil
  | string s =>
    rw [tokens, prettyChars, ← List.append_nil (quoted escaped s)]
    exact .token (spelledBy_quoted s) .nil
  | @array items _ ih =>
    cases items with
    | nil => exact .token .openArray (.token .closeArray .nil)
    | cons item items =>
      obtain ⟨hitem, hitems⟩ := List.forall_mem_cons.mp ih
      have hrest := spelled_prettyItems (depth + 1) items fun item hi ↦ hitems item hi (depth + 1)
      have hclose : Spelled [.closeArray] [']'] := .token .closeArray .nil
      simp only [tokens, prettyChars, List.cons_append, List.append_assoc]
      exact .token .openArray
        (((hitem (depth + 1)).append (hrest.append (hclose.newLine depth))).newLine (depth + 1))
  | @object fields _ ih =>
    cases fields with
    | nil => exact .token .openObject (.token .closeObject .nil)
    | cons field fields =>
      obtain ⟨name, value⟩ := field
      obtain ⟨hvalue, hfields⟩ := List.forall_mem_cons.mp ih
      have hrest := spelled_prettyFields (depth + 1) fields fun f hf ↦ hfields f hf (depth + 1)
      have hclose : Spelled [.closeObject] ['}'] := .token .closeObject .nil
      have hvalues := (hvalue (depth + 1)).append (hrest.append (hclose.newLine depth))
      simp only [tokens, prettyChars, List.cons_append, List.append_assoc]
      exact .token .openObject ((spelled_field name hvalues).newLine (depth + 1))

/-- The pretty layout of a value is a text of the value. -/
theorem isText_pretty {j : Json} (h : WellNumbered j) : IsText j (pretty j).toList := by
  rw [pretty, String.toList_ofList]
  exact spelled_prettyChars h 0

end SelectFind.Json
