import SelectFind.Proofs.Json.Form
import SelectFind.Proofs.Json.Reading
import SelectFind.Proofs.Json.Writing
import SelectFind.Statement.Json
import Mathlib.Data.List.Forall2

/-!
# The JSON of a statement keeps the statement

A statement has many forms in JSON: objects with further fields or with parts left out, arrays of
its parts, choices with a null behind them. Reading accepts exactly the forms, and each is a form of
one statement. Writing picks one of them and lays it out as a JSON text, so that reading the text
gives the statement back.
-/

namespace SelectFind

open Json (HasField HasSoleField ChoiceForm WordForm OptionalForm FieldForm WellNumbered)

/-! ### Forms -/

/-- The forms of a name. -/
inductive Identifier.Form : Json → Identifier → Prop
  | object {fields : List (String × Json)} {name : String} {quoted : Bool}
      (hname : HasField fields "name" (.string name))
      (hquoted : HasField fields "quoted" (.bool quoted)) : Form (.object fields) ⟨name, quoted⟩
  | array (name : String) (quoted : Bool) :
      Form (.array [.string name, .bool quoted]) ⟨name, quoted⟩

/-- The forms of columns. -/
inductive Columns.Form : Json → Columns → Prop
  | array {items : List Json} {columns : Columns}
      (h : List.Forall₂ Identifier.Form items columns.toList) : Form (.array items) columns

/-- The forms of a condition. -/
inductive Condition.Form : Json → Condition → Prop
  | logical {fields parts : List (String × Json)} {l o r : Json} {left right : Condition}
      {op : Logical} (h : HasSoleField fields "Logical" (.object parts))
      (hl : HasField parts "left" l) (ho : HasField parts "op" o) (hr : HasField parts "right" r)
      (hleft : Form l left) (hop : ChoiceForm o op.name) (hright : Form r right) :
      Form (.object fields) (.logical left op right)
  | negation {fields : List (String × Json)} {j : Json} {inner : Condition}
      (h : HasSoleField fields "Not" j) (hj : Form j inner) :
      Form (.object fields) (.negation inner)
  | comparison {fields parts : List (String × Json)} {l o r : Json} {left right : Identifier}
      {op : Comparison} (h : HasSoleField fields "Comparison" (.object parts))
      (hl : HasField parts "left" l) (ho : HasField parts "op" o) (hr : HasField parts "right" r)
      (hleft : left.Form l) (hop : ChoiceForm o op.name) (hright : right.Form r) :
      Form (.object fields) (.comparison left op right)

/-- The forms of a statement. -/
inductive Statement.Form : Json → Statement → Prop
  | object {fields : List (String × Json)} {t : Json} {statement : Statement}
      (ht : HasField fields "table" t) (table : Identifier.Form t statement.table)
      (columns : FieldForm Columns.Form fields "columns" statement.columns)
      (condition : FieldForm Condition.Form fields "condition" statement.condition)
      (offset : FieldForm WordForm fields "offset" statement.offset)
      (limit : FieldForm WordForm fields "limit" statement.limit) :
      Form (.object fields) statement
  | array {t c d o l : Json} {statement : Statement}
      (table : Identifier.Form t statement.table)
      (columns : OptionalForm Columns.Form c statement.columns)
      (condition : OptionalForm Condition.Form d statement.condition)
      (offset : OptionalForm WordForm o statement.offset)
      (limit : OptionalForm WordForm l statement.limit) :
      Form (.array [t, c, d, o, l]) statement

/-! ### Reading -/

private theorem text?_eq_some_iff {j : Json} {s : String} : j.text? = some s ↔ j = .string s := by
  cases j <;> simp [Json.text?]

private theorem truth?_eq_some_iff {j : Json} {b : Bool} : j.truth? = some b ↔ j = .bool b := by
  cases j <;> simp [Json.truth?]

private theorem items?_eq_some_iff {j : Json} {items : List Json} :
    j.items? = some items ↔ j = .array items := by
  cases j <;> simp [Json.items?]

/-- A name is read from its forms only. -/
theorem Identifier.ofJson?_eq_some_iff (j : Json) (identifier : Identifier) :
    ofJson? j = some identifier ↔ Form j identifier := by
  constructor
  · intro h
    unfold ofJson? at h
    split at h
    · simp only [Option.bind_eq_bind, Option.pure_def, Option.bind_eq_some_iff,
        Option.some.injEq, text?_eq_some_iff, truth?_eq_some_iff] at h
      obtain ⟨_, hname, name, rfl, _, hquoted, quoted, rfl, rfl⟩ := h
      exact .object (Json.field?_eq_some_iff.mp hname) (Json.field?_eq_some_iff.mp hquoted)
    · simp only [Option.bind_eq_bind, Option.pure_def, Option.bind_eq_some_iff,
        Option.some.injEq, text?_eq_some_iff, truth?_eq_some_iff] at h
      obtain ⟨name, rfl, quoted, rfl, rfl⟩ := h
      exact .array name quoted
    · cases h
  · rintro (⟨hname, hquoted⟩ | _)
    · simp [ofJson?, Json.field?_eq_some_iff.mpr hname, Json.field?_eq_some_iff.mpr hquoted,
        Json.text?, Json.truth?]
    · rfl

private theorem mapM_eq_some_iff {α β : Type} {f : α → Option β} {R : α → β → Prop}
    (hf : ∀ a b, f a = some b ↔ R a b) (as : List α) (bs : List β) :
    as.mapM f = some bs ↔ List.Forall₂ R as bs := by
  induction as generalizing bs with
  | nil => simp [eq_comm]
  | cons a as ih =>
    simp only [List.mapM_cons, Option.bind_eq_bind, Option.pure_def, Option.bind_eq_some_iff,
      Option.some.injEq, hf, ih, List.forall₂_cons_left_iff]
    constructor
    · rintro ⟨b, hb, bs, hbs, rfl⟩
      exact ⟨b, bs, hb, hbs, rfl⟩
    · rintro ⟨b, bs, hb, hbs, rfl⟩
      exact ⟨b, hb, bs, hbs, rfl⟩

/-- Columns are read from their forms only. -/
theorem Columns.ofJson?_eq_some_iff (j : Json) (columns : Columns) :
    ofJson? j = some columns ↔ Form j columns := by
  simp only [ofJson?, Option.bind_eq_bind, Option.bind_eq_some_iff, items?_eq_some_iff,
    ofList?_eq_some_iff, mapM_eq_some_iff Identifier.ofJson?_eq_some_iff]
  constructor
  · rintro ⟨items, rfl, _, h, rfl⟩
    exact .array h
  · rintro ⟨h⟩
    exact ⟨_, rfl, _, h, rfl⟩

private theorem Comparison.find?_name (op : Comparison) :
    all.find? (fun other ↦ other.name == op.name) = some op := by
  cases op <;> decide

private theorem Logical.find?_name (op : Logical) :
    all.find? (fun other ↦ other.name == op.name) = some op := by
  cases op <;> decide

/-- A comparison is read from the forms of its name only. -/
theorem Comparison.ofJson?_eq_some_iff (j : Json) (op : Comparison) :
    ofJson? j = some op ↔ ChoiceForm j op.name :=
  Json.find?_choice_eq_some_iff find?_name

/-- A logical operator is read from the forms of its name only. -/
theorem Logical.ofJson?_eq_some_iff (j : Json) (op : Logical) :
    ofJson? j = some op ↔ ChoiceForm j op.name :=
  Json.find?_choice_eq_some_iff find?_name

private theorem Condition.form_of_ofJson? (j : Json) (condition : Condition)
    (h : ofJson? j = some condition) : Form j condition := by
  fun_induction ofJson? j generalizing condition with
  | case1 fields parts hs l r hl hr ihl ihr =>
    simp only [Option.bind_eq_bind, Option.pure_def, Option.bind_eq_some_iff, Option.some.injEq,
      Logical.ofJson?_eq_some_iff] at h
    obtain ⟨left, hleft, o, ho, op, hop, right, hright, rfl⟩ := h
    exact .logical (Json.soleField?_eq_some_iff.mp hs) (Json.field?_eq_some_iff.mp hl)
      (Json.field?_eq_some_iff.mp ho) (Json.field?_eq_some_iff.mp hr) (ihl left hleft) hop
      (ihr right hright)
  | case2 => cases h
  | case3 fields inner hs ih =>
    obtain ⟨condition, hc, rfl⟩ := Option.map_eq_some_iff.mp h
    exact .negation (Json.soleField?_eq_some_iff.mp hs) (ih condition hc)
  | case4 fields parts hs =>
    simp only [Option.bind_eq_bind, Option.pure_def, Option.bind_eq_some_iff, Option.some.injEq,
      Identifier.ofJson?_eq_some_iff, Comparison.ofJson?_eq_some_iff] at h
    obtain ⟨l, hl, left, hleft, o, ho, op, hop, r, hr, right, hright, rfl⟩ := h
    exact .comparison (Json.soleField?_eq_some_iff.mp hs) (Json.field?_eq_some_iff.mp hl)
      (Json.field?_eq_some_iff.mp ho) (Json.field?_eq_some_iff.mp hr) hleft hop hright
  | case5 => cases h
  | case6 => cases h

private theorem Condition.ofJson?_of_form {j : Json} {condition : Condition}
    (h : Form j condition) : ofJson? j = some condition := by
  -- In each case the name of the one field leaves one branch.
  induction h with
  | logical hs hl ho hr _ hop _ ihl ihr =>
    have hs := Json.soleField?_eq_some_iff.mpr hs
    have hl := Json.field?_eq_some_iff.mpr hl
    have ho := Json.field?_eq_some_iff.mpr ho
    have hr := Json.field?_eq_some_iff.mpr hr
    have hop := (Logical.ofJson?_eq_some_iff _ _).mpr hop
    rw [ofJson?]
    split
    case h_1 hs' =>
      cases hs.symm.trans hs'
      split
      · next hl' hr' =>
        cases hl.symm.trans hl'
        cases hr.symm.trans hr'
        simp [ihl, ihr, ho, hop]
      · next hnone => exact absurd hr (hnone _ _ hl)
    all_goals simp_all
  | negation hs _ ih =>
    have hs := Json.soleField?_eq_some_iff.mpr hs
    rw [ofJson?]
    split
    case h_2 hs' =>
      cases hs.symm.trans hs'
      rw [ih]
      rfl
    all_goals simp_all
  | comparison hs hl ho hr hleft hop hright =>
    have hs := Json.soleField?_eq_some_iff.mpr hs
    have hleft := (Identifier.ofJson?_eq_some_iff _ _).mpr hleft
    have hop := (Comparison.ofJson?_eq_some_iff _ _).mpr hop
    have hright := (Identifier.ofJson?_eq_some_iff _ _).mpr hright
    rw [ofJson?]
    split
    case h_3 hs' =>
      cases hs.symm.trans hs'
      rw [Json.field?_eq_some_iff.mpr hl, Json.field?_eq_some_iff.mpr ho,
        Json.field?_eq_some_iff.mpr hr]
      simp [hleft, hop, hright]
    all_goals simp_all

/-- A condition is read from its forms only. -/
theorem Condition.ofJson?_eq_some_iff (j : Json) (condition : Condition) :
    ofJson? j = some condition ↔ Form j condition :=
  ⟨form_of_ofJson? j condition, ofJson?_of_form⟩

/-- A statement is read from its forms only. -/
theorem Statement.ofJson?_eq_some_iff (j : Json) (statement : Statement) :
    ofJson? j = some statement ↔ Form j statement := by
  have hnull : Condition.ofJson? .null = none := by simp [Condition.ofJson?]
  unfold ofJson?
  split
  · next fields =>
    simp only [Option.bind_eq_bind, Option.pure_def, Option.bind_eq_some_iff, Option.some.injEq,
      Json.field?_eq_some_iff, Identifier.ofJson?_eq_some_iff,
      Json.optionalField?_eq_some_iff Columns.ofJson?_eq_some_iff rfl,
      Json.optionalField?_eq_some_iff Condition.ofJson?_eq_some_iff hnull,
      Json.optionalField?_eq_some_iff Json.word?_eq_some_iff rfl]
    constructor
    · rintro ⟨t, ht, table, htable, columns, hcolumns, condition, hcondition, offset, hoffset,
        limit, hlimit, rfl⟩
      exact .object ht htable hcolumns hcondition hoffset hlimit
    · rintro (⟨ht, htable, hcolumns, hcondition, hoffset, hlimit⟩ | _)
      exact ⟨_, ht, _, htable, _, hcolumns, _, hcondition, _, hoffset, _, hlimit, rfl⟩
  · simp only [Option.bind_eq_bind, Option.pure_def, Option.bind_eq_some_iff, Option.some.injEq,
      Identifier.ofJson?_eq_some_iff,
      Json.optional?_eq_some_iff Columns.ofJson?_eq_some_iff rfl,
      Json.optional?_eq_some_iff Condition.ofJson?_eq_some_iff hnull,
      Json.optional?_eq_some_iff Json.word?_eq_some_iff rfl]
    constructor
    · rintro ⟨table, htable, columns, hcolumns, condition, hcondition, offset, hoffset, limit,
        hlimit, rfl⟩
      exact .array htable hcolumns hcondition hoffset hlimit
    · rintro (_ | ⟨htable, hcolumns, hcondition, hoffset, hlimit⟩)
      exact ⟨_, htable, _, hcolumns, _, hcondition, _, hoffset, _, hlimit, rfl⟩
  · next hobject harray =>
    constructor
    · intro h
      cases h
    · rintro (_ | _)
      · exact absurd rfl (hobject _)
      · exact absurd rfl (harray _ _ _ _ _)

/-! ### Writing -/

private theorem Identifier.form_toJson (identifier : Identifier) :
    Form identifier.toJson identifier :=
  .object (Json.field?_eq_some_iff.mp (by simp [Json.field?, List.lookup_cons]))
    (Json.field?_eq_some_iff.mp (by simp [Json.field?]))

private theorem Columns.form_toJson (columns : Columns) : Form columns.toJson columns := by
  refine .array (List.forall₂_map_left_iff.mpr (List.forall₂_same.mpr fun identifier _ ↦ ?_))
  exact identifier.form_toJson

private theorem Condition.form_toJson (condition : Condition) :
    Form condition.toJson condition := by
  have hfields (l o r : Json) :
      HasField [("left", l), ("op", o), ("right", r)] "left" l ∧
      HasField [("left", l), ("op", o), ("right", r)] "op" o ∧
      HasField [("left", l), ("op", o), ("right", r)] "right" r := by
    simp [← Json.field?_eq_some_iff, Json.field?, List.lookup_cons]
  induction condition with
  | logical left op right ihl ihr =>
    obtain ⟨hl, ho, hr⟩ := hfields left.toJson (.string op.name) right.toJson
    exact .logical (Json.hasSoleField_singleton _ _) hl ho hr ihl (.name op.name) ihr
  | negation inner ih => exact .negation (Json.hasSoleField_singleton _ _) ih
  | comparison left op right =>
    obtain ⟨hl, ho, hr⟩ := hfields left.toJson (.string op.name) right.toJson
    exact .comparison (Json.hasSoleField_singleton _ _) hl ho hr left.form_toJson (.name op.name)
      right.form_toJson

/-- A statement is written in one of its forms. -/
theorem Statement.form_toJson (statement : Statement) : Form statement.toJson statement := by
  have hcolumns := Json.optionalForm_ofOption Columns.form_toJson statement.columns
  have hcondition := Json.optionalForm_ofOption Condition.form_toJson statement.condition
  have hoffset := Json.optionalForm_ofOption Json.wordForm_ofWord statement.offset
  have hlimit := Json.optionalForm_ofOption Json.wordForm_ofWord statement.limit
  refine .object ?_ statement.table.form_toJson (.given ?_ hcolumns) (.given ?_ hcondition)
    (.given ?_ hoffset) (.given ?_ hlimit) <;>
    exact Json.field?_eq_some_iff.mp (by simp [Json.field?, List.lookup_cons])

private theorem Identifier.wellNumbered_toJson (identifier : Identifier) :
    WellNumbered identifier.toJson := by
  refine .object ?_
  simp [WellNumbered.string, WellNumbered.bool]

private theorem Columns.wellNumbered_toJson (columns : Columns) : WellNumbered columns.toJson := by
  refine .array (List.forall_mem_map.mpr fun identifier _ ↦ ?_)
  exact identifier.wellNumbered_toJson

private theorem Condition.wellNumbered_toJson (condition : Condition) :
    WellNumbered condition.toJson := by
  induction condition with
  | logical left op right ihl ihr =>
    refine .object (List.forall_mem_singleton.mpr (.object ?_))
    simp [ihl, ihr, WellNumbered.string]
  | negation inner ih => exact .object (List.forall_mem_singleton.mpr ih)
  | comparison left op right =>
    refine .object (List.forall_mem_singleton.mpr (.object ?_))
    simp [Identifier.wellNumbered_toJson, WellNumbered.string]

private theorem Statement.wellNumbered_toJson (statement : Statement) :
    WellNumbered statement.toJson := by
  have hcolumns := Json.wellNumbered_ofOption _ statement.columns Columns.wellNumbered_toJson
  have hcondition := Json.wellNumbered_ofOption _ statement.condition Condition.wellNumbered_toJson
  have hword (o : Option UInt64) := Json.wellNumbered_ofOption Json.ofWord o fun n ↦
    Json.wellNumbered_natural n.toNat
  refine .object ?_
  simp [statement.table.wellNumbered_toJson, hcolumns, hcondition, hword]

/-! ### The text of a statement -/

namespace Statement

/-- The statement that a JSON text holds. -/
def ofJsonText? (text : String) : Option Statement := do
  ofJson? (← Json.ofString? text)

/-- The value gives a statement an empty row of columns. -/
inductive HasNoColumn : Json → Prop
  | object {fields : List (String × Json)} (h : HasField fields "columns" (.array [])) :
      HasNoColumn (.object fields)
  | array (table condition offset limit : Json) :
      HasNoColumn (.array [table, .array [], condition, offset, limit])

private theorem ofJsonText?_of_isText {j : Json} {text : String} (h : Json.IsText j text.toList) :
    ofJsonText? text = ofJson? j := by
  rw [ofJsonText?, (Json.ofString?_eq_some_iff text j).mpr h]
  rfl

/-- A statement is read from the texts of its forms only. -/
theorem ofJsonText?_eq_some_iff (text : String) (statement : Statement) :
    ofJsonText? text = some statement ↔ ∃ j, Json.IsText j text.toList ∧ Form j statement := by
  simp only [ofJsonText?, Option.bind_eq_bind, Option.bind_eq_some_iff, ofJson?_eq_some_iff,
    Json.ofString?_eq_some_iff]

/-- The text written for a statement is read as the statement. -/
theorem ofJsonText?_pretty (statement : Statement) :
    ofJsonText? statement.toJson.pretty = some statement :=
  (ofJsonText?_eq_some_iff _ statement).mpr
    ⟨statement.toJson, Json.isText_pretty statement.wellNumbered_toJson, statement.form_toJson⟩

private theorem HasNoColumn.ofJson? {j : Json} (h : HasNoColumn j) :
    Statement.ofJson? j = none := by
  have hnone : Json.optional? Columns.ofJson? (.array []) = none := rfl
  cases h with
  | object h =>
    simp [Statement.ofJson?, Json.optionalField?, Json.field?_eq_some_iff.mpr h, hnone]
  | array => simp [Statement.ofJson?, hnone]

/-- What the JSON of a statement keeps. -/
structure JsonLaw (statement : Statement) : Prop where
  /-- The text written for the statement is a JSON text. -/
  isText : Json.IsText statement.toJson statement.toJson.pretty.toList
  /-- It is read as the statement. -/
  read : ofJsonText? statement.toJson.pretty = some statement
  /-- No other statement has the same text. -/
  unique (other : Statement) (h : other.toJson.pretty = statement.toJson.pretty) :
    other = statement
  /-- A text is read as the statement if and only if it is a text of one of its forms. -/
  accepted (text : String) :
    ofJsonText? text = some statement ↔ ∃ j, Json.IsText j text.toList ∧ Form j statement
  /-- Whatever is read as the statement, the text written for it is read alike. -/
  rewritten (text : String) (h : ofJsonText? text = some statement) :
    ofJsonText? statement.toJson.pretty = ofJsonText? text
  /-- The statement has a column or selects every one. -/
  columns (columns : Columns) (h : statement.columns = some columns) : columns.toList ≠ []
  /-- No text of a value with an empty row of columns is read. -/
  refused (j : Json) (text : String) (hj : HasNoColumn j) (ht : Json.IsText j text.toList) :
    ofJsonText? text = none

/-- The JSON of every statement keeps the statement. -/
theorem json_keeps_statement (statement : Statement) : JsonLaw statement where
  isText := Json.isText_pretty statement.wellNumbered_toJson
  read := ofJsonText?_pretty statement
  unique other h := by
    have hread := ofJsonText?_pretty other
    rw [h, ofJsonText?_pretty statement] at hread
    exact (Option.some.inj hread).symm
  accepted text := ofJsonText?_eq_some_iff text statement
  rewritten text h := by rw [h, ofJsonText?_pretty]
  columns columns _ := List.cons_ne_nil _ _
  refused j text hj ht := by rw [ofJsonText?_of_isText ht, hj.ofJson?]

end Statement
end SelectFind
