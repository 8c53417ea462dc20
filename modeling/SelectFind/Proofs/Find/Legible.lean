import SelectFind.Proofs.Statement.Names
import SelectFind.Proofs.Text.Splitting
import SelectFind.Proofs.Token.Escape
import Mathlib.Data.List.Induction

/-!
# Queries can be read back

A query tells the statement that it was written from, if the single quotes around its quoted names
enclose them. A quoted name ends at the first single quote that is not escaped, a bare column in
front of the first blank, and the columns with the brace; so all of these are read from the left. A
bare table may look like any part of a query. If columns are named it is read from the left too, as
it holds no comma. Else the query is read from the right: the calls that it ends with are read one
by one, up to the last call of `find`.
-/

namespace SelectFind

/-! ### Texts that end where they are seen to end -/

/-- A delimiter behind a row that it encloses is where the row ends. -/
theorem Delimiter.Encloses.append_cons_inj (d : Delimiter) (a b r s : List Char)
    (ha : d.Encloses a) (hb : d.Encloses b) (h : a ++ d.char :: r = b ++ d.char :: s) :
    a = b ∧ r = s := by
  have hscan := Token.upToClosing_of_encloses d a r ha
  rw [h, Token.upToClosing_of_encloses d b s hb] at hscan
  obtain rfl := List.append_cancel_right (Option.some.inj hscan)
  exact ⟨rfl, (List.cons.inj (List.append_cancel_left h)).2⟩

/-- A name is legible: between single quotes these enclose it, and elsewhere it is a bare token. -/
def Identifier.Legible (i : Identifier) : Prop :=
  if i.quoted then Delimiter.single.Encloses i.name.toList else Token.IsBareToken i.name

namespace Find

/-! ### Columns -/

private theorem field_quoted_append (name : String) (r : List Char) :
    (field ⟨name, true⟩).toList ++ r =
      Delimiter.single.char ::
        (name.toList ++ Delimiter.single.char :: ':' :: ' ' :: '1' :: r) := by
  simp [field, Delimiter.char]

private theorem field_bare_append (name : String) (r : List Char) :
    (field ⟨name, false⟩).toList ++ r = (name.toList ++ [':']) ++ ' ' :: '1' :: r := by
  simp [field]

private theorem blank_notMem_bare (name : String) (h : Token.IsBareToken name) :
    ' ' ∉ name.toList ++ [':'] := by
  intro hm
  rcases List.mem_append.mp hm with hm | hm
  · exact absurd (h.plain ' ' hm).1 (by decide)
  · exact absurd (List.mem_singleton.mp hm) (by decide)

/-- The columns behind the first, each with a comma in front, and the closing brace. -/
def otherFields (columns : List Identifier) : List Char :=
  columns.flatMap (fun i ↦ ',' :: (field i).toList) ++ ['}']

private theorem otherFields_cons (i : Identifier) (is : List Identifier) :
    otherFields (i :: is) = ',' :: ((field i).toList ++ otherFields is) := by
  simp [otherFields]

private theorem toList_projection (columns : Columns) :
    (projection columns).toList =
      '{' :: ((field columns.first).toList ++ otherFields columns.others) := by
  simp [projection, Columns.toList, Text.intercalate_cons, String.toList_join, otherFields,
    openBrace, closeBrace, List.flatMap_map]

-- A quoted column starts with a single quote and a bare one does not.
private theorem field_quoted_ne_bare (name other : String) (r s : List Char)
    (hb : Token.IsBareToken other) :
    (field ⟨name, true⟩).toList ++ r ≠ (field ⟨other, false⟩).toList ++ s := by
  rw [field_quoted_append, field_bare_append]
  intro h
  cases hc : other.toList with
  | nil => exact hb.ne_empty (String.toList_eq_nil_iff.mp hc)
  | cons c cs =>
    rw [hc] at h
    exact hb.unquoted .single (by rw [hc, (List.cons.inj h).1]; rfl)

private theorem field_append_inj (i j : Identifier) (r s : List Char) (hi : i.Legible)
    (hj : j.Legible) (h : (field i).toList ++ r = (field j).toList ++ s) : i = j ∧ r = s := by
  obtain ⟨name, quoted⟩ := i
  obtain ⟨other, otherQuoted⟩ := j
  cases quoted with
  | true =>
    cases otherQuoted with
    | true =>
      rw [field_quoted_append, field_quoted_append] at h
      obtain ⟨hn, hr⟩ := Delimiter.Encloses.append_cons_inj .single name.toList other.toList _ _
        hi hj (List.cons.inj h).2
      rw [String.toList_injective hn]
      exact ⟨rfl, by simpa using hr⟩
    | false => exact absurd h (field_quoted_ne_bare name other r s hj)
  | false =>
    cases otherQuoted with
    | true => exact absurd h.symm (field_quoted_ne_bare other name s r hi)
    | false =>
      rw [field_bare_append, field_bare_append] at h
      obtain ⟨hn, hr⟩ := Text.append_cons_inj_of_notMem_front ' ' _ _ _ _
        (blank_notMem_bare name hi) (blank_notMem_bare other hj) h
      rw [String.toList_injective (List.append_cancel_right hn)]
      exact ⟨rfl, (List.cons.inj hr).2⟩

private theorem otherFields_append_inj (is js : List Identifier) (r s : List Char)
    (hi : ∀ i ∈ is, i.Legible) (hj : ∀ j ∈ js, j.Legible)
    (h : otherFields is ++ r = otherFields js ++ s) : is = js ∧ r = s := by
  induction is generalizing js with
  | nil =>
    cases js with
    | nil => exact ⟨rfl, List.append_cancel_left h⟩
    | cons j js => exact absurd (List.cons.inj h).1 (by decide)
  | cons i is ih =>
    cases js with
    | nil => exact absurd (List.cons.inj h).1 (by decide)
    | cons j js =>
      rw [List.forall_mem_cons] at hi hj
      simp only [otherFields_cons, List.cons_append, List.append_assoc] at h
      obtain ⟨rfl, hrest⟩ := field_append_inj i j _ _ hi.1 hj.1 (List.cons.inj h).2
      obtain ⟨rfl, hr⟩ := ih js hi.2 hj.2 hrest
      exact ⟨rfl, hr⟩

private theorem projection_append_inj (cs ds : Columns) (r s : List Char)
    (hc : ∀ i ∈ cs.toList, i.Legible) (hd : ∀ i ∈ ds.toList, i.Legible)
    (h : (projection cs).toList ++ r = (projection ds).toList ++ s) : cs = ds ∧ r = s := by
  rw [Columns.toList, List.forall_mem_cons] at hc hd
  simp only [toList_projection, List.cons_append, List.append_assoc] at h
  obtain ⟨hf, hrest⟩ := field_append_inj _ _ _ _ hc.1 hd.1 (List.cons.inj h).2
  obtain ⟨ho, hr⟩ := otherFields_append_inj _ _ _ _ hc.2 hd.2 hrest
  obtain ⟨first, others⟩ := cs
  obtain ⟨first', others'⟩ := ds
  exact ⟨by rw [show first = first' from hf, show others = others' from ho], hr⟩

private theorem arguments_append_inj (cs ds : Option Columns) (r s : List Char)
    (hc : ∀ columns ∈ cs, ∀ i ∈ columns.toList, i.Legible)
    (hd : ∀ columns ∈ ds, ∀ i ∈ columns.toList, i.Legible)
    (h : (arguments cs).toList ++ ')' :: r = (arguments ds).toList ++ ')' :: s) :
    cs = ds ∧ r = s := by
  cases cs with
  | none =>
    cases ds with
    | none => exact ⟨rfl, (List.cons.inj (List.append_cancel_left h)).2⟩
    | some ds => simp [arguments] at h
  | some cs =>
    cases ds with
    | none => simp [arguments] at h
    | some ds =>
      simp only [arguments, String.toList_append, List.append_assoc] at h
      obtain ⟨rfl, hr⟩ := projection_append_inj cs ds _ _ (hc cs rfl) (hd ds rfl)
        (List.append_cancel_left h)
      exact ⟨rfl, (List.cons.inj hr).2⟩

/-! ### Calls -/

/-- A call of a method at the end of a query. Its last parenthesis and its last dot are its own, so
it is read from the right. -/
structure MethodCall where
  method : String
  argument : String
  dot_notMem : '.' ∉ method.toList
  paren_notMem : '(' ∉ argument.toList

namespace MethodCall

/-- The characters of a call. -/
def text (call : MethodCall) : List Char :=
  '.' :: (call.method.toList ++ '(' :: (call.argument.toList ++ [')']))

/-- The call of `find` that shows every column. -/
def findAll : MethodCall := ⟨"find", "{}", by decide, by decide⟩

/-- The call of a method with a count. -/
def ofCount (method : String) (h : '.' ∉ method.toList) (n : UInt64) : MethodCall where
  method := method
  argument := Text.decimal n.toNat
  dot_notMem := h
  paren_notMem hm := absurd ((Text.numeral_decimal n.toNat).isDigit '(' hm) (by decide)

private theorem ofCount_inj (method other : String) (h : '.' ∉ method.toList)
    (h' : '.' ∉ other.toList) (n m : UInt64) :
    ofCount method h n = ofCount other h' m ↔ method = other ∧ n = m := by
  constructor
  · intro he
    refine ⟨congrArg MethodCall.method he, UInt64.toNat_inj.mp ?_⟩
    have hd : Text.decimal n.toNat = Text.decimal m.toNat := congrArg MethodCall.argument he
    rw [← Option.some.injEq, ← Text.digits?_decimal, hd, Text.digits?_decimal]
  · rintro ⟨rfl, rfl⟩
    rfl

private theorem append_text_inj (c e : MethodCall) (a b : List Char)
    (h : a ++ c.text = b ++ e.text) : a = b ∧ c = e := by
  obtain ⟨method, argument, hdot, hparen⟩ := c
  obtain ⟨method', argument', hdot', hparen'⟩ := e
  have h : (a ++ '.' :: method.toList) ++ '(' :: argument.toList ++ [')'] =
      (b ++ '.' :: method'.toList) ++ '(' :: argument'.toList ++ [')'] := by
    simpa [text] using h
  obtain ⟨hfront, harg⟩ := Text.append_cons_inj_of_notMem_back '(' _ _ _ _ hparen hparen'
    (List.append_cancel_right h)
  obtain ⟨hab, hmethod⟩ := Text.append_cons_inj_of_notMem_back '.' _ _ _ _ hdot hdot' hfront
  obtain rfl := String.toList_injective harg
  obtain rfl := String.toList_injective hmethod
  exact ⟨hab, rfl⟩

private theorem append_findAll_inj (cs es : List MethodCall) (a b : List Char) (hc : findAll ∉ cs)
    (he : findAll ∉ es)
    (h : a ++ findAll.text ++ cs.flatMap text = b ++ findAll.text ++ es.flatMap text) :
    a = b ∧ cs = es := by
  induction cs using List.reverseRecOn generalizing es with
  | nil =>
    rcases List.eq_nil_or_concat es with rfl | ⟨es, e, rfl⟩
    · exact ⟨List.append_cancel_right (List.append_cancel_right h), rfl⟩
    · simp only [List.concat_eq_append, List.flatMap_append, List.flatMap_singleton,
        List.flatMap_nil, List.append_nil, ← List.append_assoc] at h
      exact absurd (by simp [(append_text_inj _ _ _ _ h).2]) he
  | append_singleton cs c ih =>
    rcases List.eq_nil_or_concat es with rfl | ⟨es, e, rfl⟩
    · simp only [List.flatMap_append, List.flatMap_singleton, List.flatMap_nil, List.append_nil,
        ← List.append_assoc] at h
      exact absurd (by simp [(append_text_inj _ _ _ _ h).2]) hc
    · simp only [List.concat_eq_append, List.flatMap_append, List.flatMap_singleton,
        ← List.append_assoc] at h
      obtain ⟨hfront, rfl⟩ := append_text_inj _ _ _ _ h
      obtain ⟨hab, rfl⟩ := ih es (by simp_all) (by simp_all) hfront
      exact ⟨hab, by simp⟩

end MethodCall

/-- The calls that follow `find`. -/
def countCalls (offset limit : Option UInt64) : List MethodCall :=
  (offset.map (.ofCount "skip" (by decide))).toList ++
    (limit.map (.ofCount "limit" (by decide))).toList

private theorem toList_countCall (method : String) (h : '.' ∉ method.toList)
    (count : Option UInt64) :
    (countCall method count).toList =
      (count.map (MethodCall.ofCount method h)).toList.flatMap MethodCall.text := by
  cases count with
  | none => rfl
  | some n => simp [countCall, MethodCall.ofCount, MethodCall.text]

private theorem findAll_notMem_countCalls (offset limit : Option UInt64) :
    MethodCall.findAll ∉ countCalls offset limit := by
  intro h
  have hm : ∀ c ∈ countCalls offset limit, c.method = "skip" ∨ c.method = "limit" := by
    intro c hc
    rcases List.mem_append.mp hc with hc | hc
    · obtain ⟨n, _, rfl⟩ := Option.map_eq_some_iff.mp (Option.mem_toList.mp hc)
      exact .inl rfl
    · obtain ⟨n, _, rfl⟩ := Option.map_eq_some_iff.mp (Option.mem_toList.mp hc)
      exact .inr rfl
  exact absurd (hm _ h) (by decide)

private theorem countCalls_inj (o l o' l' : Option UInt64) :
    countCalls o l = countCalls o' l' ↔ o = o' ∧ l = l' := by
  cases o <;> cases o' <;> cases l <;> cases l' <;> simp [countCalls, MethodCall.ofCount_inj]

/-! ### Queries -/

/-- What follows the collection of a table. -/
def calls (statement : Statement) : List Char :=
  (".find(" ++ arguments statement.columns ++ ")").toList ++
    (countCalls statement.offset statement.limit).flatMap MethodCall.text

private theorem toList_body (statement : Statement) :
    (body statement).toList = (collection statement.table).toList ++ calls statement := by
  simp only [body, calls, countCalls, String.toList_append, List.flatMap_append, List.append_assoc,
    toList_countCall "skip" (by decide), toList_countCall "limit" (by decide)]

private theorem calls_of_columns_none (statement : Statement) (h : statement.columns = none) :
    calls statement = MethodCall.findAll.text ++
      (countCalls statement.offset statement.limit).flatMap MethodCall.text := by
  rw [calls, h]
  rfl

private theorem calls_of_columns_some (statement : Statement) (columns : Columns)
    (h : statement.columns = some columns) :
    calls statement = ".find({}".toList ++ ',' :: ' ' :: ((projection columns).toList ++
      ')' :: (countCalls statement.offset statement.limit).flatMap MethodCall.text) := by
  rw [calls, h]
  simp [arguments]

private theorem comma_notMem_text_ofCount (method : String) (h : '.' ∉ method.toList)
    (hm : ',' ∉ method.toList) (n : UInt64) : ',' ∉ (MethodCall.ofCount method h n).text := by
  have hd : ',' ∉ (Text.decimal n.toNat).toList := fun hc ↦
    absurd ((Text.numeral_decimal n.toNat).isDigit ',' hc) (by decide)
  simp [MethodCall.text, MethodCall.ofCount, hm, hd]

private theorem comma_notMem_calls (statement : Statement) (h : statement.columns = none) :
    ',' ∉ calls statement := by
  obtain ⟨table, columns, condition, offset, limit⟩ := statement
  rw [calls_of_columns_none _ h]
  have hf : ',' ∉ MethodCall.findAll.text := by decide
  cases offset <;> cases limit <;> simp [countCalls, hf, comma_notMem_text_ofCount]

private theorem calls_inj (a b : Statement) (ha : ∀ i ∈ a.names, i.Legible)
    (hb : ∀ i ∈ b.names, i.Legible) (h : calls a = calls b) :
    a.columns = b.columns ∧ a.offset = b.offset ∧ a.limit = b.limit := by
  simp only [calls, String.toList_append, List.append_assoc] at h
  obtain ⟨hcols, hcounts⟩ := arguments_append_inj a.columns b.columns _ _
    (fun cs hc i hi ↦ ha i (a.mem_names_of_mem_columns cs hc i hi))
    (fun cs hc i hi ↦ hb i (b.mem_names_of_mem_columns cs hc i hi)) (List.append_cancel_left h)
  obtain ⟨-, hcalls⟩ := MethodCall.append_findAll_inj _ _ [] []
    (findAll_notMem_countCalls a.offset a.limit) (findAll_notMem_countCalls b.offset b.limit)
    (congrArg (_ ++ ·) hcounts)
  exact ⟨hcols, (countCalls_inj _ _ _ _).mp hcalls⟩

private theorem append_calls_inj (a b : Statement) (r s : List Char) (hr : ',' ∉ r) (hs : ',' ∉ s)
    (h : r ++ calls a = s ++ calls b) : r = s ∧ calls a = calls b := by
  suffices hrs : r = s by
    rw [hrs] at h
    exact ⟨hrs, List.append_cancel_left h⟩
  cases hca : a.columns with
  | none =>
    cases hcb : b.columns with
    | none =>
      -- The collection may hold calls of `find` itself, so only the last one tells its end.
      rw [calls_of_columns_none a hca, calls_of_columns_none b hcb, ← List.append_assoc,
        ← List.append_assoc] at h
      exact (MethodCall.append_findAll_inj _ _ r s (findAll_notMem_countCalls _ _)
        (findAll_notMem_countCalls _ _) h).1
    | some ds =>
      have hm : ',' ∈ s ++ calls b := by simp [calls_of_columns_some b ds hcb]
      rw [← h, List.mem_append] at hm
      exact absurd hm (not_or.mpr ⟨hr, comma_notMem_calls a hca⟩)
  | some cs =>
    cases hcb : b.columns with
    | none =>
      have hm : ',' ∈ r ++ calls a := by simp [calls_of_columns_some a cs hca]
      rw [h, List.mem_append] at hm
      exact absurd hm (not_or.mpr ⟨hs, comma_notMem_calls b hcb⟩)
    | some ds =>
      -- The first comma stands behind the filter.
      rw [calls_of_columns_some a cs hca, calls_of_columns_some b ds hcb, ← List.append_assoc,
        ← List.append_assoc] at h
      exact List.append_cancel_right (Text.append_cons_inj_of_notMem_front ',' _ _ _ _
        (by simp [hr]) (by simp [hs]) h).1

private theorem collection_quoted_append (name : String) (r : List Char) :
    (collection ⟨name, true⟩).toList ++ r =
      '[' :: Delimiter.single.char :: (name.toList ++ Delimiter.single.char :: ']' :: r) := by
  simp [collection, Delimiter.char]

private theorem collection_bare_append (name : String) (r : List Char) :
    (collection ⟨name, false⟩).toList ++ r = '.' :: (name.toList ++ r) := by
  simp [collection]

private theorem collection_append_calls_inj (a b : Statement) (ha : a.table.Legible)
    (hb : b.table.Legible)
    (h : (collection a.table).toList ++ calls a = (collection b.table).toList ++ calls b) :
    a.table = b.table ∧ calls a = calls b := by
  generalize a.table = i at ha h ⊢
  generalize b.table = j at hb h ⊢
  obtain ⟨name, quoted⟩ := i
  obtain ⟨other, otherQuoted⟩ := j
  cases quoted with
  | true =>
    rw [collection_quoted_append] at h
    cases otherQuoted with
    | true =>
      rw [collection_quoted_append] at h
      obtain ⟨hn, hr⟩ := Delimiter.Encloses.append_cons_inj .single name.toList other.toList _ _
        ha hb (List.cons.inj (List.cons.inj h).2).2
      rw [String.toList_injective hn]
      exact ⟨rfl, (List.cons.inj hr).2⟩
    | false =>
      rw [collection_bare_append] at h
      exact absurd (List.cons.inj h).1 (by decide)
  | false =>
    rw [collection_bare_append] at h
    cases otherQuoted with
    | true =>
      rw [collection_quoted_append] at h
      exact absurd (List.cons.inj h).1 (by decide)
    | false =>
      rw [collection_bare_append] at h
      obtain ⟨hn, hr⟩ := append_calls_inj a b name.toList other.toList
        (fun hm ↦ (ha.plain ',' hm).2 rfl) (fun hm ↦ (hb.plain ',' hm).2 rfl) (List.cons.inj h).2
      rw [String.toList_injective hn]
      exact ⟨rfl, hr⟩

/-- Legible statements that are written alike differ in their conditions at most. -/
theorem body_inj (a b : Statement) (ha : ∀ i ∈ a.names, i.Legible)
    (hb : ∀ i ∈ b.names, i.Legible) (h : body a = body b) :
    a.table = b.table ∧ a.columns = b.columns ∧ a.offset = b.offset ∧ a.limit = b.limit := by
  have hl := congrArg String.toList h
  rw [toList_body, toList_body] at hl
  obtain ⟨ht, hcalls⟩ := collection_append_calls_inj a b (ha _ a.table_mem_names)
    (hb _ b.table_mem_names) hl
  exact ⟨ht, calls_inj a b ha hb hcalls⟩

end Find

/-! ### Statements that are read -/

private theorem Identifier.Writable.legible (i : Identifier) (h : i.Writable)
    (hq : i.quoted = true → ¬Token.HasUnescaped Delimiter.single.char i.name.toList) :
    i.Legible := by
  obtain ⟨name, quoted⟩ := i
  cases quoted with
  | true =>
    -- Whatever delimiter the name was read with, no escape is pending behind it.
    obtain ⟨d, hd⟩ := h
    exact (Delimiter.encloses_iff .single name.toList).mpr ⟨hq rfl, hd.escapePending⟩
  | false => exact h.1

namespace Statement

/-- The statement is read from some text by some settings. -/
def IsRead (statement : Statement) : Prop :=
  ∃ (settings : Settings) (sql : String), Statement.ofText settings sql = .ok statement

/-- No quoted name in the statement holds a single quote that is not escaped. -/
def CleanlyQuoted (statement : Statement) : Prop :=
  ∀ i ∈ statement.names, i.quoted = true → ¬Token.HasUnescaped Delimiter.single.char i.name.toList

instance (statement : Statement) : Decidable statement.CleanlyQuoted :=
  inferInstanceAs (Decidable (∀ i ∈ statement.names,
    i.quoted = true → ¬Token.HasUnescaped Delimiter.single.char i.name.toList))

private theorem IsRead.legible (statement : Statement) (h : statement.IsRead)
    (hq : statement.CleanlyQuoted) :
    statement.condition = none ∧ ∀ i ∈ statement.names, i.Legible := by
  obtain ⟨settings, sql, h⟩ := h
  have hw := writable_of_ofText settings sql statement h
  exact ⟨hw.condition, fun i hi ↦ (hw.names statement i hi).legible i (hq i hi)⟩

end Statement

namespace Find

/-- The query of a cleanly quoted statement that is read from a text tells the statement. -/
theorem query_inj_of_cleanlyQuoted (database : String) (a b : Statement) (ha : a.IsRead)
    (hb : b.IsRead) (hqa : a.CleanlyQuoted) (hqb : b.CleanlyQuoted)
    (h : query database a = query database b) : a = b := by
  obtain ⟨hca, hla⟩ := ha.legible a hqa
  obtain ⟨hcb, hlb⟩ := hb.legible b hqb
  rw [Statement.query_of_condition_none database a hca,
    Statement.query_of_condition_none database b hcb, Except.ok.injEq,
    String.append_right_inj] at h
  obtain ⟨ht, hcols, ho, hl⟩ := body_inj a b hla hlb h
  obtain ⟨table, columns, condition, offset, limit⟩ := a
  obtain ⟨table', columns', condition', offset', limit'⟩ := b
  rw [Statement.mk.injEq]
  exact ⟨ht, hcols, hca.trans hcb.symm, ho, hl⟩

/-- Two spellings of a statement whose table looks like the calls of a query. -/
theorem query_inj_of_cleanlyQuoted_imitated_calls :
    ∃ a b, Statement.ofText .standard
        "select \"it\\'s\", n: from t.find({}).skip(3) offset 7" = .ok a ∧
      Statement.ofText ⟨"db", .ignore⟩
        "SELECT `it\\'s`,n: FROM t.find({}).skip(3) OFFSET +07 ; x" = .ok b ∧
      a.CleanlyQuoted ∧ b.CleanlyQuoted ∧ query "db" a = query "db" b ∧ a = b := by
  let a : Statement :=
    { table := ⟨"t.find({}).skip(3)", false⟩
      columns := some ⟨⟨"it\\'s", true⟩, [⟨"n:", false⟩]⟩
      condition := none
      offset := some 7
      limit := none }
  have hd : Statement.ofText .standard
      "select \"it\\'s\", n: from t.find({}).skip(3) offset 7" = .ok a := by
    decide +kernel
  have hb : Statement.ofText ⟨"db", .ignore⟩
      "SELECT `it\\'s`,n: FROM t.find({}).skip(3) OFFSET +07 ; x" = .ok a := by
    decide +kernel
  have hq : a.CleanlyQuoted := by decide +kernel
  have heq := query_inj_of_cleanlyQuoted "db" a a ⟨_, _, hd⟩ ⟨_, _, hb⟩ hq hq rfl
  exact ⟨a, a, hd, hb, hq, hq, rfl, heq⟩

-- A single quote that is not escaped makes one column look like two.
example : Find.ofText .standard "select \"a': 1,'b\" from t" =
      Find.ofText .standard "select 'a', 'b' from t" ∧
    Statement.ofText .standard "select \"a': 1,'b\" from t" ≠
      Statement.ofText .standard "select 'a', 'b' from t" := by
  decide +kernel

end Find
end SelectFind
