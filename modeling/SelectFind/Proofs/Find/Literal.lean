import SelectFind.Proofs.Find.Legible

/-!
# Where the literal of a quoted name ends

A quoted name is written between single quotes as it is, whatever delimiter it was read with. Who
reads the query takes the literal up to the first single quote that is not escaped. This is never
behind the closing quote, as no escape is pending behind a name that was read. It is the closing
quote exactly if the name holds no single quote that is not escaped, as every name that was written
between single quotes. Else the literal ends inside the name.
-/

namespace SelectFind.Find

/-! ### The parts of a query -/

/-- A part of a query: a text, or a name between single quotes. -/
inductive Segment where
  | plain (text : String)
  | literal (name : String)
  deriving DecidableEq, Repr

namespace Segment

/-- What is written for a part. -/
def text : Segment → String
  | plain text => text
  | literal name => "'" ++ name ++ "'"

/-- The name of a literal. -/
def name? : Segment → Option String
  | plain _ => none
  | literal name => some name

end Segment

/-- What is written for parts in order. -/
def written (segments : List Segment) : String := String.join (segments.map Segment.text)

@[simp] private theorem written_append (a b : List Segment) :
    written (a ++ b) = written a ++ written b := by
  simp [written]

@[simp] private theorem written_cons (a : Segment) (b : List Segment) :
    written (a :: b) = a.text ++ written b := by
  simp [written]

@[simp] private theorem written_nil : written [] = "" := rfl

/-- The parts of a collection. -/
def collectionSegments (table : Identifier) : List Segment :=
  if table.quoted then [.plain "[", .literal table.name, .plain "]"]
  else [.plain ".", .plain table.name]

/-- The parts of a column of the projection. -/
def fieldSegments (column : Identifier) : List Segment :=
  [if column.quoted then .literal column.name else .plain column.name, .plain ": 1"]

/-- The parts of the arguments of `find`. -/
def argumentSegments : Option Columns → List Segment
  | none => [.plain "{}"]
  | some columns =>
    .plain "{}, " :: .plain openBrace :: (fieldSegments columns.first ++
      columns.others.flatMap (fun i ↦ .plain "," :: fieldSegments i) ++ [.plain closeBrace])

/-- The parts of the query of a statement on a database. -/
def segments (database : String) (statement : Statement) : List Segment :=
  .plain database :: (collectionSegments statement.table ++ .plain ".find(" ::
    (argumentSegments statement.columns ++
      [.plain ")", .plain (countCall "skip" statement.offset),
        .plain (countCall "limit" statement.limit)]))

private theorem written_collectionSegments (table : Identifier) :
    written (collectionSegments table) = collection table := by
  apply String.toList_injective
  unfold collectionSegments collection
  split <;> simp [Segment.text]

private theorem written_fieldSegments (column : Identifier) :
    written (fieldSegments column) = field column := by
  unfold fieldSegments field
  split <;> simp [Segment.text, String.append_assoc]

private theorem written_otherSegments (columns : List Identifier) :
    written (columns.flatMap fun i ↦ .plain "," :: fieldSegments i) =
      String.join (columns.map fun i ↦ "," ++ field i) := by
  apply String.toList_injective
  simp [written, String.toList_join, ← written_fieldSegments, Segment.text, List.flatMap_assoc,
    List.flatMap_map]

private theorem written_argumentSegments (columns : Option Columns) :
    written (argumentSegments columns) = arguments columns := by
  cases columns with
  | none => rfl
  | some columns =>
    simp [argumentSegments, arguments, projection, Columns.toList, Text.intercalate_cons,
      written_otherSegments, written_fieldSegments, Segment.text, String.append_assoc,
      Function.comp_def]

/-- The query of a statement is what is written for its parts. -/
theorem written_segments (database : String) (statement : Statement) :
    written (segments database statement) = database ++ body statement := by
  simp [segments, body, written_collectionSegments, written_argumentSegments, Segment.text,
    String.append_assoc]

private theorem names_fieldSegments (column : Identifier) :
    (fieldSegments column).filterMap Segment.name? =
      ([column].filter Identifier.quoted).map Identifier.name := by
  obtain ⟨name, quoted⟩ := column
  cases quoted <;> rfl

private theorem names_otherSegments (columns : List Identifier) :
    (columns.flatMap fun i ↦ .plain "," :: fieldSegments i).filterMap Segment.name? =
      (columns.filter Identifier.quoted).map Identifier.name := by
  induction columns with
  | nil => rfl
  | cons i columns ih =>
    have hi := names_fieldSegments i
    rw [List.flatMap_cons, List.filterMap_append, ih, ← List.singleton_append (l := columns),
      List.filter_append, List.map_append, ← hi]
    rfl

private theorem names_collectionSegments (table : Identifier) :
    (collectionSegments table).filterMap Segment.name? =
      ([table].filter Identifier.quoted).map Identifier.name := by
  obtain ⟨name, quoted⟩ := table
  cases quoted <;> rfl

private theorem names_argumentSegments (columns : Option Columns) :
    (argumentSegments columns).filterMap Segment.name? =
      ((columns.elim [] Columns.toList).filter Identifier.quoted).map Identifier.name := by
  cases columns with
  | none => rfl
  | some columns =>
    have hall : columns.toList = [columns.first] ++ columns.others := rfl
    rw [Option.elim_some, hall, List.filter_append, List.map_append, ← names_fieldSegments,
      ← names_otherSegments]
    simp [argumentSegments, Segment.name?, List.filterMap_cons]

private theorem names_segments (database : String) (statement : Statement) :
    (segments database statement).filterMap Segment.name? =
      (statement.names.filter Identifier.quoted).map Identifier.name := by
  have hall : statement.names = [statement.table] ++ statement.columns.elim [] Columns.toList := rfl
  rw [hall, List.filter_append, List.map_append, ← names_collectionSegments,
    ← names_argumentSegments]
  simp [segments, Segment.name?, List.filterMap_cons]

/-! ### Reading a literal -/

/-- The characters behind the opening quote of a literal are read as the literal: it stands in front
of the first single quote that is not escaped. -/
def ReadsLiteral (ahead literal : List Char) : Prop :=
  (∃ rest, ahead = literal ++ Delimiter.single.char :: rest) ∧
    Token.escapePending false literal = false ∧
    ¬Token.HasUnescaped Delimiter.single.char literal

private theorem readsLiteral_iff (ahead literal : List Char) :
    ReadsLiteral ahead literal ↔
      (∃ rest, ahead = literal ++ Delimiter.single.char :: rest) ∧
        Delimiter.single.Encloses literal := by
  rw [ReadsLiteral, Delimiter.encloses_iff,
    and_comm (a := Token.escapePending false literal = false)]

private theorem ReadsLiteral.unique (ahead a b : List Char) (ha : ReadsLiteral ahead a)
    (hb : ReadsLiteral ahead b) : a = b := by
  obtain ⟨⟨r, hr⟩, ha⟩ := (readsLiteral_iff ahead a).mp ha
  obtain ⟨⟨s, hs⟩, hb⟩ := (readsLiteral_iff ahead b).mp hb
  exact (Delimiter.Encloses.append_cons_inj .single a b r s ha hb (hr.symm.trans hs)).1

private theorem exists_readsLiteral (name rest : List Char)
    (hp : Token.escapePending false name = false) :
    ∃ literal, ReadsLiteral (name ++ Delimiter.single.char :: rest) literal ∧ literal <+: name ∧
      (literal = name ↔ ¬Token.HasUnescaped Delimiter.single.char name) := by
  by_cases h : Token.HasUnescaped Delimiter.single.char name
  · have hscan : Token.upToClosing Delimiter.single.char false name ≠ none := fun hn ↦
      (Token.upToClosing_eq_none_iff .single name).mp hn h
    obtain ⟨token, ht⟩ := Option.ne_none_iff_exists'.mp hscan
    obtain ⟨literal, back, hl, rfl, rfl⟩ := (Token.upToClosing_eq_some_iff .single _ _).mp ht
    refine ⟨literal, (readsLiteral_iff _ _).mpr ⟨⟨back ++ Delimiter.single.char :: rest, ?_⟩, hl⟩,
      ?_, ?_⟩
    · simp
    · exact ⟨Delimiter.single.char :: back, by simp⟩
    · exact iff_of_false (by simp) (not_not_intro h)
  · exact ⟨name, ⟨⟨rest, rfl⟩, hp, h⟩, List.prefix_rfl, iff_of_true rfl h⟩

private theorem exists_statement_of_ofText (settings : Settings) (sql query : String)
    (h : Find.ofText settings sql = .ok query) :
    ∃ statement, Statement.ofText settings sql = .ok statement ∧
      query = written (segments settings.database statement) := by
  cases hs : Statement.ofText settings sql with
  | error e =>
    simp only [Find.ofText, hs] at h
    cases h
  | ok statement =>
    have hc := (Statement.writable_of_ofText settings sql statement hs).condition
    rw [Statement.findOfText_of_ofText settings statement sql hs,
      Statement.query_of_condition_none _ statement hc] at h
    refine ⟨statement, rfl, ?_⟩
    rw [written_segments]
    exact (Except.ok.inj h).symm

private theorem drop_written (before : List Segment) (name : String) (behind : List Segment) :
    (written (before ++ .literal name :: behind)).toList.drop ((written before).length + 1) =
      name.toList ++ Delimiter.single.char :: (written behind).toList := by
  have hs : (written (before ++ .literal name :: behind)).toList =
      ((written before).toList ++ [Delimiter.single.char]) ++
        (name.toList ++ Delimiter.single.char :: (written behind).toList) := by
    simp [Segment.text, Delimiter.char]
  rw [hs]
  exact List.drop_left' (by simp [String.length_toList])

/-- What the literal of a name has to do with the name, in the query of a text and read from the
offset behind the opening quote. -/
structure LiteralLaw (sql query : String) (start : Nat) (name : String) (literal : List Char) :
    Prop where
  reads : ReadsLiteral (query.toList.drop start) literal
  unique : ∀ other, ReadsLiteral (query.toList.drop start) other → other = literal
  /-- The literal ends at the closing quote of the name at the latest. -/
  part : literal <+: name.toList
  /-- It ends there exactly if the name holds no single quote that is not escaped. -/
  whole_iff : literal = name.toList ↔ ¬Token.HasUnescaped Delimiter.single.char name.toList
  /-- It ends there if the text has the name between single quotes. -/
  whole_of_mem : ∀ tokens, tokenize sql = .ok tokens → Delimiter.single.quote name ∈ tokens →
    literal = name.toList

/-- The literal of each quoted name in a query ends at its closing quote exactly if the name holds
no single quote that is not escaped, and else inside the name. -/
theorem ofText_literal_ends (settings : Settings) (sql query : String)
    (h : Find.ofText settings sql = .ok query) :
    ∃ statement, Statement.ofText settings sql = .ok statement ∧
      query = written (segments settings.database statement) ∧
      (segments settings.database statement).filterMap Segment.name? =
        (statement.names.filter Identifier.quoted).map Identifier.name ∧
      ∀ before name behind,
        segments settings.database statement = before ++ .literal name :: behind →
        ∃ literal, LiteralLaw sql query ((written before).length + 1) name literal := by
  obtain ⟨statement, hs, rfl⟩ := exists_statement_of_ofText settings sql query h
  have hnames := names_segments settings.database statement
  refine ⟨statement, hs, rfl, hnames, ?_⟩
  intro before name behind hsplit
  -- The literal is a quoted name of the statement, so no escape is pending behind it.
  obtain ⟨i, hi, rfl⟩ : ∃ i ∈ statement.names.filter Identifier.quoted, i.name = name := by
    rw [← List.mem_map, ← hnames, hsplit]
    simp [Segment.name?]
  obtain ⟨hi, hq⟩ := List.mem_filter.mp hi
  have hw := (Statement.writable_of_ofText settings sql statement hs).names statement i hi
  rw [Identifier.Writable, if_pos hq] at hw
  obtain ⟨d, hd⟩ := hw
  obtain ⟨literal, hread, hpart, hiff⟩ :=
    exists_readsLiteral i.name.toList (written behind).toList hd.escapePending
  rw [← drop_written before, ← hsplit] at hread
  refine ⟨literal, hread, ?_, hpart, hiff, ?_⟩
  · intro other ho
    exact ReadsLiteral.unique _ _ _ ho hread
  · intro tokens ht hm
    have hsingle := Delimiter.encloses_of_isToken .single i.name
      (isToken_of_mem_tokenize sql tokens ht _ hm)
    exact hiff.mpr hsingle.not_hasUnescaped

/-- A quoted table behind two quoted columns, one of which holds an escaped single quote. -/
theorem ofText_literal_ends_escaped_quote :
    Find.ofText .standard "select 'x', \"it\\'s\" from `a'b`" =
        .ok ("db['a'b'].find({}, " ++ openBrace ++ "'x': 1,'it\\'s': 1" ++ closeBrace ++ ")") ∧
      ∃ literal, LiteralLaw "select 'x', \"it\\'s\" from `a'b`"
        ("db['a'b'].find({}, " ++ openBrace ++ "'x': 1,'it\\'s': 1" ++ closeBrace ++ ")") 28
        "it\\'s" literal := by
  let statement : Statement :=
    { table := ⟨"a'b", true⟩
      columns := some ⟨⟨"x", true⟩, [⟨"it\\'s", true⟩]⟩
      condition := none
      offset := none
      limit := none }
  have hq : Find.ofText .standard "select 'x', \"it\\'s\" from `a'b`" =
      .ok ("db['a'b'].find({}, " ++ openBrace ++ "'x': 1,'it\\'s': 1" ++ closeBrace ++ ")") := by
    decide +kernel
  have hs : Statement.ofText .standard "select 'x', \"it\\'s\" from `a'b`" = .ok statement := by
    decide +kernel
  obtain ⟨read, hr, -, -, hall⟩ := ofText_literal_ends .standard _ _ hq
  obtain rfl : statement = read := Except.ok.inj (hs.symm.trans hr)
  refine ⟨hq, ?_⟩
  exact hall
    [.plain "db", .plain "[", .literal "a'b", .plain "]", .plain ".find(", .plain "{}, ",
      .plain openBrace, .literal "x", .plain ": 1", .plain ","] "it\\'s" _ rfl

/-- A name that is read between double quotes and holds a single quote breaks out of its literal:
the literal is only the part in front of that quote. -/
theorem literal_ends_inside_name :
    Find.ofText .standard "select * from \"a'b\"" = .ok "db['a'b'].find({})" ∧
      (∃ statement, Statement.ofText .standard "select * from \"a'b\"" = .ok statement ∧
        statement.table = ⟨"a'b", true⟩ ∧
        ∃ behind, segments "db" statement =
          [.plain "db", .plain "["] ++ .literal "a'b" :: behind) ∧
      ReadsLiteral ("db['a'b'].find({})".toList.drop
        ((written [.plain "db", .plain "["]).length + 1)) "a".toList ∧
      ¬ReadsLiteral ("db['a'b'].find({})".toList.drop
        ((written [.plain "db", .plain "["]).length + 1)) "a'b".toList := by
  refine ⟨by decide +kernel, ⟨⟨⟨"a'b", true⟩, none, none, none, none⟩, ?_, rfl, _, rfl⟩, ?_, ?_⟩
  · decide +kernel
  · exact ⟨⟨"b'].find({})".toList, rfl⟩, rfl, by decide⟩
  · intro h
    exact h.2.2 (by decide)

end SelectFind.Find
