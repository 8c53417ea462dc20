import SelectFind.Proofs.Statement.Calls
import SelectFind.Proofs.Statement.WellFormed
import SelectFind.Proofs.Text.Lines

/-!
# Queries and errors of one line

All that a query or the words for an error take from a statement text are names, tokens and numbers.
Names and tokens stand in the text, so that a text without a line feed has a query without one, or
fails with an error without one.
-/

namespace SelectFind

open Text

/-! ### Queries -/

namespace Find

private theorem lineFeed_notMem_collection (table : Identifier) (h : '\n' ∉ table.name.toList) :
    '\n' ∉ (collection table).toList := by
  unfold collection
  split <;> simp [h]

private theorem lineFeed_notMem_field (column : Identifier) (h : '\n' ∉ column.name.toList) :
    '\n' ∉ (field column).toList := by
  unfold field
  split <;> simp [h]

private theorem lineFeed_notMem_arguments (columns : Option Columns)
    (h : ∀ cs ∈ columns, ∀ i ∈ cs.toList, '\n' ∉ i.name.toList) :
    '\n' ∉ (arguments columns).toList := by
  cases columns with
  | none => decide
  | some columns =>
    have hf : '\n' ∉ (String.intercalate "," (columns.toList.map field)).toList := by
      apply lineFeed_notMem_intercalate _ _ (by decide)
      intro t ht
      obtain ⟨i, hi, rfl⟩ := List.mem_map.mp ht
      exact lineFeed_notMem_field i (h columns rfl i hi)
    simp only [arguments, projection, String.toList_append, List.mem_append, not_or]
    exact ⟨by decide, ⟨by decide, hf⟩, by decide⟩

private theorem lineFeed_notMem_countCall (method : String) (h : '\n' ∉ method.toList)
    (count : Option UInt64) : '\n' ∉ (countCall method count).toList := by
  cases count with
  | none => simp [countCall]
  | some n => simp [countCall, h]

/-- A statement whose names have no line feed has a query without one behind the database. -/
theorem lineFeed_notMem_body (statement : Statement)
    (h : ∀ i ∈ statement.names, '\n' ∉ i.name.toList) : '\n' ∉ (body statement).toList := by
  have hc := lineFeed_notMem_collection statement.table (h _ statement.table_mem_names)
  have ha := lineFeed_notMem_arguments statement.columns fun cs hcs i hi ↦
    h i (statement.mem_names_of_mem_columns cs hcs i hi)
  simp [body, hc, ha, lineFeed_notMem_countCall]

end Find

/-! ### Errors -/

private theorem LexError.lineFeed_notMem_message (e : LexError) : '\n' ∉ e.message.toList := by
  simp [message, reason]

private theorem Expected.lineFeed_notMem_text (expected : Expected) :
    '\n' ∉ expected.text.toList := by
  cases expected with
  | clause c => cases c <;> decide
  | _ => decide

private theorem NameFault.lineFeed_notMem_invalid (found index reason : String)
    (hf : '\n' ∉ found.toList) (hi : '\n' ∉ index.toList) (hr : '\n' ∉ reason.toList) :
    '\n' ∉ (NameFault.message.invalid found index reason).toList := by
  unfold NameFault.message.invalid
  simp [hf, hi, hr]

private theorem NameFault.lineFeed_notMem_message (fault : NameFault) (found index : String)
    (hf : '\n' ∉ found.toList) (hi : '\n' ∉ index.toList) :
    '\n' ∉ (fault.message found index).toList := by
  cases fault with
  | empty => exact lineFeed_notMem_invalid found index _ hf hi (by simp)
  | unclosed => exact lineFeed_notMem_invalid found index _ hf hi (by simp)
  | punctuation => exact lineFeed_notMem_invalid found index _ hf hi (by simp)
  | reserved =>
    unfold NameFault.message
    simp [hf, hi]

private theorem ParseError.lineFeed_notMem_message (e : ParseError)
    (h : ∀ t ∈ e.fault.found?, '\n' ∉ t.toList) : '\n' ∉ e.message.toList := by
  obtain ⟨index, fault⟩ := e
  cases fault with
  | mismatch expected found => simp [message, expected.lineFeed_notMem_text, h found rfl]
  | ended expected => simp [message, expected.lineFeed_notMem_text]
  | name found fault =>
    exact fault.lineFeed_notMem_message found _ (h found rfl) (lineFeed_notMem_decimal index)
  | integer found => simp [message, h found rfl]
  | negative c value => cases c <;> simp [message, Clause.word]
  | condition => simp [message]
  | leftover found => simp [message, h found rfl]

namespace Statement

private theorem mem_of_found (leftover : Leftover) (tokens : List String) (e : ParseError)
    (h : Statement.ofTokens leftover tokens = .error e) (t : String) (ht : t ∈ e.fault.found?) :
    t ∈ tokens := by
  have hlaw := Parser.callLaw_select leftover tokens (.start tokens) (Cursor.isIn_start tokens)
  rw [ofTokens_eq] at h
  cases hr : (Parser.select leftover).runFrom (.start tokens) with
  | mk result reached =>
    rw [← Cursor.start, hr] at h
    cases result with
    | ok selection => cases h
    | error e =>
      cases h
      rw [Parser.runFrom_map_of_error hr] at hlaw
      obtain ⟨_, hl⟩ := hlaw.failed e rfl
      exact List.mem_of_getElem? (hl.found t ht)

/-- The names of a statement that is read from a text without a line feed have none. -/
theorem lineFeed_notMem_name (settings : Settings) (sql : String) (statement : Statement)
    (hs : '\n' ∉ sql.toList) (h : Statement.ofText settings sql = .ok statement) :
    ∀ i ∈ statement.names, '\n' ∉ i.name.toList := by
  intro i hi
  obtain ⟨tokens, ht, t, hm, hn⟩ := exists_nameSpelling_of_ofText settings sql statement h i hi
  have hline : '\n' ∉ t.toList := fun h ↦ hs ((infix_of_mem_tokenize sql tokens ht t hm).subset h)
  cases hn with
  | bare _ _ _ => exact hline
  | quoted d _ =>
    rw [Delimiter.toList_quote] at hline
    simp at hline
    exact hline.2.1

/-- The words for the error of a text without a line feed have none. -/
theorem lineFeed_notMem_message (settings : Settings) (sql : String) (e : Error)
    (hs : '\n' ∉ sql.toList) (h : Statement.ofText settings sql = .error e) :
    '\n' ∉ e.message.toList := by
  unfold Error.message
  obtain ⟨l, _, rfl⟩ | ⟨tokens, p, ht, hp, rfl⟩ := ofText_eq_error settings sql e h
  · simp [l.lineFeed_notMem_message]
  · have hline : '\n' ∉ p.message.toList := by
      apply p.lineFeed_notMem_message
      intro t hf hc
      have hm := mem_of_found settings.leftover tokens p hp t hf
      exact hs ((infix_of_mem_tokenize sql tokens ht t hm).subset hc)
    simp [hline]

end Statement
end SelectFind
