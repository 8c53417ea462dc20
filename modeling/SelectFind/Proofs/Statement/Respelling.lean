import SelectFind.Proofs.Statement.Coupling
import SelectFind.Proofs.Statement.Spelling

/-!
# Reserved words in another case

A reserved word can stand where a word is required, but also where a column, a table or a count is,
and behind the statement. Each of these places has its own test: equality with a mark, the word of a
clause, the reserved words, the signs and digits of a number. None of them tells two spellings of a
reserved word apart, so a row of tokens may be respelled without any effect but on what is quoted.
-/

namespace SelectFind

/-- The tokens are equal, or two spellings of one reserved word, which differ in case only. -/
def Respelled (t u : String) : Prop :=
  t = u ∨ ∃ c : Clause, c.opensWith t = true ∧ c.opensWith u = true

/-! ### A reserved word in each place -/

namespace Clause

variable {c : Clause} {t : String}

private theorem opensWith_wildcard (c : Clause) : c.opensWith Token.wildcard = false := by
  cases c <;> decide

/-- In place of a name a reserved word is refused as such, in any case. -/
theorem ofToken_of_opensWith (h : c.opensWith t = true) :
    Identifier.ofToken t = .error .reserved := by
  have hb := Token.isBareToken_of_opensWith c t h
  have hs : t ≠ Token.separator := by
    rintro rfl
    rw [opensWith_separator] at h
    cases h
  have hw : t ≠ Token.wildcard := by
    rintro rfl
    rw [opensWith_wildcard] at h
    cases h
  obtain ⟨x, xs, hx⟩ : ∃ x xs, t.toList = x :: xs :=
    List.exists_cons_of_ne_nil fun he ↦ hb.ne_empty (String.toList_eq_nil_iff.mp he)
  have hd : Delimiter.ofChar? x = none := by
    apply Delimiter.ofChar?_eq_none_iff.mpr
    intro d hd
    exact hb.unquoted d (by rw [hx, hd]; rfl)
  simp [Identifier.ofToken, hx, hd, hs, hw, isReserved_iff.mpr ⟨c, h⟩]

private theorem int64?_of_opensWith (h : c.opensWith t = true) : Text.int64? t = none := by
  rw [Option.eq_none_iff_forall_ne_some]
  intro i hi
  obtain ⟨x, hx, hd⟩ := ((Text.int64?_eq_some_iff t i).mp hi).1.exists_isDigit
  have hm : x.toLower ∈ Text.folded c.word := Text.sameWord_iff.mp h ▸ List.mem_map_of_mem hx
  have hl : (Text.folded c.word).all fun y ↦ !y.isDigit := by cases c <;> decide
  have hnot := List.all_eq_true.mp hl _ hm
  rw [Text.toLower_of_isDigit x hd, hd] at hnot
  cases hnot

end Clause

namespace Respelled

variable {t u : String}

private theorem sameWord (h : Respelled t u) : Text.sameWord t u = true := by
  rcases h with rfl | ⟨c, ht, hu⟩
  · exact Text.sameWord_refl t
  · exact Text.sameWord_iff.mpr ((Text.sameWord_iff.mp ht).trans (Text.sameWord_iff.mp hu).symm)

private theorem interchangeable (h : Respelled t u) : Token.Interchangeable t u := by
  have hf := Text.sameWord_iff.mp h.sameWord
  rcases h with rfl | ⟨c, ht, hu⟩
  · exact .refl t
  · have hmark (mark : String) (hm : c.opensWith mark = false) : t = mark ↔ u = mark := by
      constructor
      · rintro rfl
        rw [hm] at ht
        cases ht
      · rintro rfl
        rw [hm] at hu
        cases hu
    exact
      { opens := fun e ↦ by
          rw [Clause.opensWith, Clause.opensWith, Text.sameWord, Text.sameWord, hf]
        separator := hmark _ c.opensWith_separator
        wildcard := hmark _ c.opensWith_wildcard
        name := by rw [Clause.ofToken_of_opensWith ht, Clause.ofToken_of_opensWith hu]
        integer := by rw [Clause.int64?_of_opensWith ht, Clause.int64?_of_opensWith hu] }

end Respelled

/-! ### Respelled rows -/

private theorem Fault.Coupled.mono {R S : String → String → Prop} {f g : Fault} (h : f.Coupled R g)
    (hrs : ∀ t u, R t u → S t u) : f.Coupled S g := by
  cases h with
  | mismatch expected h => exact .mismatch expected (hrs _ _ h)
  | ended expected => exact .ended expected
  | name fault h => exact .name fault (hrs _ _ h)
  | integer h => exact .integer (hrs _ _ h)
  | negative c value => exact .negative c value
  | condition => exact .condition
  | leftover h => exact .leftover (hrs _ _ h)

namespace Parser

/-- The case of reserved words never matters, whatever is done with leftover tokens: rows that
differ in it only select the same statement, or fail at the same index with the same fault, whose
quoted token differs at most in case. Either way they are left at the same position. -/
theorem select_respelled (leftover : Leftover) (tokens respelled : List String)
    (h : List.Forall₂ Respelled tokens respelled) :
    (∃ a b p q, (select leftover).runFrom (.start tokens) = (.ok a, p) ∧
      (select leftover).runFrom (.start respelled) = (.ok b, q) ∧
      a.statement = b.statement ∧ p.position = q.position) ∨
    (∃ d e p q, (select leftover).runFrom (.start tokens) = (.error d, p) ∧
      (select leftover).runFrom (.start respelled) = (.error e, q) ∧
      d.index = e.index ∧ d.fault.Coupled (fun t u ↦ Text.sameWord t u = true) e.fault ∧
      p.position = q.position) := by
  have hstart : (Cursor.start tokens).Coupled Respelled 0 (.start respelled) := ⟨rfl, h⟩
  have hr := coupled_select (fun _ _ ↦ Respelled.interchangeable) leftover _ _ hstart
  generalize (select leftover).runFrom (.start tokens) = r at hr ⊢
  generalize (select leftover).runFrom (.start respelled) = s at hr ⊢
  cases hr with
  | ok hv hc => exact .inl ⟨_, _, _, _, rfl, rfl, hv.statement, hc.position⟩
  | error he hc =>
    have hf := he.fault.mono fun _ _ ↦ Respelled.sameWord
    exact .inr ⟨_, _, _, _, rfl, rfl, he.index, hf, hc.position⟩

/-- Reserved words as words, in place of a count and inside a quoted name, where the case counts. -/
theorem select_respelled_count :
    List.Forall₂ Respelled ["SELECT", "a", ",", "`from`", "FROM", "t", "limit", "OFFSET"]
        ["sELECT", "a", ",", "`from`", "from", "t", "LIMIT", "Offset"] ∧
      ∃ e, ((select .ignore).runFrom
          (.start ["sELECT", "a", ",", "`from`", "from", "t", "LIMIT", "Offset"])).1 = .error e ∧
        e.index = 7 ∧
        (Fault.integer "OFFSET").Coupled (fun t u ↦ Text.sameWord t u = true) e.fault := by
  have h : List.Forall₂ Respelled ["SELECT", "a", ",", "`from`", "FROM", "t", "limit", "OFFSET"]
      ["sELECT", "a", ",", "`from`", "from", "t", "LIMIT", "Offset"] :=
    .cons (.inr ⟨.select, by decide, by decide⟩) <| .cons (.inl rfl) <| .cons (.inl rfl) <|
    .cons (.inl rfl) <| .cons (.inr ⟨.source, by decide, by decide⟩) <| .cons (.inl rfl) <|
    .cons (.inr ⟨.limit, by decide, by decide⟩) <|
    .cons (.inr ⟨.offset, by decide, by decide⟩) .nil
  have hrun : (select .ignore).runFrom
      (.start ["SELECT", "a", ",", "`from`", "FROM", "t", "limit", "OFFSET"]) =
      (.error ⟨7, .integer "OFFSET"⟩, ⟨7, ["OFFSET"]⟩) := by
    decide +kernel
  obtain ⟨_, _, _, _, ht, _⟩ | ⟨d, e, _, _, ht, hu, hi, hf, _⟩ := select_respelled .ignore _ _ h
  · rw [hrun] at ht
    cases ht
  · rw [hrun] at ht
    cases ht
    exact ⟨h, e, by rw [hu], hi.symm, hf⟩

end Parser
end SelectFind
