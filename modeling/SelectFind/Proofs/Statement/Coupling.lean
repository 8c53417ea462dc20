import SelectFind.Proofs.Statement.Recognition

/-!
# Two runs side by side

Two rows of tokens are coupled if they are equally long and hold, at each place, tokens that are
read alike wherever they stand. A parser does the same on coupled rows: it succeeds in both runs
with the same value or fails in both with the same fault, up to the token that the fault quotes, and
it passes the same number of tokens. The runs may start at different positions; the distance between
these is kept. The notion is closed under running one parser behind another, so it is shown for what
a single token decides and carried through the parsers in the order in which they are built.
-/

namespace SelectFind

/-- No parser can tell one token from the other but by quoting it. -/
structure Token.Interchangeable (t u : String) : Prop where
  opens : ∀ c : Clause, c.opensWith t = c.opensWith u
  separator : t = Token.separator ↔ u = Token.separator
  wildcard : t = Token.wildcard ↔ u = Token.wildcard
  name : Identifier.ofToken t = Identifier.ofToken u
  integer : Text.int64? t = Text.int64? u

/-- A token is read as itself. -/
theorem Token.Interchangeable.refl (t : String) : Token.Interchangeable t t :=
  ⟨fun _ ↦ rfl, .rfl, .rfl, rfl, rfl⟩

section

variable (R : String → String → Prop) (shift : Nat)

/-- The faults differ at most in the tokens that they quote, and these are related. -/
inductive Fault.Coupled : Fault → Fault → Prop
  | mismatch (expected : Expected) {t u : String} (h : R t u) :
      Coupled (.mismatch expected t) (.mismatch expected u)
  | ended (expected : Expected) : Coupled (.ended expected) (.ended expected)
  | name (fault : NameFault) {t u : String} (h : R t u) : Coupled (.name t fault) (.name u fault)
  | integer {t u : String} (h : R t u) : Coupled (.integer t) (.integer u)
  | negative (c : Clause) (value : Int) : Coupled (.negative c value) (.negative c value)
  | condition : Coupled .condition .condition
  | leftover {t u : String} (h : R t u) : Coupled (.leftover t) (.leftover u)

/-- The errors have coupled faults, and the first stands at the greater index. -/
structure ParseError.Coupled (d e : ParseError) : Prop where
  index : d.index = e.index + shift
  fault : d.fault.Coupled R e.fault

/-- The places have coupled tokens ahead, and the first has the greater position. -/
structure Cursor.Coupled (p q : Cursor) : Prop where
  position : p.position = q.position + shift
  ahead : List.Forall₂ R p.ahead q.ahead

/-- As many tokens were ignored, from coupled places on. -/
structure Ignored.Coupled (i j : Ignored) : Prop where
  count : i.count = j.count
  token : R i.token j.token
  index : i.index = j.index + shift

/-- The same statement was selected, and it ended in the same way. -/
structure Selection.Coupled (a b : Selection) : Prop where
  statement : a.statement = b.statement
  endsAtTable : a.endsAtTable = b.endsAtTable
  ignored : Option.Rel (Ignored.Coupled R shift) a.ignored b.ignored

namespace Parser

variable {α β : Type}

/-- Both runs succeeded with related values, or both failed with coupled errors, and they stopped at
coupled places. -/
inductive CoupledResults (V : α → β → Prop) :
    Except ParseError α × Cursor → Except ParseError β × Cursor → Prop
  | ok {a : α} {b : β} {p q : Cursor} (hv : V a b) (hc : p.Coupled R shift q) :
      CoupledResults V (.ok a, p) (.ok b, q)
  | error {d e : ParseError} {p q : Cursor} (he : d.Coupled R shift e)
      (hc : p.Coupled R shift q) : CoupledResults V (.error d, p) (.error e, q)

/-- The parsers have coupled results wherever they start from coupled places. -/
def Coupled (V : α → β → Prop) (p : Parser α) (q : Parser β) : Prop :=
  ∀ a b : Cursor, a.Coupled R shift b → CoupledResults R shift V (p.runFrom a) (q.runFrom b)

end Parser

end

namespace Parser

variable {α β γ δ : Type} {R : String → String → Prop} {shift : Nat}

/-! ### Closure -/

private theorem CoupledResults.bind {V : α → β → Prop} {W : γ → δ → Prop} {p : Parser α}
    {q : Parser β} {f : α → Parser γ} {g : β → Parser δ} {a b : Cursor}
    (h : CoupledResults R shift V (p.runFrom a) (q.runFrom b))
    (hf : ∀ x y a' b', p.runFrom a = (.ok x, a') → V x y → a'.Coupled R shift b' →
      CoupledResults R shift W ((f x).runFrom a') ((g y).runFrom b')) :
    CoupledResults R shift W ((p >>= f).runFrom a) ((q >>= g).runFrom b) := by
  generalize hp : p.runFrom a = r at h hf
  generalize hq : q.runFrom b = s at h
  cases h with
  | ok hv hc =>
    rw [runFrom_bind_of_ok hp, runFrom_bind_of_ok hq]
    exact hf _ _ _ _ rfl hv hc
  | error he hc =>
    rw [runFrom_bind_of_error hp, runFrom_bind_of_error hq]
    exact .error he hc

/-- Coupled parsers in a row are coupled. -/
theorem Coupled.bind {V : α → β → Prop} {W : γ → δ → Prop} {p : Parser α} {q : Parser β}
    {f : α → Parser γ} {g : β → Parser δ} (h : Coupled R shift V p q)
    (hf : ∀ x y, V x y → Coupled R shift W (f x) (g y)) :
    Coupled R shift W (p >>= f) (q >>= g) := by
  intro a b hab
  exact (h a b hab).bind fun x y a' b' _ hv hc ↦ hf x y hv a' b' hc

/-- Values without a parser are coupled if they are related. -/
theorem coupled_pure {V : α → β → Prop} {a : α} {b : β} (h : V a b) :
    Coupled R shift V (pure a) (pure b) := fun _ _ hc ↦ .ok h hc

private theorem coupled_fail {V : α → β → Prop} {f g : Fault} (h : f.Coupled R g) :
    Coupled R shift V (fail f) (fail g) := fun _ _ hc ↦ .error ⟨hc.position, h⟩ hc

private theorem coupled_pass : Coupled R shift Eq pass pass := by
  rintro ⟨p, tokens⟩ ⟨q, tokens'⟩ ⟨hp, ha⟩
  refine .ok rfl ⟨?_, ?_⟩
  · dsimp only [Cursor.next] at hp ⊢
    omega
  · cases ha with
    | nil => exact .nil
    | cons _ ha => exact ha

private theorem coupled_ahead : Coupled R shift (List.Forall₂ R) ahead ahead :=
  fun _ _ hc ↦ .ok hc.ahead hc

/-! ### Single tokens -/

private theorem coupled_require (expected : Expected) :
    Coupled R shift R (require expected) (require expected) := by
  apply coupled_ahead.bind
  intro tokens tokens' h
  cases h with
  | nil => exact coupled_fail (.ended expected)
  | cons h _ => exact coupled_pure h

private theorem coupled_token (expected : Expected) (read : String → Except Fault α)
    (h : ∀ t u, R t u → (∃ a, read t = .ok a ∧ read u = .ok a) ∨
      ∃ f g, read t = .error f ∧ read u = .error g ∧ f.Coupled R g) :
    Coupled R shift Eq (token expected read) (token expected read) := by
  apply (coupled_require expected).bind
  intro t u hr
  obtain ⟨a, ht, hu⟩ | ⟨f, g, ht, hu, hf⟩ := h t u hr
  · rw [ht, hu]
    exact coupled_pass.bind fun _ _ _ ↦ coupled_pure rfl
  · rw [ht, hu]
    exact coupled_fail hf

/-- A reader that knows the same values of related tokens makes a coupled parser. -/
theorem coupled_accept (expected : Expected) (read? : String → Option α)
    (h : ∀ t u, R t u → read? t = read? u) :
    Coupled R shift Eq (accept expected read?) (accept expected read?) := by
  apply coupled_token
  intro t u hr
  rw [h t u hr]
  cases read? u with
  | some a => exact .inl ⟨a, rfl, rfl⟩
  | none => exact .inr ⟨_, _, rfl, rfl, .mismatch expected hr⟩

section

variable (hR : ∀ t u, R t u → Token.Interchangeable t u)

include hR

private theorem coupled_clause (c : Clause) : Coupled R shift Eq (clause c) (clause c) := by
  apply coupled_accept
  intro t u h
  rw [(hR t u h).opens c]

private theorem coupled_atClause (c : Clause) : Coupled R shift Eq (atClause c) (atClause c) := by
  apply coupled_ahead.bind
  intro tokens tokens' h
  apply coupled_pure
  cases h with
  | nil => rfl
  | cons h _ => simp [(hR _ _ h).opens c]

private theorem coupled_name (expected : Expected) :
    Coupled R shift Eq (name expected) (name expected) := by
  apply coupled_token
  intro t u h
  rw [(hR t u h).name]
  cases Identifier.ofToken u with
  | ok i => exact .inl ⟨i, rfl, rfl⟩
  | error fault => exact .inr ⟨_, _, rfl, rfl, .name fault h⟩

private theorem coupled_count (c : Clause) : Coupled R shift Eq (count c) (count c) := by
  apply coupled_token
  intro t u h
  unfold countOf
  rw [(hR t u h).integer]
  cases Text.int64? u with
  | none => exact .inr ⟨_, _, rfl, rfl, .integer h⟩
  | some value =>
    cases value with
    | ofNat n => exact .inl ⟨_, rfl, rfl⟩
    | negSucc n => exact .inr ⟨_, _, rfl, rfl, .negative c _⟩

/-! ### Parts of a statement -/

private theorem coupled_otherColumns : Coupled R shift Eq otherColumns otherColumns := by
  rintro ⟨p, tokens⟩ ⟨q, tokens'⟩ ⟨hp, ha⟩
  -- Each column passes two tokens, so the induction is on the number of tokens ahead.
  induction hn : tokens.length using Nat.strongRecOn generalizing p q tokens tokens' with
  | ind n ih =>
    cases ha with
    | nil => exact .ok rfl ⟨hp, .nil⟩
    | @cons t u tokens tokens' h ha =>
      have hs := (hR t u h).separator
      by_cases ht : t = Token.separator
      · obtain rfl := hs.mp ht
        subst ht
        rw [runFrom_otherColumns_separator, runFrom_otherColumns_separator]
        have hc : Cursor.Coupled R shift ⟨p, Token.separator :: tokens⟩
            ⟨q, Token.separator :: tokens'⟩ := ⟨hp, .cons h ha⟩
        apply (coupled_pass _ _ hc).bind
        intro _ _ a b hpass _ hab
        apply (coupled_name hR .columnName a b hab).bind
        rintro i _ ⟨p', rest⟩ ⟨q', rest'⟩ hname rfl hc
        obtain ⟨_, hrest, _, t, rfl, _⟩ := (recognizes_name .columnName).passed hname
        cases hpass
        have hlt : rest.length < n := by
          simp only [Cursor.next, List.tail_cons] at hrest
          simp only [← hn, hrest, List.length_cons, List.length_append, List.length_nil]
          omega
        apply (ih rest.length hlt p' rest q' rest' hc.position hc.ahead rfl).bind
        rintro is _ a b _ rfl hab
        exact .ok rfl hab
      · have hu : u ≠ Token.separator := fun he ↦ ht (hs.mpr he)
        rw [runFrom_otherColumns_of_ne p _ (by simpa using ht),
          runFrom_otherColumns_of_ne q _ (by simpa using hu)]
        exact .ok rfl ⟨hp, .cons h ha⟩

private theorem coupled_columns : Coupled R shift Eq columns columns := by
  apply (coupled_require .columnList).bind
  intro t u h
  have hw : (t == Token.wildcard) = (u == Token.wildcard) := by
    rw [Bool.eq_iff_iff, beq_iff_eq, beq_iff_eq]
    exact (hR t u h).wildcard
  rw [hw]
  split
  · exact coupled_pass.bind fun _ _ _ ↦ coupled_pure rfl
  · apply (coupled_name hR .columnName).bind
    rintro first _ rfl
    apply (coupled_otherColumns hR).bind
    rintro others _ rfl
    exact coupled_pure rfl

private theorem coupled_countClause (c : Clause) :
    Coupled R shift Eq (countClause c) (countClause c) := by
  apply (coupled_atClause hR c).bind
  rintro present _ rfl
  split
  · apply coupled_pass.bind
    intro _ _ _
    apply (coupled_count hR c).bind
    rintro n _ rfl
    exact coupled_pure rfl
  · exact coupled_pure rfl

end

private theorem coupled_finish (leftover : Leftover) :
    Coupled R shift (Option.Rel (Ignored.Coupled R shift)) (finish leftover) (finish leftover) := by
  rintro ⟨p, tokens⟩ ⟨q, tokens'⟩ ⟨hp, ha⟩
  cases ha with
  | nil => exact .ok .none ⟨hp, .nil⟩
  | cons h ha =>
    cases leftover with
    | reject => exact .error ⟨hp, .leftover h⟩ ⟨hp, .cons h ha⟩
    | ignore =>
      have hl := (List.Forall₂.cons h ha).length_eq
      refine .ok (.some ⟨hl, h, hp⟩) ⟨?_, .nil⟩
      dsimp only [Cursor.toEnd] at hp ⊢
      omega

section

variable (hR : ∀ t u, R t u → Token.Interchangeable t u)

include hR

private theorem coupled_clauses (leftover : Leftover) (columns : Option Columns)
    (table : Identifier) :
    Coupled R shift (Selection.Coupled R shift) (clauses leftover columns table)
      (clauses leftover columns table) := by
  apply coupled_ahead.bind
  intro tokens tokens' h
  have he : tokens.isEmpty = tokens'.isEmpty := by cases h <;> rfl
  rw [he]
  split
  · exact coupled_pure ⟨rfl, rfl, .none⟩
  · apply (coupled_atClause hR .condition).bind
    rintro condition _ rfl
    split
    · exact coupled_fail .condition
    · apply (coupled_countClause hR .offset).bind
      rintro offset _ rfl
      apply (coupled_countClause hR .limit).bind
      rintro limit _ rfl
      apply (coupled_finish leftover).bind
      intro i j hij
      exact coupled_pure ⟨rfl, rfl, hij⟩

/-- Coupled rows select the same statement, or fail alike. -/
theorem coupled_select (leftover : Leftover) :
    Coupled R shift (Selection.Coupled R shift) (select leftover) (select leftover) := by
  apply (coupled_clause hR .select).bind
  intro _ _ _
  apply (coupled_columns hR).bind
  rintro columns _ rfl
  apply (coupled_clause hR .source).bind
  intro _ _ _
  apply (coupled_name hR .tableName).bind
  rintro table _ rfl
  exact coupled_clauses hR leftover columns table

end

end Parser
end SelectFind
