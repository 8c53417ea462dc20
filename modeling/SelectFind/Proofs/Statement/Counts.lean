import SelectFind.Proofs.Statement.Refusal

/-!
# Counts

The token behind the word of a clause of counts is read as a signed word of 64 bits. Digits with a
plus sign or none in front are accepted, and zeros also behind a minus sign. Other digits behind a
minus sign are a negative count, and any other token is no integer. A count is written with its
canonical numeral, whatever it was read from.
-/

namespace SelectFind

/-- The token is accepted as a count: digits with a plus sign or none in front, whose value fits a
signed word of 64 bits, or a minus sign and one or more zeros. -/
inductive CountNumeral (t : String) (n : UInt64) : Prop
  | unsigned (hd : Text.Numeral t.toList n.toNat) (hn : FitsSigned n)
  | plus (digits : List Char) (ht : t.toList = '+' :: digits)
      (hd : Text.Numeral digits n.toNat) (hn : FitsSigned n)
  | minusZero (k : Nat) (ht : t.toList = '-' :: List.replicate (k + 1) '0') (hn : n = 0)

/-- The token is refused as negative: a minus sign and digits whose value is not zero and, with its
sign, fits a signed word of 64 bits. -/
inductive NegativeNumeral (t : String) (value : Int) : Prop
  | minus (digits : List Char) (n : Nat) (ht : t.toList = '-' :: digits)
      (hd : Text.Numeral digits n) (hpos : 0 < n) (hv : value = -n)
      (hle : Int64.minValue.toInt ≤ value)

/-! ### One token -/

private theorem countToken_iff (t : String) (n : UInt64) : CountToken t n ↔ CountNumeral t n := by
  constructor
  · rintro ⟨hs, hn⟩
    generalize hcs : t.toList = cs at hs
    generalize hi : (n.toNat : Int) = i at hs
    cases hs with
    | unsigned hd =>
      obtain rfl := Int.ofNat.inj hi
      exact .unsigned (hcs ▸ hd) hn
    | plus hd =>
      obtain rfl := Int.ofNat.inj hi
      exact .plus _ hcs hd hn
    | @minus cs m hd =>
      -- The value is negated and yet not negative, so the digits are zeros.
      obtain ⟨rfl, hzero⟩ : m = 0 ∧ n.toNat = 0 := by omega
      obtain ⟨k, rfl⟩ := (Text.numeral_zero_iff cs).mp hd
      exact .minusZero k hcs (UInt64.toNat_inj.mp hzero)
  · intro h
    cases h with
    | unsigned hd hn => exact ⟨.unsigned hd, hn⟩
    | plus digits ht hd hn => exact ⟨ht ▸ .plus hd, hn⟩
    | minusZero k ht hn =>
      subst hn
      refine ⟨?_, countToken_zero.2⟩
      rw [ht]
      exact .minus ((Text.numeral_zero_iff _).mpr ⟨k, rfl⟩)

private theorem int64?_negative_iff (t : String) (value : Int) :
    Text.int64? t = some value ∧ value < 0 ↔ NegativeNumeral t value := by
  rw [Text.int64?_eq_some_iff]
  constructor
  · rintro ⟨⟨hs, hle, _⟩, hlt⟩
    generalize hcs : t.toList = cs at hs
    cases hs with
    | unsigned hd => omega
    | plus hd => omega
    | @minus cs n hd => exact .minus cs n hcs hd (by omega) rfl hle
  · rintro ⟨digits, n, ht, hd, hpos, rfl, hle⟩
    refine ⟨⟨ht ▸ .minus hd, hle, ?_⟩, by omega⟩
    rw [Int64.toInt_maxValue]
    omega

/-- What is decided of a token in the place of a count: when it is accepted, when it is refused as
negative, and when it is refused as no integer. -/
structure CountLaw (t : String) (accepted : UInt64 → Prop) (negative : Int → Prop)
    (refused : Prop) : Prop where
  accepted_iff : ∀ n, accepted n ↔ CountNumeral t n
  negative_iff : ∀ value, negative value ↔ NegativeNumeral t value
  refused_iff : refused ↔ (∀ n, ¬CountNumeral t n) ∧ ∀ value, ¬NegativeNumeral t value

namespace Parser

private theorem countLaw_countOf (c : Clause) (t : String) :
    CountLaw t (fun n ↦ countOf c t = .ok n) (fun value ↦ countOf c t = .error (.negative c value))
      (countOf c t = .error (.integer t)) := by
  have hok (n : UInt64) : countOf c t = .ok n ↔ CountNumeral t n := by
    rw [countOf_eq_ok_iff, countToken_iff]
  have hnegative (value : Int) :
      countOf c t = .error (.negative c value) ↔ NegativeNumeral t value := by
    rw [countOf_eq_negative_iff, int64?_negative_iff, and_iff_right rfl]
  refine ⟨hok, hnegative, ?_⟩
  simp only [← hok, ← hnegative]
  constructor
  · intro h
    simp [h]
  · rintro ⟨hnot, hnotNegative⟩
    cases h : countOf c t with
    | ok n => exact absurd h (hnot n)
    | error fault =>
      obtain rfl | ⟨value, rfl⟩ := countOf_eq_error c t fault h
      · rfl
      · exact absurd h (hnotNegative value)

variable {α : Type}

private theorem runFrom_token_eq_ok_iff (expected : Expected) (read : String → Except Fault α)
    (position : Nat) (t : String) (rest : List String) (a : α) :
    (token expected read).runFrom ⟨position, t :: rest⟩ = (.ok a, ⟨position + 1, rest⟩) ↔
      read t = .ok a := by
  cases h : read t with
  | ok b => simp [runFrom_token_ok expected read position t rest b h]
  | error fault => simp [runFrom_token_error expected read position t rest fault h]

private theorem runFrom_token_eq_error_iff (expected : Expected) (read : String → Except Fault α)
    (position : Nat) (t : String) (rest : List String) (fault : Fault) :
    (token expected read).runFrom ⟨position, t :: rest⟩ =
        (.error ⟨position, fault⟩, ⟨position, t :: rest⟩) ↔ read t = .error fault := by
  cases h : read t with
  | ok b => simp [runFrom_token_ok expected read position t rest b h]
  | error found => simp [runFrom_token_error expected read position t rest found h]

end Parser

/-! ### The argument of a clause -/

namespace Statement

/-- The next token is the argument of a clause: behind a statement that admits the clause stands its
word. -/
structure BeforeCount (front : List String) (statement : Statement) (c : Clause) (word : String) :
    Prop where
  read : Statement.ofTokens .reject front = .ok statement
  admits : statement.Admits c
  ne_condition : c ≠ .condition
  opens : c.opensWith word = true

private theorem withCount_inj (statement : Statement) (c : Clause) (ha : statement.Admits c)
    (hc : c ≠ .condition) (n m : UInt64) :
    statement.withCount c n = statement.withCount c m ↔ n = m := by
  cases ha with
  | condition => exact absurd rfl hc
  | offset => simp [withCount]
  | limit => simp [withCount]

private theorem ofTokens_reject_of_error (leftover : Leftover) (tokens : List String)
    (e : ParseError) (h : Statement.ofTokens leftover tokens = .error e) :
    Statement.ofTokens .reject tokens = .error e := by
  cases leftover with
  | reject => exact h
  | ignore =>
    rw [ofTokens_eq, ← Cursor.start] at h ⊢
    obtain ⟨_, _, _, hr⟩ | ⟨e', cursor, _, hr⟩ | ⟨_, _, _, _, _, _, _, hi⟩ :=
      Parser.select_reject_ignore_cases tokens
    · rw [hr .ignore] at h
      cases h
    · rw [hr .ignore] at h
      rw [hr .reject]
      exact h
    · rw [hi] at h
      cases h

variable {front : List String} {statement : Statement} {c : Clause} {word : String}

private theorem BeforeCount.ofTokens_ok (h : BeforeCount front statement c word)
    (leftover : Leftover) (t : String) (n : UInt64) (hn : Parser.countOf c t = .ok n) :
    Statement.ofTokens leftover (front ++ [word, t]) = .ok (statement.withCount c n) := by
  have hs := statementTokens_of_ofTokens front statement h.read
  exact ofTokens_of_statementTokens leftover _ _ (hs.concat_clause front statement c h.admits
    h.ne_condition word t n h.opens ((Parser.countOf_eq_ok_iff c t n).mp hn))

private theorem BeforeCount.ofTokens_error (h : BeforeCount front statement c word)
    (leftover : Leftover) (t : String) (rest : List String) (fault : Fault)
    (hf : Parser.countOf c t = .error fault) :
    Statement.ofTokens leftover (front ++ word :: t :: rest) =
      .error ⟨front.length + 1, fault⟩ :=
  ofTokens_count_error leftover front statement (statementTokens_of_ofTokens front statement h.read)
    c h.admits h.ne_condition word t h.opens fault hf rest

private theorem BeforeCount.ofTokens_eq_ok_iff (h : BeforeCount front statement c word)
    (leftover : Leftover) (t : String) (n : UInt64) :
    Statement.ofTokens leftover (front ++ [word, t]) = .ok (statement.withCount c n) ↔
      Parser.countOf c t = .ok n := by
  cases hr : Parser.countOf c t with
  | ok m =>
    rw [h.ofTokens_ok leftover t m hr, Except.ok.injEq, Except.ok.injEq,
      withCount_inj statement c h.admits h.ne_condition]
  | error fault => simp [h.ofTokens_error leftover t [] fault hr]

private theorem BeforeCount.ofTokens_eq_error_iff (h : BeforeCount front statement c word)
    (leftover : Leftover) (t : String) (rest : List String) (fault : Fault) :
    Statement.ofTokens leftover (front ++ word :: t :: rest) =
        .error ⟨front.length + 1, fault⟩ ↔ Parser.countOf c t = .error fault := by
  cases hr : Parser.countOf c t with
  | error found =>
    rw [h.ofTokens_error leftover t rest found hr]
    simp
  | ok n =>
    simp only [reduceCtorEq, iff_false]
    intro he
    -- The tokens up to the argument are a statement, so no failure is found among them.
    have hv : Viable ((front ++ word :: t :: rest).take (front.length + 2)) := by
      rw [List.take_length_add_append]
      exact ⟨[], statement.withCount c n, by simpa using h.ofTokens_ok .reject t n hr⟩
    have hle := le_index_of_viable_take _ _ (ofTokens_reject_of_error leftover _ _ he)
      (front.length + 2) (by simp) hv
    dsimp only at hle
    omega

end Statement

/-! ### Written counts -/

namespace Find

/-- The text of a call with a count, which may be absent: the count stands between the parentheses
as its canonical numeral. -/
inductive CountText (method : String) : Option UInt64 → String → Prop
  | absent : CountText method none ""
  | present {n : UInt64} {digits : String} (h : Text.Canonical digits.toList n.toNat) :
      CountText method (some n) ("." ++ method ++ "(" ++ digits ++ ")")

private theorem countText_countCall (method : String) (count : Option UInt64) :
    CountText method count (countCall method count) := by
  cases count with
  | none => exact .absent
  | some n => exact .present (Text.canonical_decimal n.toNat)

end Find

/-- Counts are read exactly and written faithfully. A token in the place of a count is accepted,
refused as negative or refused as no integer by its characters alone, wherever it stands and
whatever follows it; so a statement has the count, or fails, as the argument of its clause decides.
In a query both counts stand as their canonical numerals. -/
theorem counts_read_exactly_and_written_canonically (t : String) :
    (∀ c position rest, CountLaw t
      (fun n ↦ (Parser.count c).runFrom ⟨position, t :: rest⟩ = (.ok n, ⟨position + 1, rest⟩))
      (fun value ↦ (Parser.count c).runFrom ⟨position, t :: rest⟩ =
        (.error ⟨position, .negative c value⟩, ⟨position, t :: rest⟩))
      ((Parser.count c).runFrom ⟨position, t :: rest⟩ =
        (.error ⟨position, .integer t⟩, ⟨position, t :: rest⟩))) ∧
    (∀ front statement c word, Statement.BeforeCount front statement c word →
      ∀ leftover rest, CountLaw t
        (fun n ↦ Statement.ofTokens leftover (front ++ [word, t]) = .ok (statement.withCount c n))
        (fun value ↦ Statement.ofTokens leftover (front ++ word :: t :: rest) =
          .error ⟨front.length + 1, .negative c value⟩)
        (Statement.ofTokens leftover (front ++ word :: t :: rest) =
          .error ⟨front.length + 1, .integer t⟩)) ∧
    ∀ database statement, statement.condition = none →
      ∃ skip limit, Find.CountText "skip" statement.offset skip ∧
        Find.CountText "limit" statement.limit limit ∧
        Find.query database statement =
          .ok (database ++ (Find.collection statement.table ++ ".find(" ++
            Find.arguments statement.columns ++ ")" ++ skip ++ limit)) := by
  refine ⟨?_, ?_, ?_⟩
  · intro c position rest
    have hlaw := Parser.countLaw_countOf c t
    simp only [← Parser.runFrom_token_eq_ok_iff .integer (Parser.countOf c) position t rest,
      ← Parser.runFrom_token_eq_error_iff .integer (Parser.countOf c) position t rest] at hlaw
    exact hlaw
  · intro front statement c word h leftover rest
    have hlaw := Parser.countLaw_countOf c t
    simp only [← h.ofTokens_eq_ok_iff leftover t, ← h.ofTokens_eq_error_iff leftover t rest] at hlaw
    exact hlaw
  · intro database statement hc
    refine ⟨_, _, Find.countText_countCall "skip" statement.offset,
      Find.countText_countCall "limit" statement.limit, ?_⟩
    rw [Find.query, hc]
    rfl

/-- The lowest integer of 64 bits as a limit behind an offset, in front of a token that would be
ignored. -/
theorem counts_read_exactly_and_written_canonically_lowest :
    Statement.BeforeCount ["select", "*", "From", "t", "OFFSET", "+007"]
        ⟨⟨"t", false⟩, none, none, some 7, none⟩ .limit "Limit" ∧
      NegativeNumeral "-09223372036854775808" (-9223372036854775808) ∧
      Statement.ofTokens .ignore
        ["select", "*", "From", "t", "OFFSET", "+007", "Limit", "-09223372036854775808", "x"] =
        .error ⟨7, .negative .limit (-9223372036854775808)⟩ := by
  have hplace : Statement.BeforeCount ["select", "*", "From", "t", "OFFSET", "+007"]
      ⟨⟨"t", false⟩, none, none, some 7, none⟩ .limit "Limit" :=
    { read := by decide +kernel
      admits := .limit rfl
      ne_condition := by decide
      opens := by decide }
  have ht : NegativeNumeral "-09223372036854775808" (-9223372036854775808) :=
    .minus "09223372036854775808".toList 9223372036854775808 rfl
      ((Text.digits?_eq_some_iff _ _).mp (by decide)) (by decide) rfl (by decide)
  have hlaw := (counts_read_exactly_and_written_canonically "-09223372036854775808").2.1 _ _ _ _
    hplace .ignore ["x"]
  exact ⟨hplace, ht, (hlaw.negative_iff _).mpr ht⟩

end SelectFind
