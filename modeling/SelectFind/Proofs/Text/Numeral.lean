import SelectFind.Text.Decimal

/-!
# Numerals

A numeral is a row of one or more ASCII digits; zeros in front do not change its value. A signed
numeral has at most one sign in front. Reading a signed word of 64 bits accepts exactly the signed
numerals whose value fits it.
-/

namespace SelectFind.Text

/-- One or more ASCII digits of the given value. -/
structure Numeral (cs : List Char) (n : Nat) : Prop where
  ne_nil : cs ≠ []
  isDigit : ∀ c ∈ cs, c.isDigit = true
  value : Nat.ofDigitChars 10 cs 0 = n

/-- A numeral with at most one sign in front. -/
inductive SignedNumeral : List Char → Int → Prop
  | unsigned {cs : List Char} {n : Nat} (h : Numeral cs n) : SignedNumeral cs n
  | plus {cs : List Char} {n : Nat} (h : Numeral cs n) : SignedNumeral ('+' :: cs) n
  | minus {cs : List Char} {n : Nat} (h : Numeral cs n) : SignedNumeral ('-' :: cs) (-n)

/-- The digits of a numeral give its value. -/
theorem digits?_eq_some_iff (cs : List Char) (n : Nat) : digits? cs = some n ↔ Numeral cs n := by
  unfold digits?
  constructor
  · intro h
    split at h
    · next hc => exact ⟨hc.1, List.all_eq_true.mp hc.2, Option.some.inj h⟩
    · cases h
  · intro h
    rw [if_pos ⟨h.ne_nil, List.all_eq_true.mpr h.isDigit⟩, h.value]

/-- The shortest numeral of a number has its value. -/
theorem numeral_decimal (n : Nat) : Numeral (decimal n).toList n :=
  (digits?_eq_some_iff _ n).mp (digits?_decimal n)

private theorem digitChar_ne_zero : ∀ d < 10, 0 < d → Nat.digitChar d ≠ '0' := by
  decide

/-- The shortest numeral of a positive number starts with no zero. -/
theorem head?_decimal (n : Nat) (h : 0 < n) : (decimal n).toList.head? ≠ some '0' := by
  rw [decimal, String.toList_ofList]
  induction n using Nat.strongRecOn with
  | _ n ih =>
    rcases Nat.lt_or_ge n 10 with hn | hn
    · rw [Nat.toDigits_of_lt_base hn, List.head?_singleton, Ne, Option.some.injEq]
      exact digitChar_ne_zero n hn h
    · rw [Nat.toDigits_of_base_le (by decide) hn, List.head?_append]
      have hdiv := ih (n / 10) (by omega) (by omega)
      cases hd : Nat.toDigits 10 (n / 10) with
      | nil => exact absurd hd Nat.toDigits_ne_nil
      | cons c ds =>
        rw [hd] at hdiv
        exact hdiv

/-- The canonical numeral of a number has no zero in front, but for the single digit zero. -/
structure Canonical (cs : List Char) (n : Nat) : Prop extends Numeral cs n where
  zero_of_head : cs.head? = some '0' → cs = ['0'] ∧ n = 0

/-- Numbers are written canonically. -/
theorem canonical_decimal (n : Nat) : Canonical (decimal n).toList n where
  toNumeral := numeral_decimal n
  zero_of_head h := by
    obtain rfl | hn := Nat.eq_zero_or_pos n
    · exact ⟨rfl, rfl⟩
    · exact absurd h (head?_decimal n hn)

/-- Zeros in front of a numeral do not change its value. -/
theorem Numeral.zeros (k : Nat) (cs : List Char) (n : Nat) (h : Numeral cs n) :
    Numeral (List.replicate k '0' ++ cs) n where
  ne_nil := by simp [h.ne_nil]
  isDigit c hc := by
    rcases List.mem_append.mp hc with hz | hc
    · rw [List.eq_of_mem_replicate hz]
      decide
    · exact h.isDigit c hc
  value := by
    rw [Nat.ofDigitChars_append, Nat.ofDigitChars_replicate_zero, Nat.mul_zero, h.value]

-- Every digit counts for at least its own value, so no digit of a numeral of zero is another one.
private theorem eq_zero_of_ofDigitChars (cs : List Char) (hd : ∀ c ∈ cs, c.isDigit = true)
    (h : Nat.ofDigitChars 10 cs 0 = 0) : ∀ c ∈ cs, c = '0' := by
  induction cs with
  | nil => simp
  | cons c cs ih =>
    rw [List.forall_mem_cons] at hd ⊢
    rw [Nat.ofDigitChars_cons, Nat.ofDigitChars_eq_ofDigitChars_zero, Nat.add_eq_zero_iff,
      Nat.mul_zero, Nat.zero_add] at h
    refine ⟨?_, ih hd.2 h.2⟩
    have hc : c.toNat - '0'.toNat = 0 := by
      rcases Nat.mul_eq_zero.mp h.1 with hp | hc
      · exact absurd (Nat.pow_eq_zero.mp hp).1 (by decide)
      · exact hc
    have hle := (Char.isDigit_iff_toNat.mp hd.1).1
    exact Char.toNat_inj.mp (by omega)

/-- The numerals of zero are the rows of zeros. -/
theorem numeral_zero_iff (cs : List Char) :
    Numeral cs 0 ↔ ∃ k, cs = List.replicate (k + 1) '0' := by
  constructor
  · intro h
    have hz := List.eq_replicate_of_mem (eq_zero_of_ofDigitChars cs h.isDigit h.value)
    obtain ⟨k, hk⟩ := Nat.exists_eq_succ_of_ne_zero (mt List.length_eq_zero_iff.mp h.ne_nil)
    exact ⟨k, by rw [← Nat.succ_eq_add_one, ← hk]; exact hz⟩
  · rintro ⟨k, rfl⟩
    rw [List.replicate_succ']
    exact (numeral_decimal 0).zeros k

-- Neither sign is a digit, so a row that starts with a digit is read without a sign.
private theorem integer?_of_numeral (cs : List Char) (n : Nat) (h : Numeral cs n) :
    integer? cs = some (n : Int) := by
  have hd := (digits?_eq_some_iff cs n).mpr h
  unfold integer?
  split
  · exact absurd (h.isDigit '+' List.mem_cons_self) (by decide)
  · exact absurd (h.isDigit '-' List.mem_cons_self) (by decide)
  · rw [hd]; rfl

/-- Reading an integer accepts exactly the signed numerals. -/
theorem integer?_eq_some_iff (cs : List Char) (i : Int) :
    integer? cs = some i ↔ SignedNumeral cs i := by
  constructor
  · intro h
    unfold integer? at h
    split at h
    · obtain ⟨n, hn, rfl⟩ := Option.map_eq_some_iff.mp h
      exact .plus ((digits?_eq_some_iff _ n).mp hn)
    · obtain ⟨n, hn, rfl⟩ := Option.map_eq_some_iff.mp h
      exact .minus ((digits?_eq_some_iff _ n).mp hn)
    · obtain ⟨n, hn, rfl⟩ := Option.map_eq_some_iff.mp h
      exact .unsigned ((digits?_eq_some_iff _ n).mp hn)
  · intro h
    cases h with
    | unsigned h => exact integer?_of_numeral cs _ h
    | plus h => simp [integer?, (digits?_eq_some_iff _ _).mpr h]
    | minus h => simp [integer?, (digits?_eq_some_iff _ _).mpr h]

/-- A signed numeral holds a digit. -/
theorem SignedNumeral.exists_isDigit {cs : List Char} {i : Int} (h : SignedNumeral cs i) :
    ∃ c ∈ cs, c.isDigit = true := by
  have hdigits (cs : List Char) (n : Nat) (h : Numeral cs n) : ∃ c ∈ cs, c.isDigit = true := by
    obtain ⟨c, hc⟩ := List.exists_mem_of_ne_nil cs h.ne_nil
    exact ⟨c, hc, h.isDigit c hc⟩
  cases h with
  | unsigned h => exact hdigits _ _ h
  | plus h =>
    obtain ⟨c, hc, hd⟩ := hdigits _ _ h
    exact ⟨c, List.mem_cons_of_mem _ hc, hd⟩
  | minus h =>
    obtain ⟨c, hc, hd⟩ := hdigits _ _ h
    exact ⟨c, List.mem_cons_of_mem _ hc, hd⟩

/-- Folding leaves digits as they are. -/
theorem toLower_of_isDigit (c : Char) (h : c.isDigit = true) : c.toLower = c := by
  unfold Char.toLower
  split
  · next hu =>
    have hle := (Char.isDigit_iff_toNat.mp h).2
    exact absurd (Nat.le_trans hu.1 hle) (by decide)
  · rfl

/-- Reading a signed word of 64 bits accepts exactly the signed numerals that fit it. -/
theorem int64?_eq_some_iff (s : String) (i : Int) :
    int64? s = some i ↔
      SignedNumeral s.toList i ∧ Int64.minValue.toInt ≤ i ∧ i ≤ Int64.maxValue.toInt := by
  simp [int64?, Option.filter_eq_some_iff, integer?_eq_some_iff]

end SelectFind.Text
