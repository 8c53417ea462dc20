/-!
# Decimal numerals

Numbers are written without sign or leading zero. They are read from ASCII digits, with any number
of leading zeros, and for a signed word with at most one sign in front.
Spec guidance: translator specification §4.2.
-/

namespace SelectFind.Text

/-- The shortest decimal numeral of `n`. -/
def decimal (n : Nat) : String := String.ofList (Nat.toDigits 10 n)

/-- A numeral with a minus sign in front of a negative number. -/
def signedDecimal : Int → String
  | .ofNat n => decimal n
  | .negSucc n => "-" ++ decimal (n + 1)

/-- The value of a row of one or more ASCII digits. -/
def digits? (cs : List Char) : Option Nat :=
  if cs ≠ [] ∧ cs.all Char.isDigit then some (Nat.ofDigitChars 10 cs 0) else none

/-- The integer of an optional sign and a row of one or more ASCII digits. -/
def integer? : List Char → Option Int
  | '+' :: cs => (digits? cs).map Int.ofNat
  | '-' :: cs => (digits? cs).map fun (n : Nat) => -(n : Int)
  | cs => (digits? cs).map Int.ofNat

/-- The integer that a text spells, if it fits a signed word of 64 bits. Specification §4.2,
`Integer`. -/
def int64? (s : String) : Option Int :=
  (integer? s.toList).filter fun n =>
    decide (Int64.minValue.toInt ≤ n) && decide (n ≤ Int64.maxValue.toInt)

/-- Reading undoes writing. -/
theorem digits?_decimal (n : Nat) : digits? (decimal n).toList = some n := by
  have hd : (Nat.toDigits 10 n).all Char.isDigit = true := by
    rw [List.all_eq_true]
    intro c hc
    exact Nat.isDigit_of_mem_toDigits (by decide) (by decide) hc
  simp [digits?, decimal, hd, Nat.toDigits_ne_nil]

end SelectFind.Text
