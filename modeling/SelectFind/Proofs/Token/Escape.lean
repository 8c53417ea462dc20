import SelectFind.Proofs.Token.Enclosed

/-!
# Characters that are not escaped

Characters are read from the left, and the escape mark makes the next one plain. Whether an escape
is pending behind a row of characters is one bit. A character occurs unescaped where none is pending
in front of it: the scan for a closing delimiter fails exactly if there is no such place, and a
delimiter encloses exactly the rows that hold no such place and leave no escape pending.
-/

namespace SelectFind

namespace Token

/-- An escape is pending behind the characters; `escaped` tells whether one is in front of them. -/
def escapePending : (escaped : Bool) → List Char → Bool
  | escaped, [] => escaped
  | true, _ :: cs => escapePending false cs
  | false, c :: cs => escapePending (decide (c = escape)) cs

/-- The character occurs at a place where no escape is pending. -/
def HasUnescaped (c : Char) (cs : List Char) : Prop :=
  ∃ front back, cs = front ++ c :: back ∧ escapePending false front = false

-- A place in a row is its start or a place behind its first character.
private theorem forall_place_cons (d c : Char) (cs : List Char) (p : List Char → Prop) :
    (∀ front back, c :: cs = front ++ d :: back → p front) ↔
      (c = d → p []) ∧ ∀ front back, cs = front ++ d :: back → p (c :: front) := by
  constructor
  · intro h
    refine ⟨fun hc ↦ h [] cs (by rw [hc]; rfl), ?_⟩
    intro front back hb
    exact h (c :: front) back (by rw [hb]; rfl)
  · rintro ⟨hnil, hcons⟩ front back h
    cases front with
    | nil => exact hnil (List.cons.inj h).1
    | cons x front =>
      obtain ⟨rfl, hb⟩ := List.cons.inj h
      exact hcons front back hb

-- The scan carries the bit, so the places are stated with the bit in front.
private theorem upToClosing_eq_none_iff_from (d : Delimiter) (escaped : Bool) (cs : List Char) :
    upToClosing d.char escaped cs = none ↔
      ∀ front back, cs = front ++ d.char :: back → escapePending escaped front = true := by
  induction cs generalizing escaped with
  | nil => simp [upToClosing]
  | cons c cs ih =>
    rw [forall_place_cons]
    cases escaped with
    | true => simp [upToClosing, escapePending, ih]
    | false =>
      by_cases he : c = escape
      · have hd : escape ≠ d.char := d.char_ne_escape.symm
        simp [upToClosing, escapePending, ih, he, hd]
      · by_cases hd : c = d.char
        · simp [upToClosing, escapePending, hd, d.char_ne_escape]
        · simp [upToClosing, escapePending, ih, he, hd]

/-- The scan for a closing delimiter fails exactly if none occurs unescaped. -/
theorem upToClosing_eq_none_iff (d : Delimiter) (cs : List Char) :
    upToClosing d.char false cs = none ↔ ¬HasUnescaped d.char cs := by
  rw [upToClosing_eq_none_iff_from]
  simp only [HasUnescaped, not_exists, not_and, Bool.not_eq_false]

instance (d : Delimiter) (cs : List Char) : Decidable (HasUnescaped d.char cs) :=
  decidable_of_iff (upToClosing d.char false cs ≠ none)
    ((not_congr (upToClosing_eq_none_iff d cs)).trans Classical.not_not)

end Token

namespace Delimiter

/-- Behind an enclosed row no escape is pending. -/
theorem Encloses.escapePending (d : Delimiter) (cs : List Char) (h : d.Encloses cs) :
    Token.escapePending false cs = false := by
  induction h with
  | nil => rfl
  | escaped c h ih => simpa [Token.escapePending] using ih
  | plain he hd h ih => simpa [Token.escapePending, he] using ih

/-- The delimiter does not occur unescaped in a row that it encloses. -/
theorem Encloses.not_hasUnescaped (d : Delimiter) (cs : List Char) (h : d.Encloses cs) :
    ¬Token.HasUnescaped d.char cs := by
  rintro ⟨front, back, hb, hp⟩
  induction h generalizing front with
  | nil => simp at hb
  | escaped c h ih =>
    cases front with
    | nil => exact d.char_ne_escape (List.cons.inj hb).1.symm
    | cons x front =>
      obtain ⟨rfl, hrest⟩ := List.cons.inj hb
      cases front with
      | nil => simp [Token.escapePending] at hp
      | cons y front =>
        exact ih front (List.cons.inj hrest).2 (by simpa [Token.escapePending] using hp)
  | plain he hd h ih =>
    cases front with
    | nil => exact hd (List.cons.inj hb).1
    | cons x front =>
      obtain ⟨rfl, hrest⟩ := List.cons.inj hb
      exact ih front hrest (by simpa [Token.escapePending, he] using hp)

/-- A delimiter encloses the rows in which it does not occur unescaped and behind which no escape is
pending. -/
theorem encloses_iff (d : Delimiter) (cs : List Char) :
    d.Encloses cs ↔ ¬Token.HasUnescaped d.char cs ∧ Token.escapePending false cs = false := by
  constructor
  · intro h
    exact ⟨h.not_hasUnescaped, h.escapePending⟩
  · rintro ⟨hn, hp⟩
    -- The scan of the row with the delimiter behind it cannot stop earlier than there.
    have hs : Token.upToClosing d.char false (cs ++ [d.char]) ≠ none := by
      intro hnone
      exact (Token.upToClosing_eq_none_iff d _).mp hnone ⟨cs, [], rfl, hp⟩
    obtain ⟨token, ht⟩ := Option.ne_none_iff_exists'.mp hs
    obtain ⟨body, rest, hb, rfl, hc⟩ := (Token.upToClosing_eq_some_iff d _ token).mp ht
    rcases List.eq_nil_or_concat rest with rfl | ⟨rest, c, rfl⟩
    · rw [List.append_nil] at hc
      rw [List.append_cancel_right hc]
      exact hb
    · rw [List.concat_eq_append, ← List.append_assoc] at hc
      have hcs := (List.append_inj' hc rfl).1
      exact absurd ⟨body, rest, by rw [hcs]; simp, hb.escapePending⟩ hn

end Delimiter
end SelectFind
