import SelectFind.Proofs.Json.Text
import Mathlib.Data.List.Chain
import Mathlib.Data.List.TakeWhile

/-!
# Cutting a JSON text into tokens

A text is cut only into tokens that it spells. The other way round, a token is cut off where it ends
if nothing continues it: what follows a number may be no character of a number. So a text that
spells tokens of which no two words, numbers or strings follow each other is cut into these tokens.
-/

namespace SelectFind.Json

/-! ### Strings -/

/-- The characters between the quotes of a string and the pieces that they are cut into. -/
inductive PieceText : List Char → List Piece → Prop
  | nil : PieceText [] []
  | plain {c : Char} {cs : List Char} {ps : List Piece} (hc : 0x20 ≤ c.toNat) (hq : c ≠ '\x22')
      (he : c ≠ '\x5c') (h : PieceText cs ps) : PieceText (c :: cs) (.plain c :: ps)
  | short {e c : Char} {cs : List Char} {ps : List Piece} (hc : unescape? e = some c)
      (h : PieceText cs ps) : PieceText ('\x5c' :: e :: cs) (.plain c :: ps)
  | unit {a b c d : Char} {n : Nat} {cs : List Char} {ps : List Piece}
      (hu : unit? a b c d = some n) (h : PieceText cs ps) :
      PieceText ('\x5c' :: 'u' :: a :: b :: c :: d :: cs) (.unit n :: ps)

private theorem pieces?_plain (c : Char) (cs : List Char) (hc : 0x20 ≤ c.toNat) (hq : c ≠ '\x22')
    (he : c ≠ '\x5c') :
    pieces? (c :: cs) = (pieces? cs).map fun r ↦ (.plain c :: r.1, r.2) := by
  rw [pieces?]
  · have hn : ¬(c.toNat < 0x20 ∨ c = '\x5c') := by
      rintro (h | h)
      · omega
      · exact he h
    rw [if_neg hn]
  · simpa using hq
  · intros
    simp_all
  · intros
    simp_all

private theorem pieces?_short (e c : Char) (cs : List Char) (h : unescape? e = some c) :
    pieces? ('\x5c' :: e :: cs) = (pieces? cs).map fun r ↦ (.plain c :: r.1, r.2) := by
  have hu : e ≠ 'u' := by
    rintro rfl
    have : unescape? 'u' = none := by decide
    rw [this] at h
    cases h
  rw [pieces?]
  · rw [h]
  · intros
    simp_all

private theorem pieces?_of_pieceText {body : List Char} {ps : List Piece} (h : PieceText body ps)
    (rest : List Char) : pieces? (body ++ '\x22' :: rest) = some (ps, rest) := by
  induction h with
  | nil => rfl
  | plain hc hq he _ ih =>
    rw [List.cons_append, pieces?_plain _ _ hc hq he, ih]
    rfl
  | short hc _ ih =>
    rw [List.cons_append, List.cons_append, pieces?_short _ _ _ hc, ih]
    rfl
  | unit hu _ ih => simp [pieces?, hu, ih]

private theorem exists_pieceText_of_pieces? {cs : List Char} {r : List Piece × List Char}
    (h : pieces? cs = some r) : ∃ body, cs = body ++ '\x22' :: r.2 ∧ PieceText body r.1 := by
  fun_induction pieces? cs generalizing r with
  | case1 | case4 | case6 | case7 => cases h
  | case2 cs =>
    cases h
    exact ⟨[], rfl, .nil⟩
  | case3 a b c d cs n hn ih =>
    obtain ⟨q, hq, rfl⟩ := Option.map_eq_some_iff.mp h
    obtain ⟨body, rfl, hb⟩ := ih hq
    exact ⟨_, rfl, .unit hn hb⟩
  | case5 e cs _ c hc ih =>
    obtain ⟨q, hq, rfl⟩ := Option.map_eq_some_iff.mp h
    obtain ⟨body, rfl, hb⟩ := ih hq
    exact ⟨_, rfl, .short hc hb⟩
  | case8 c cs hquote _ _ hplain ih =>
    obtain ⟨q, hq, rfl⟩ := Option.map_eq_some_iff.mp h
    obtain ⟨body, rfl, hb⟩ := ih hq
    rw [not_or, Nat.not_lt] at hplain
    exact ⟨_, rfl, .plain hplain.1 hquote hplain.2 hb⟩

private theorem pieces?_eq_some_iff (cs : List Char) (ps : List Piece) (rest : List Char) :
    pieces? cs = some (ps, rest) ↔ ∃ body, cs = body ++ '\x22' :: rest ∧ PieceText body ps := by
  refine ⟨exists_pieceText_of_pieces?, ?_⟩
  rintro ⟨body, rfl, hb⟩
  exact pieces?_of_pieceText hb rest

private theorem scalar?_of_pair? {high low : Nat} {x : Char} (h : pair? high low = some x) :
    scalar? high = none := by
  unfold pair? at h
  split at h
  · next hp => exact if_neg (by omega)
  · cases h

private theorem PieceText.stringText {body text : List Char} {ps : List Piece}
    (h : PieceText body ps) (hj : join? ps = some text) : StringText body text := by
  fun_induction join? ps generalizing body text with
  | case1 =>
    cases hj
    cases h
    exact .nil
  | case2 c ps ih =>
    obtain ⟨text, ht, rfl⟩ := Option.map_eq_some_iff.mp hj
    cases h with
    | plain hc hq he h => exact .plain hc hq he (ih h ht)
    | short hc h => exact .short hc (ih h ht)
  | case3 n ps c hc ih =>
    obtain ⟨text, ht, rfl⟩ := Option.map_eq_some_iff.mp hj
    cases h with
    | unit hu h => exact .unit hu hc (ih h ht)
  | case4 n hn m qs c hc ih =>
    obtain ⟨text, ht, rfl⟩ := Option.map_eq_some_iff.mp hj
    cases h with
    | unit hh h =>
      cases h with
      | unit hl h => exact .pair hh hl hc (ih h ht)
  | case5 | case6 => cases hj

private theorem StringText.exists_pieceText {body text : List Char} (h : StringText body text) :
    ∃ ps, PieceText body ps ∧ join? ps = some text := by
  induction h with
  | nil => exact ⟨[], .nil, rfl⟩
  | plain hc hq he _ ih =>
    obtain ⟨ps, hp, hj⟩ := ih
    exact ⟨_, .plain hc hq he hp, by simp [join?, hj]⟩
  | short hc _ ih =>
    obtain ⟨ps, hp, hj⟩ := ih
    exact ⟨_, .short hc hp, by simp [join?, hj]⟩
  | unit hu hx _ ih =>
    obtain ⟨ps, hp, hj⟩ := ih
    exact ⟨_, .unit hu hp, by simp [join?, hx, hj]⟩
  | pair hh hl hx _ ih =>
    obtain ⟨ps, hp, hj⟩ := ih
    exact ⟨_, .unit hh (.unit hl hp), by simp [join?, scalar?_of_pair? hx, hx, hj]⟩

private theorem stringText_iff (body text : List Char) :
    StringText body text ↔ ∃ ps, PieceText body ps ∧ join? ps = some text :=
  ⟨StringText.exists_pieceText, fun ⟨_, h, hj⟩ ↦ h.stringText hj⟩

/-- A string is read up to its closing quote, as the characters that it stands for. -/
theorem string?_eq_some_iff (cs : List Char) (s : String) (rest : List Char) :
    string? cs = some (s, rest) ↔
      ∃ body, cs = body ++ '\x22' :: rest ∧ StringText body s.toList := by
  simp only [stringText_iff]
  constructor
  · intro h
    unfold string? at h
    split at h
    · next ps rest hp =>
      obtain ⟨text, ht, heq⟩ := Option.map_eq_some_iff.mp h
      cases heq
      obtain ⟨body, hcs, hb⟩ := (pieces?_eq_some_iff _ _ _).mp hp
      exact ⟨body, hcs, ps, hb, by rw [ht, String.toList_ofList]⟩
    · cases h
  · rintro ⟨body, hcs, ps, hb, hj⟩
    have hp := (pieces?_eq_some_iff _ _ _).mpr ⟨body, hcs, hb⟩
    simp [string?, hp, hj]

/-! ### Numbers -/

private theorem isNumeral_of_isDigit {c : Char} (h : c.isDigit = true) : isNumeral c = true := by
  simp [isNumeral, h]

private theorem isNumeral_of_areDigits (cs : List Char) (h : areDigits cs = true) :
    ∀ c ∈ cs, isNumeral c = true := by
  intro c hc
  rw [areDigits, Bool.and_eq_true] at h
  exact isNumeral_of_isDigit (List.all_eq_true.mp h.2 c hc)

private theorem isNumeral_of_isExponent (cs : List Char) (h : isExponent cs = true)
    (hm : ∀ c ∈ cs.head?, isExponentMark c = true) : ∀ c ∈ cs, isNumeral c = true := by
  have hmark (c : Char) (hc : isExponentMark c = true) : isNumeral c = true := by
    simp only [isExponentMark, Bool.or_eq_true, beq_iff_eq] at hc
    rcases hc with rfl | rfl <;> decide
  unfold isExponent at h
  split at h
  · simp
  · next m ds =>
    rw [List.forall_mem_cons, List.forall_mem_cons]
    exact ⟨hmark m (hm m rfl), by decide, isNumeral_of_areDigits ds h⟩
  · next m ds =>
    rw [List.forall_mem_cons, List.forall_mem_cons]
    exact ⟨hmark m (hm m rfl), by decide, isNumeral_of_areDigits ds h⟩
  · next m ds _ _ =>
    rw [List.forall_mem_cons]
    exact ⟨hmark m (hm m rfl), isNumeral_of_areDigits ds h⟩

private theorem isNumeral_of_isFractionExponent (cs : List Char)
    (h : isFractionExponent cs = true) : ∀ c ∈ cs, isNumeral c = true := by
  unfold isFractionExponent at h
  split at h
  · next cs =>
    rw [Bool.and_eq_true] at h
    have hdigits := isNumeral_of_areDigits _ h.1
    have hexponent := isNumeral_of_isExponent _ h.2 (by
      intro c hc
      have := List.head?_dropWhile_not (!isExponentMark ·) cs
      rw [hc] at this
      simpa using this)
    rw [List.forall_mem_cons]
    refine ⟨by decide, ?_⟩
    rw [← List.takeWhile_append_dropWhile (p := (!isExponentMark ·)) (l := cs)]
    exact List.forall_mem_append.mpr ⟨hdigits, hexponent⟩
  · rw [Bool.and_eq_true] at h
    apply isNumeral_of_isExponent cs h.2
    intro c hc
    have := h.1
    rwa [hc] at this

private theorem isNumeral_of_isNumber (cs : List Char) (h : isNumber cs = true) :
    ∀ c ∈ cs, isNumeral c = true := by
  have hunsigned (ds : List Char) (hw : areWhole (ds.takeWhile Char.isDigit) = true)
      (hf : isFractionExponent (ds.dropWhile Char.isDigit) = true) :
      ∀ c ∈ ds, isNumeral c = true := by
    rw [← List.takeWhile_append_dropWhile (p := Char.isDigit) (l := ds)]
    rw [areWhole, Bool.and_eq_true] at hw
    exact List.forall_mem_append.mpr
      ⟨isNumeral_of_areDigits _ hw.1, isNumeral_of_isFractionExponent _ hf⟩
  simp only [isNumber, Bool.and_eq_true] at h
  split at h
  · next hsign =>
    obtain ⟨ds, rfl⟩ := List.head?_eq_some_iff.mp hsign
    exact List.forall_mem_cons.mpr ⟨by decide, hunsigned ds h.1 h.2⟩
  · exact hunsigned cs h.1 h.2

private theorem ne_nil_of_isNumber (cs : List Char) (h : isNumber cs = true) : cs ≠ [] := by
  rintro rfl
  exact absurd h (by decide)

/-! ### Tokens -/

/-- The token is a word, a number or a string. -/
def Token.isLiteral : Token → Bool
  | .literal _ => true
  | _ => false

/-- A word, a number or a string is not followed by another. -/
def Token.Apart (t u : Token) : Prop := t.isLiteral = true → u.isLiteral = false

private theorem isNumeral_of_isSpace {c : Char} (h : isSpace c = true) : isNumeral c = false := by
  simp only [isSpace, Bool.or_eq_true, beq_iff_eq] at h
  rcases h with ((rfl | rfl) | rfl) | rfl <;> decide

private theorem Token.SpelledBy.head {t : Token} {text : List Char} (h : t.SpelledBy text) :
    ∃ c cs, text = c :: cs ∧ isSpace c = false ∧ (t.isLiteral = false → isNumeral c = false) := by
  cases h with
  | @number literal h =>
    obtain ⟨c, cs, hc⟩ := List.exists_cons_of_ne_nil (ne_nil_of_isNumber _ h)
    refine ⟨c, cs, hc, ?_, by simp [isLiteral]⟩
    have hn := isNumeral_of_isNumber _ h c (by simp [hc])
    by_contra hs
    rw [isNumeral_of_isSpace (by simpa using hs)] at hn
    cases hn
  | string | nullWord | trueWord | falseWord =>
    exact ⟨_, _, rfl, by decide, by simp [isLiteral]⟩
  | _ => exact ⟨_, _, rfl, by decide, by decide⟩

private theorem Spelled.isNumeral_head {ts : List Token} {cs : List Char} (h : Spelled ts cs)
    (ht : ∀ t ∈ ts.head?, t.isLiteral = false) : ∀ c ∈ cs.head?, isNumeral c = false := by
  cases h with
  | nil => simp
  | space hc _ => simpa using isNumeral_of_isSpace hc
  | @token t ts text cs hs _ =>
    obtain ⟨c, ds, rfl, _, hn⟩ := hs.head
    simpa using hn (ht t rfl)

private theorem token?_number (cs rest : List Char) (h : isNumber cs = true)
    (hr : ∀ c ∈ rest.head?, isNumeral c = false) :
    token? (cs ++ rest) = some (.literal (number (String.ofList cs)), rest) := by
  have hcs := isNumeral_of_isNumber cs h
  have hrest : rest.takeWhile isNumeral = [] ∧ rest.dropWhile isNumeral = rest := by
    cases rest with
    | nil => exact ⟨rfl, rfl⟩
    | cons c rest => simp [hr c rfl]
  have htake : (cs ++ rest).takeWhile isNumeral = cs := by
    rw [List.takeWhile_append_of_pos hcs, hrest.1, List.append_nil]
  have hdrop : (cs ++ rest).dropWhile isNumeral = rest := by
    rw [List.dropWhile_append_of_pos hcs, hrest.2]
  obtain ⟨c, ds, rfl⟩ := List.exists_cons_of_ne_nil (ne_nil_of_isNumber cs h)
  have hc := hcs c List.mem_cons_self
  unfold token?
  split
  case h_11 => simp only [htake, hdrop, h, if_true]
  all_goals
    next heq =>
      rw [(List.cons.inj heq).1] at hc
      exact absurd hc (by decide)

private theorem token?_of_spelledBy {t : Token} {text : List Char} (h : t.SpelledBy text)
    (rest : List Char) (hr : t.isLiteral = true → ∀ c ∈ rest.head?, isNumeral c = false) :
    token? (text ++ rest) = some (t, rest) := by
  cases h with
  | @number literal h =>
    rw [token?_number literal.toList rest h (hr rfl), String.ofList_toList]
  | @string s body h =>
    have hs := (string?_eq_some_iff _ s rest).mpr ⟨body, rfl, h⟩
    simp [token?, hs]
  | _ => rfl

private theorem exists_spelledBy_of_token? {cs : List Char} {t : Token} {rest : List Char}
    (h : token? cs = some (t, rest)) : ∃ text, cs = text ++ rest ∧ t.SpelledBy text := by
  unfold token? at h
  split at h
  case h_10 cs =>
    obtain ⟨⟨s, rest⟩, hs, heq⟩ := Option.map_eq_some_iff.mp h
    cases heq
    obtain ⟨body, rfl, hb⟩ := (string?_eq_some_iff _ _ _).mp hs
    exact ⟨_, by simp, .string hb⟩
  case h_11 =>
    dsimp only at h
    split at h
    · next hn =>
      cases h
      refine ⟨_, List.takeWhile_append_dropWhile.symm, ?_⟩
      rw [← String.toList_ofList (l := cs.takeWhile isNumeral)] at hn
      have := Token.SpelledBy.number hn
      rwa [String.toList_ofList] at this
    · cases h
  case h_1 => cases h; exact ⟨_, rfl, .openArray⟩
  case h_2 => cases h; exact ⟨_, rfl, .closeArray⟩
  case h_3 => cases h; exact ⟨_, rfl, .openObject⟩
  case h_4 => cases h; exact ⟨_, rfl, .closeObject⟩
  case h_5 => cases h; exact ⟨_, rfl, .comma⟩
  case h_6 => cases h; exact ⟨_, rfl, .colon⟩
  case h_7 => cases h; exact ⟨_, rfl, .nullWord⟩
  case h_8 => cases h; exact ⟨_, rfl, .trueWord⟩
  case h_9 => cases h; exact ⟨_, rfl, .falseWord⟩

private theorem tokens?_of_dropWhile_nil (cs : List Char) (h : cs.dropWhile isSpace = []) :
    tokens? cs = some [] := by
  rw [tokens?]
  split
  · rfl
  · next hd _ =>
    rw [h] at hd
    cases hd

private theorem tokens?_of_dropWhile_cons (cs : List Char) (c : Char) (ds : List Char)
    (h : cs.dropWhile isSpace = c :: ds) :
    tokens? cs = (token? (c :: ds)).bind fun r ↦ (tokens? r.2).map (r.1 :: ·) := by
  rw [tokens?]
  split
  · next hd _ =>
    rw [h] at hd
    cases hd
  · next hd _ =>
    rw [h] at hd
    cases hd
    split
    · next ht => simp only [ht, Option.bind_some]
    · next ht => simp only [ht, Option.bind_none]

private theorem tokens?_space (c : Char) (cs : List Char) (hc : isSpace c = true) :
    tokens? (c :: cs) = tokens? cs := by
  have hd : (c :: cs).dropWhile isSpace = cs.dropWhile isSpace := by simp [hc]
  cases h : cs.dropWhile isSpace with
  | nil => rw [tokens?_of_dropWhile_nil _ h, tokens?_of_dropWhile_nil _ (hd.trans h)]
  | cons e ds =>
    rw [tokens?_of_dropWhile_cons _ e ds h, tokens?_of_dropWhile_cons _ e ds (hd.trans h)]

/-- A text of tokens that are apart is cut into them. -/
theorem tokens?_of_spelled {ts : List Token} {cs : List Char} (h : Spelled ts cs)
    (ha : ts.IsChain Token.Apart) : tokens? cs = some ts := by
  induction h with
  | nil => exact tokens?_of_dropWhile_nil [] rfl
  | space hc _ ih => rw [tokens?_space _ _ hc, ih ha]
  | @token t ts text cs ht h ih =>
    obtain ⟨hnext, htail⟩ := List.isChain_cons.mp ha
    have htoken := token?_of_spelledBy ht cs fun hl ↦
      h.isNumeral_head fun u hu ↦ hnext u hu hl
    obtain ⟨c, ds, rfl, hc, _⟩ := ht.head
    have hd : (c :: ds ++ cs).dropWhile isSpace = c :: (ds ++ cs) := by simp [hc]
    rw [List.cons_append] at htoken
    rw [tokens?_of_dropWhile_cons _ c _ hd, htoken, Option.bind_some, ih htail]
    rfl

/-- A text is cut into tokens that it spells. -/
theorem spelled_of_tokens? {cs : List Char} {ts : List Token} (h : tokens? cs = some ts) :
    Spelled ts cs := by
  induction hn : cs.length using Nat.strongRecOn generalizing cs ts with
  | _ n ih =>
    have hsplit := List.takeWhile_append_dropWhile (p := isSpace) (l := cs)
    have hspace (c : Char) (hc : c ∈ cs.takeWhile isSpace) : isSpace c = true :=
      List.mem_takeWhile_imp hc
    cases hd : cs.dropWhile isSpace with
    | nil =>
      rw [tokens?_of_dropWhile_nil cs hd] at h
      cases h
      rw [← hsplit, hd]
      exact Spelled.nil.spaces _ hspace
    | cons c ds =>
      rw [tokens?_of_dropWhile_cons cs c ds hd] at h
      obtain ⟨⟨t, rest⟩, ht, hr⟩ := Option.bind_eq_some_iff.mp h
      obtain ⟨us, hus, rfl⟩ := Option.map_eq_some_iff.mp hr
      have hle := (List.dropWhile_suffix (l := cs) isSpace).length_le
      have hlt : rest.length < (c :: ds).length := length_of_token? ht
      rw [hd] at hle
      obtain ⟨text, htext, hspelled⟩ := exists_spelledBy_of_token? ht
      rw [← hsplit, hd, htext]
      exact (Spelled.token hspelled (ih rest.length (by omega) hus rfl)).spaces _ hspace

end SelectFind.Json
