import SelectFind.Command.Shell
import SelectFind.Proofs.Text.Lines

/-!
# The input of the shell

The shell is given bytes and takes them for lines in UTF-8. A character of ASCII is one byte, and no
other character holds this byte; so the line feed ends a line exactly where it stands in the text,
and a carriage return in front of it is seen in the bytes. A line without backspaces is handed over
as it was piped.
-/

namespace SelectFind

/-! ### Bytes of a text -/

namespace Text

/-- The bytes of a text in UTF-8. -/
def utf8 (s : String) : List UInt8 := s.toList.flatMap String.utf8EncodeChar

/-- Texts that are put together have their bytes put together. -/
@[simp] theorem utf8_append (s t : String) : utf8 (s ++ t) = utf8 s ++ utf8 t := by
  simp [utf8]

private theorem utf8_eq_nil_iff (s : String) : utf8 s = [] ↔ s = "" := by
  rw [utf8, List.flatMap_eq_nil_iff, ← String.toList_eq_nil_iff, List.eq_nil_iff_forall_not_mem]
  exact forall₂_congr fun c _ ↦ iff_of_false String.utf8EncodeChar_ne_nil id

/-- The bytes of a text are decoded as the text. -/
theorem fromUTF8?_utf8 (s : String) : String.fromUTF8? ⟨(utf8 s).toArray⟩ = some s := by
  have hb : ByteArray.mk (utf8 s).toArray = s.toByteArray := by
    rw [← String.utf8Encode_toList]
    apply ByteArray.ext
    simp [utf8, List.utf8Encode]
  rw [hb, String.fromUTF8?, dif_pos s.isValidUTF8]
  rfl

-- A byte that is a whole character cannot go on with another one, and where it starts one it tells
-- which.
private theorem eq_of_mem_utf8EncodeChar {a c : Char} {b : UInt8}
    (ha : String.utf8EncodeChar a = [b]) (h : b ∈ String.utf8EncodeChar c) : c = a := by
  obtain ⟨front, back, hc⟩ := List.append_of_mem h
  have hfirst : b.IsUTF8FirstByte := by
    have hget : (String.utf8EncodeChar a)[0]? = some b := by rw [ha]; rfl
    obtain ⟨_, hget⟩ := List.getElem?_eq_some_iff.mp hget
    rw [← hget]
    exact UInt8.isUTF8FirstByte_getElem_utf8EncodeChar.mpr rfl
  obtain rfl : front = [] := by
    have hget : (String.utf8EncodeChar c)[front.length]? = some b := by simp [hc]
    obtain ⟨_, hget⟩ := List.getElem?_eq_some_iff.mp hget
    rw [← hget] at hfirst
    exact List.length_eq_zero_iff.mp (UInt8.isUTF8FirstByte_getElem_utf8EncodeChar.mp hfirst)
  have hdecode := ByteArray.utf8DecodeChar?_utf8EncodeChar_append (b := ByteArray.empty) (c := c)
  rw [ByteArray.append_empty, hc, List.nil_append, ← List.singleton_append, ← ha,
    List.toByteArray_append, ByteArray.utf8DecodeChar?_utf8EncodeChar_append] at hdecode
  exact (Option.some.inj hdecode).symm

/-- A byte that is a whole character stands in a text where the character does. -/
theorem mem_utf8_iff {a : Char} {b : UInt8} (ha : String.utf8EncodeChar a = [b]) (s : String) :
    b ∈ utf8 s ↔ a ∈ s.toList := by
  rw [utf8, List.mem_flatMap]
  constructor
  · rintro ⟨c, hc, hb⟩
    rwa [← eq_of_mem_utf8EncodeChar ha hb]
  · intro h
    exact ⟨a, h, by simp [ha]⟩

private theorem getLast?_utf8_iff {a : Char} {b : UInt8} (ha : String.utf8EncodeChar a = [b])
    (cs : List Char) :
    (cs.flatMap String.utf8EncodeChar).getLast? = some b ↔ cs.getLast? = some a := by
  rcases List.eq_nil_or_concat cs with rfl | ⟨cs, c, rfl⟩
  · simp
  · rw [List.concat_eq_append, List.flatMap_append, List.flatMap_singleton, List.getLast?_concat,
      Option.some.injEq, List.getLast?_append]
    constructor
    · intro h
      rcases Option.or_eq_some_iff.mp h with h | ⟨hnone, _⟩
      · exact eq_of_mem_utf8EncodeChar ha (List.mem_of_getLast? h)
      · exact absurd (List.getLast?_eq_none_iff.mp hnone) String.utf8EncodeChar_ne_nil
    · rintro rfl
      simp [ha]

end Text

namespace Shell

/-! ### Lines of the input -/

/-- The bytes are those of a text in UTF-8. -/
def IsUtf8 (bytes : List UInt8) : Prop :=
  ∃ cs : List Char, bytes = cs.flatMap String.utf8EncodeChar

private theorem fromUTF8?_eq_none_iff (bytes : List UInt8) :
    String.fromUTF8? ⟨bytes.toArray⟩ = none ↔ ¬IsUtf8 bytes := by
  have hv : (ByteArray.mk bytes.toArray).IsValidUTF8 ↔ IsUtf8 bytes := by
    constructor
    · rintro ⟨cs, h⟩
      refine ⟨cs, ?_⟩
      have hb := congrArg (fun b ↦ b.data.toList) h
      simpa [List.utf8Encode] using hb
    · rintro ⟨cs, rfl⟩
      refine ⟨cs, ?_⟩
      apply ByteArray.ext
      simp [List.utf8Encode]
  rw [← hv, String.fromUTF8?]
  split_ifs with h <;> simp [h]

private theorem utf8EncodeChar_carriageReturn : String.utf8EncodeChar '\r' = [carriageReturn] := rfl

private theorem isUtf8_concat_carriageReturn (bytes : List UInt8) :
    IsUtf8 (bytes ++ [carriageReturn]) ↔ IsUtf8 bytes := by
  constructor
  · rintro ⟨cs, h⟩
    have hlast : cs.getLast? = some '\r' := by
      rw [← Text.getLast?_utf8_iff utf8EncodeChar_carriageReturn, ← h, List.getLast?_concat]
    obtain ⟨cs, rfl⟩ := List.getLast?_eq_some_iff.mp hlast
    rw [List.flatMap_append, List.flatMap_singleton, utf8EncodeChar_carriageReturn] at h
    exact ⟨cs, List.append_cancel_right h⟩
  · rintro ⟨cs, rfl⟩
    refine ⟨cs ++ ['\r'], ?_⟩
    rw [List.flatMap_append]
    rfl

/-- A line is not decoded exactly if its bytes are not those of a text. -/
theorem lineText?_eq_none_iff (line : Text.Line UInt8) :
    lineText? line = none ↔ ¬IsUtf8 line.content := by
  rw [lineText?, Option.map_eq_none_iff, fromUTF8?_eq_none_iff]
  split_ifs with h
  · obtain ⟨init, hi⟩ := List.getLast?_eq_some_iff.mp h.2
    rw [hi, List.dropLast_concat, isUtf8_concat_carriageReturn]
  · rfl

private theorem inputLines_append_lineFeed (content rest : List UInt8) (h : lineFeed ∉ content) :
    inputLines (content ++ lineFeed :: rest) = lineText? ⟨content, true⟩ :: inputLines rest := by
  rw [inputLines, Text.lines_append_mark lineFeed content rest h]
  rfl

/-- Behind a line feed the lines of the input start anew. -/
theorem inputLines_append_ended (front rest : List UInt8) :
    inputLines (front ++ lineFeed :: rest) =
      inputLines (front ++ [lineFeed]) ++ inputLines rest := by
  rw [inputLines, Text.lines_append_ended, List.map_append]
  rfl

/-- Behind whole lines the lines of the input start anew. -/
theorem inputLines_append (front rest : List UInt8) (h : ∀ b ∈ front.getLast?, b = lineFeed) :
    inputLines (front ++ rest) = inputLines front ++ inputLines rest := by
  rcases List.eq_nil_or_concat front with rfl | ⟨front, b, rfl⟩
  · rfl
  · rw [List.concat_eq_append] at h ⊢
    obtain rfl := h b List.getLast?_concat
    rw [List.append_assoc, List.singleton_append, inputLines_append_ended]

/-! ### Lines that are handed over as they are -/

/-- A line that is piped as it is: it has no line feed, no backspace and no carriage return at its
end. -/
structure IsPlain (line : String) : Prop where
  lineFeed_notMem : '\n' ∉ line.toList
  backspace_notMem : Text.backspace ∉ line.toList
  carriageReturn_not_last : line.toList.getLast? ≠ some '\r'

namespace IsPlain

variable {s : String}

private theorem lineText?_utf8 (h : IsPlain s) (ended : Bool) :
    lineText? ⟨Text.utf8 s, ended⟩ = some s := by
  have hlast := mt (Text.getLast?_utf8_iff utf8EncodeChar_carriageReturn s.toList).mp
    h.carriageReturn_not_last
  rw [lineText?, if_neg (fun hc ↦ hlast hc.2)]
  simp [Text.fromUTF8?_utf8, Text.applyBackspaces_of_not_mem h.backspace_notMem]

private theorem lineText?_utf8_carriageReturn (h : IsPlain s) :
    lineText? ⟨Text.utf8 s ++ [carriageReturn], true⟩ = some s := by
  rw [lineText?, if_pos ⟨rfl, List.getLast?_concat⟩, List.dropLast_concat]
  simp [Text.fromUTF8?_utf8, Text.applyBackspaces_of_not_mem h.backspace_notMem]

private theorem lineFeed_notMem_utf8 (h : IsPlain s) : lineFeed ∉ Text.utf8 s :=
  mt (Text.mem_utf8_iff (a := '\n') rfl s).mp h.lineFeed_notMem

/-- A plain line is handed over as it is if a line feed ends it, with or without a carriage return
in front, or the end of the input does. -/
theorem inputLines_utf8_append (h : IsPlain s) (hne : s ≠ "") (mark : String) (rest : List UInt8)
    (hm : mark ∈ ["\n", "\r\n"] ∨ mark = "" ∧ rest = []) :
    inputLines (Text.utf8 (s ++ mark) ++ rest) = some s :: inputLines rest := by
  simp only [List.mem_cons, List.not_mem_nil, or_false] at hm
  have hfeed := h.lineFeed_notMem_utf8
  obtain (rfl | rfl) | ⟨rfl, rfl⟩ := hm
  · have hl := inputLines_append_lineFeed (Text.utf8 s) rest hfeed
    rw [h.lineText?_utf8] at hl
    rw [Text.utf8_append, List.append_assoc]
    exact hl
  · have hreturn : lineFeed ∉ Text.utf8 s ++ [carriageReturn] := by
      rw [List.mem_append, not_or]
      exact ⟨hfeed, by decide⟩
    have hl := inputLines_append_lineFeed _ rest hreturn
    rw [h.lineText?_utf8_carriageReturn, List.append_assoc] at hl
    rw [Text.utf8_append, List.append_assoc]
    exact hl
  · have hbytes := mt (Text.utf8_eq_nil_iff s).mp hne
    rw [List.append_nil, String.append_empty, inputLines,
      Text.lines_of_notMem lineFeed _ hfeed hbytes, List.map_singleton, h.lineText?_utf8]
    rfl

end IsPlain
end Shell
end SelectFind
