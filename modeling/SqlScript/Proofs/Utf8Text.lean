import Mathlib.Data.List.Forall2
import SqlScript.Utf8

namespace SqlScript

theorem Bytes.ofText_ofList (chars : List Char) :
    Bytes.ofText (String.ofList chars) = chars.flatMap String.utf8EncodeChar := by
  simp [ofText, List.utf8Encode]

theorem Bytes.ofText_eq (text : String) :
    Bytes.ofText text = text.toList.flatMap String.utf8EncodeChar := by
  rw [← ofText_ofList, String.ofList_toList]

theorem ByteRange.contains_iff {range : ByteRange} {b : UInt8} :
    range.contains b = true ↔ range.low.toNat ≤ b.toNat ∧ b.toNat ≤ range.high.toNat := by
  simp [contains, UInt8.le_iff_toNat_le]

theorem lead?_of_lt_0x80 {b : UInt8} (h : b.toNat < 0x80) : lead? b = some (b.toNat, []) := by
  rw [lead?, if_pos (UInt8.lt_iff_toNat_lt.mpr h)]

theorem lead?_of_lt_0xE0 {b : UInt8} (hl : 0xC2 ≤ b.toNat) (hu : b.toNat < 0xE0) :
    lead? b = some (b.toNat - 0xC0, [continuation]) := by
  simp only [lead?, UInt8.lt_iff_toNat_lt, UInt8.reduceToNat]
  rw [if_neg (by omega), if_neg (by omega), if_pos hu]

theorem lead?_of_lt_0xF0 {b : UInt8} (hl : 0xE0 ≤ b.toNat) (hu : b.toNat < 0xF0) :
    lead? b = some (b.toNat - 0xE0,
      [⟨if b.toNat = 0xE0 then 0xA0 else 0x80, if b.toNat = 0xED then 0x9F else 0xBF⟩,
        continuation]) := by
  simp only [lead?, UInt8.lt_iff_toNat_lt, ← UInt8.toNat_inj, UInt8.reduceToNat]
  grind [continuation]

theorem lead?_of_lt_0xF5 {b : UInt8} (hl : 0xF0 ≤ b.toNat) (hu : b.toNat < 0xF5) :
    lead? b = some (b.toNat - 0xF0,
      [⟨if b.toNat = 0xF0 then 0x90 else 0x80, if b.toNat = 0xF4 then 0x8F else 0xBF⟩,
        continuation, continuation]) := by
  simp only [lead?, UInt8.lt_iff_toNat_lt, ← UInt8.toNat_inj, UInt8.reduceToNat]
  grind [continuation]

/-- The bits of a character after more of its bytes, each of which holds six. -/
def bitsAfter (bits : Nat) (bytes : Bytes) : Nat :=
  bytes.foldl (fun bits b => bits * 64 + (b.toNat - 0x80)) bits

theorem readCharacter_append {bits length : Nat} {front : List ByteRange} {bytes : Bytes}
    (h : List.Forall₂ (fun range b => ByteRange.contains range b = true) front bytes)
    (ranges : List ByteRange) (rest : Bytes) :
    readCharacter bits length (front ++ ranges) (bytes ++ rest) =
      readCharacter (bitsAfter bits bytes) (length + bytes.length) ranges rest := by
  induction h generalizing bits length with
  | nil => rfl
  | cons hb _ ih =>
    simp [readCharacter, hb, ih, bitsAfter, Nat.add_comm, Nat.add_left_comm]

theorem readSegment_of_contains {b : UInt8} {bits : Nat} {ranges : List ByteRange} {more : Bytes}
    {c : Char} (hb : lead? b = some (bits, ranges))
    (h : List.Forall₂ (fun range b => ByteRange.contains range b = true) ranges more)
    (hc : bitsAfter bits more = c.toNat) (rest : Bytes) :
    readSegment b (more ++ rest) = (.char c, rest) := by
  have hread : readCharacter bits 1 (ranges ++ []) (more ++ rest) = _ :=
    readCharacter_append h [] rest
  rw [List.append_nil, hc] at hread
  simp only [readSegment, hb, hread, readCharacter, Char.ofNat_toNat]

theorem toNat_ofNat_of_le {n : Nat} (h : n ≤ 0xFF) : (UInt8.ofNat n).toNat = n :=
  UInt8.toNat_ofNat_of_lt (Nat.lt_succ_of_le h)

theorem toNat_ofNat_continuation (bits : Nat) :
    (UInt8.ofNat (bits % 0x40 + 0x80)).toNat = bits % 0x40 + 0x80 :=
  toNat_ofNat_of_le (by omega)

theorem continuation_contains_ofNat (bits : Nat) :
    continuation.contains (UInt8.ofNat (bits % 0x40 + 0x80)) = true := by
  rw [ByteRange.contains_iff, toNat_ofNat_continuation]
  simp only [continuation, UInt8.reduceToNat]
  omega

section

variable {c : Char} (rest : Bytes)

theorem readSegment_twoBytes (hl : 0x7F < c.toNat) (hu : c.toNat ≤ 0x7FF) :
    readSegment (UInt8.ofNat (c.toNat / 64 % 0x20 + 0xC0))
      ([UInt8.ofNat (c.toNat % 0x40 + 0x80)] ++ rest) = (.char c, rest) := by
  have hb : (UInt8.ofNat (c.toNat / 64 % 0x20 + 0xC0)).toNat = c.toNat / 64 + 0xC0 := by
    rw [toNat_ofNat_of_le (by omega)]
    omega
  refine readSegment_of_contains (lead?_of_lt_0xE0 (by omega) (by omega))
    (.cons (continuation_contains_ofNat _) .nil) ?_ rest
  simp only [bitsAfter, List.foldl_cons, List.foldl_nil, hb, toNat_ofNat_continuation]
  omega

theorem readSegment_threeBytes (hl : 0x7FF < c.toNat) (hu : c.toNat ≤ 0xFFFF) :
    readSegment (UInt8.ofNat (c.toNat / 4096 % 0x10 + 0xE0))
      ([UInt8.ofNat (c.toNat / 64 % 0x40 + 0x80), UInt8.ofNat (c.toNat % 0x40 + 0x80)] ++ rest) =
        (.char c, rest) := by
  have hvalid : c.toNat < 0xD800 ∨ 0xDFFF < c.toNat ∧ c.toNat < 0x110000 := c.valid
  have hb : (UInt8.ofNat (c.toNat / 4096 % 0x10 + 0xE0)).toNat = c.toNat / 4096 + 0xE0 := by
    rw [toNat_ofNat_of_le (by omega)]
    omega
  refine readSegment_of_contains (lead?_of_lt_0xF0 (by omega) (by omega))
    (.cons ?_ (.cons (continuation_contains_ofNat _) .nil)) ?_ rest
  · -- a second byte out of its range would be one of a longer form or of a surrogate
    rw [ByteRange.contains_iff, hb, toNat_ofNat_continuation]
    split <;> split <;> simp only [UInt8.reduceToNat] <;> omega
  · simp only [bitsAfter, List.foldl_cons, List.foldl_nil, hb, toNat_ofNat_continuation]
    omega

theorem readSegment_fourBytes (hl : 0xFFFF < c.toNat) :
    readSegment (UInt8.ofNat (c.toNat / 262144 % 0x08 + 0xF0))
      ([UInt8.ofNat (c.toNat / 4096 % 0x40 + 0x80), UInt8.ofNat (c.toNat / 64 % 0x40 + 0x80),
        UInt8.ofNat (c.toNat % 0x40 + 0x80)] ++ rest) = (.char c, rest) := by
  have hvalid : c.toNat < 0xD800 ∨ 0xDFFF < c.toNat ∧ c.toNat < 0x110000 := c.valid
  have hb : (UInt8.ofNat (c.toNat / 262144 % 0x08 + 0xF0)).toNat = c.toNat / 262144 + 0xF0 := by
    rw [toNat_ofNat_of_le (by omega)]
    omega
  refine readSegment_of_contains (lead?_of_lt_0xF5 (by omega) (by omega))
    (.cons ?_ (.cons (continuation_contains_ofNat _)
      (.cons (continuation_contains_ofNat _) .nil))) ?_ rest
  · rw [ByteRange.contains_iff, hb, toNat_ofNat_continuation]
    split <;> split <;> simp only [UInt8.reduceToNat] <;> omega
  · simp only [bitsAfter, List.foldl_cons, List.foldl_nil, hb, toNat_ofNat_continuation]
    omega

/-- What is read of an encoded character is the character, whatever stands after it. -/
theorem readSegment_utf8EncodeChar {b : UInt8} {more : Bytes}
    (h : String.utf8EncodeChar c = b :: more) : readSegment b (more ++ rest) = (.char c, rest) := by
  have hval : c.val.toNat = c.toNat := rfl
  simp only [String.utf8EncodeChar, hval] at h
  split at h
  next h1 =>
    obtain ⟨rfl, rfl⟩ := List.cons.inj h
    have hb : (UInt8.ofNat c.toNat).toNat = c.toNat := toNat_ofNat_of_le (by omega)
    exact readSegment_of_contains (lead?_of_lt_0x80 (by omega)) .nil hb rest
  next h1 =>
    split at h
    next h2 =>
      obtain ⟨rfl, rfl⟩ := List.cons.inj h
      exact readSegment_twoBytes rest (by omega) h2
    next h2 =>
      split at h
      next h3 =>
        obtain ⟨rfl, rfl⟩ := List.cons.inj h
        exact readSegment_threeBytes rest (by omega) h3
      next h3 =>
        obtain ⟨rfl, rfl⟩ := List.cons.inj h
        exact readSegment_fourBytes rest (by omega)

end

theorem exists_utf8EncodeChar (c : Char) : ∃ b more, String.utf8EncodeChar c = b :: more :=
  List.exists_cons_of_ne_nil String.utf8EncodeChar_ne_nil

theorem segments_flatMap_append (chars : List Char) (rest : Bytes) :
    segments (chars.flatMap String.utf8EncodeChar ++ rest) = chars.map .char ++ segments rest := by
  induction chars with
  | nil => rfl
  | cons c chars ih =>
    obtain ⟨b, more, hc⟩ := exists_utf8EncodeChar c
    rw [List.flatMap_cons, hc, List.append_assoc, List.cons_append, segments_cons,
      readSegment_utf8EncodeChar _ hc, ih, List.map_cons, List.cons_append]

theorem segments_flatMap_utf8EncodeChar (chars : List Char) :
    segments (chars.flatMap String.utf8EncodeChar) = chars.map .char := by
  have hall := segments_flatMap_append chars []
  rwa [List.append_nil, segments_nil, List.append_nil] at hall

theorem firstFault?_map_char_append (index : Nat) (chars : List Char) (rest : List Segment) :
    firstFault? index (chars.map .char ++ rest) =
      firstFault? (index + (chars.flatMap String.utf8EncodeChar).length) rest := by
  induction chars generalizing index with
  | nil => rfl
  | cons c chars ih =>
    rw [List.map_cons, List.cons_append, firstFault?, ih, List.flatMap_cons, List.length_append,
      String.length_utf8EncodeChar, Nat.add_assoc]

theorem firstFault?_map_char (index : Nat) (chars : List Char) :
    firstFault? index (chars.map .char) = none := by
  have hall := firstFault?_map_char_append index chars []
  rwa [List.append_nil] at hall

theorem lossyText_ofText (text : String) : lossyText (Bytes.ofText text) = text := by
  rw [lossyText, Bytes.ofText_eq, segments_flatMap_utf8EncodeChar, List.map_map]
  have hshown : Segment.shown ∘ Segment.char = id := rfl
  rw [hshown, List.map_id, String.ofList_toList]

/-- A text is read back from its bytes. -/
theorem utf8Text_ofText (text : String) : utf8Text (Bytes.ofText text) = .ok text := by
  have hfault : firstFault? 0 (segments (Bytes.ofText text)) = none := by
    rw [Bytes.ofText_eq, segments_flatMap_utf8EncodeChar, firstFault?_map_char]
  simp only [utf8Text, hfault, lossyText_ofText]

/-- Whether bytes are those of a text. -/
def IsText (bytes : Bytes) : Prop := ∃ text : String, Bytes.ofText text = bytes

theorem isText_iff {bytes : Bytes} :
    IsText bytes ↔ ∃ chars : List Char, bytes = chars.flatMap String.utf8EncodeChar := by
  constructor
  · rintro ⟨text, rfl⟩
    exact ⟨text.toList, Bytes.ofText_eq text⟩
  · rintro ⟨chars, rfl⟩
    exact ⟨String.ofList chars, Bytes.ofText_ofList chars⟩

namespace IsText

variable {before after bytes : Bytes}

theorem nil : IsText [] := ⟨"", rfl⟩

theorem append (hb : IsText before) (ha : IsText after) : IsText (before ++ after) := by
  obtain ⟨front, rfl⟩ := isText_iff.mp hb
  obtain ⟨back, rfl⟩ := isText_iff.mp ha
  exact isText_iff.mpr ⟨front ++ back, List.flatMap_append.symm⟩

/-- After a text that begins a text stands a text. -/
theorem of_append (h : IsText (before ++ after)) (hb : IsText before) : IsText after := by
  obtain ⟨front, rfl⟩ := isText_iff.mp hb
  clear hb
  induction front with
  | nil => exact h
  | cons c front ih =>
    obtain ⟨chars, hchars⟩ := isText_iff.mp h
    obtain ⟨b, more, hc⟩ := exists_utf8EncodeChar c
    rw [List.flatMap_cons, hc, List.append_assoc, List.cons_append] at hchars
    cases chars with
    | nil => simp at hchars
    | cons c' chars =>
      obtain ⟨b', more', hc'⟩ := exists_utf8EncodeChar c'
      rw [List.flatMap_cons, hc', List.cons_append] at hchars
      obtain ⟨rfl, hrest⟩ := List.cons.inj hchars
      have hread := readSegment_utf8EncodeChar (front.flatMap String.utf8EncodeChar ++ after) hc
      rw [hrest, readSegment_utf8EncodeChar _ hc'] at hread
      exact ih (isText_iff.mpr ⟨chars, (Prod.mk.inj hread).2.symm⟩)

/-- A text is cut between characters before any byte that can begin one. -/
theorem cut (h : IsText (before ++ after))
    (begins : ∀ b rest, after = b :: rest → b.IsUTF8FirstByte) : IsText before := by
  obtain ⟨chars, hchars⟩ := isText_iff.mp h
  clear h
  induction chars generalizing before with
  | nil =>
    rw [List.flatMap_nil, List.append_eq_nil_iff] at hchars
    exact hchars.1 ▸ nil
  | cons c chars ih =>
    rw [List.flatMap_cons] at hchars
    rcases List.append_eq_append_iff.mp hchars with ⟨inside, hc, ha⟩ | ⟨more, hb, hrest⟩
    · cases inside with
      | nil =>
        rw [List.append_nil] at hc
        exact isText_iff.mpr ⟨[c], by simp [hc]⟩
      | cons b inside =>
        have hl : before.length < (String.utf8EncodeChar c).length := by simp [hc]
        have hb : (String.utf8EncodeChar c)[before.length] = b := by simp [hc]
        have hzero := UInt8.isUTF8FirstByte_getElem_utf8EncodeChar.mp (hb ▸ begins b _ ha)
        exact List.length_eq_zero_iff.mp hzero ▸ nil
    · rw [hb]
      exact append (isText_iff.mpr ⟨[c], by simp⟩) (ih hrest.symm)

theorem isUTF8FirstByte {b : UInt8} {rest : Bytes} (h : IsText (b :: rest)) :
    b.IsUTF8FirstByte := by
  obtain ⟨chars, hchars⟩ := isText_iff.mp h
  cases chars with
  | nil => simp at hchars
  | cons c chars =>
    obtain ⟨b', more, hc⟩ := exists_utf8EncodeChar c
    rw [List.flatMap_cons, hc, List.cons_append] at hchars
    obtain ⟨rfl, -⟩ := List.cons.inj hchars
    have hfirst := UInt8.isUTF8FirstByte_getElem_zero_utf8EncodeChar (c := c)
    simpa [hc] using hfirst

/-- Where a text with characters stands inside a text, there is a text before it and one after
it. -/
theorem around {word : Bytes} (h : IsText (before ++ (word ++ after))) (hw : IsText word)
    (hne : word ≠ []) : IsText before ∧ IsText after := by
  obtain ⟨b, rest, rfl⟩ := List.exists_cons_of_ne_nil hne
  have hb : IsText before := by
    refine h.cut fun c more he => ?_
    obtain ⟨rfl, -⟩ := List.cons.inj he
    exact hw.isUTF8FirstByte
  exact ⟨hb, (h.of_append hb).of_append hw⟩

end IsText

theorem isText_lineFeed : IsText [lineFeed] := ⟨"\n", by decide⟩

theorem isText_carriageReturn : IsText [carriageReturn] := ⟨"\r", by decide⟩

theorem isText_of_isSpace {b : UInt8} (h : isSpace b = true) : IsText [b] := by
  rcases isSpace_iff.mp h with rfl | rfl | rfl | rfl | rfl | rfl
  · exact ⟨"\t", by decide⟩
  · exact isText_lineFeed
  · exact ⟨"\x0b", by decide⟩
  · exact ⟨"\x0c", by decide⟩
  · exact isText_carriageReturn
  · exact ⟨" ", by decide⟩

theorem isText_spaces {spaces : Bytes} (h : ∀ b ∈ spaces, isSpace b = true) : IsText spaces := by
  induction spaces with
  | nil => exact .nil
  | cons b spaces ih =>
    rw [List.forall_mem_cons] at h
    exact (isText_of_isSpace h.1).append (ih h.2)

end SqlScript
