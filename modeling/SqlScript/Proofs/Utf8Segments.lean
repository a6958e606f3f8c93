import SqlScript.Proofs.Utf8Text

namespace SqlScript

theorem toNat_charOfNat {n : Nat} (h : n.isValidChar) : (Char.ofNat n).toNat = n := by
  rw [Char.ofNat, dif_pos h]
  rfl

theorem lead?_of_lt_0xC2 {b : UInt8} (hl : 0x80 ≤ b.toNat) (hu : b.toNat < 0xC2) :
    lead? b = none := by
  simp only [lead?, UInt8.lt_iff_toNat_lt, UInt8.reduceToNat]
  rw [if_neg (by omega), if_pos hu]

theorem lead?_of_0xF5_le {b : UInt8} (h : 0xF5 ≤ b.toNat) : lead? b = none := by
  simp only [lead?, UInt8.lt_iff_toNat_lt, ← UInt8.toNat_inj, UInt8.reduceToNat]
  grind

theorem continuation_contains_iff {b : UInt8} :
    continuation.contains b = true ↔ 0x80 ≤ b.toNat ∧ b.toNat ≤ 0xBF :=
  ByteRange.contains_iff

/-- A second byte may be bound closer after two first bytes than after all others. -/
theorem contains_narrowed {n first last : Nat} {low high b : UInt8} (hl : 0x80 ≤ low.toNat)
    (hh : high.toNat ≤ 0xBF)
    (h : ByteRange.contains ⟨if n = first then low else 0x80, if n = last then high else 0xBF⟩ b) :
    (0x80 ≤ b.toNat ∧ b.toNat ≤ 0xBF) ∧ (n = first → low.toNat ≤ b.toNat) ∧
      (n = last → b.toNat ≤ high.toNat) := by
  rw [ByteRange.contains_iff] at h
  split at h <;> split at h <;> simp only [UInt8.reduceToNat] at h <;> omega

theorem ofNat_eq_of_toNat {b : UInt8} {n : Nat} (h : n = b.toNat) : UInt8.ofNat n = b := by
  rw [h, UInt8.ofNat_toNat]

section

variable {c : Char} {b x y z : UInt8}

theorem utf8EncodeChar_oneByte (hb : b.toNat < 0x80) (hc : c.toNat = b.toNat) :
    String.utf8EncodeChar c = [b] := by
  have hval : c.val.toNat = b.toNat := hc
  simp only [String.utf8EncodeChar, hval]
  rw [if_pos (by omega), UInt8.ofNat_toNat]

theorem utf8EncodeChar_twoBytes (hb : 0xC2 ≤ b.toNat ∧ b.toNat < 0xE0)
    (hx : 0x80 ≤ x.toNat ∧ x.toNat ≤ 0xBF)
    (hc : c.toNat = (b.toNat - 0xC0) * 64 + (x.toNat - 0x80)) :
    String.utf8EncodeChar c = [b, x] := by
  have hval : c.val.toNat = c.toNat := rfl
  have h1 : UInt8.ofNat (c.toNat / 64 % 32 + 192) = b := ofNat_eq_of_toNat (by omega)
  have h2 : UInt8.ofNat (c.toNat % 64 + 128) = x := ofNat_eq_of_toNat (by omega)
  simp only [String.utf8EncodeChar, hval, h1, h2]
  rw [if_neg (by omega), if_pos (by omega)]

theorem utf8EncodeChar_threeBytes (hb : 0xE0 ≤ b.toNat ∧ b.toNat < 0xF0)
    (hx : 0x80 ≤ x.toNat ∧ x.toNat ≤ 0xBF) (hlong : b.toNat = 0xE0 → 0xA0 ≤ x.toNat)
    (hy : 0x80 ≤ y.toNat ∧ y.toNat ≤ 0xBF)
    (hc : c.toNat = ((b.toNat - 0xE0) * 64 + (x.toNat - 0x80)) * 64 + (y.toNat - 0x80)) :
    String.utf8EncodeChar c = [b, x, y] := by
  have hval : c.val.toNat = c.toNat := rfl
  have h1 : UInt8.ofNat (c.toNat / 4096 % 16 + 224) = b := ofNat_eq_of_toNat (by omega)
  have h2 : UInt8.ofNat (c.toNat / 64 % 64 + 128) = x := ofNat_eq_of_toNat (by omega)
  have h3 : UInt8.ofNat (c.toNat % 64 + 128) = y := ofNat_eq_of_toNat (by omega)
  simp only [String.utf8EncodeChar, hval, h1, h2, h3]
  rw [if_neg (by omega), if_neg (by omega), if_pos (by omega)]

theorem utf8EncodeChar_fourBytes (hb : 0xF0 ≤ b.toNat ∧ b.toNat < 0xF5)
    (hx : 0x80 ≤ x.toNat ∧ x.toNat ≤ 0xBF) (hlong : b.toNat = 0xF0 → 0x90 ≤ x.toNat)
    (hy : 0x80 ≤ y.toNat ∧ y.toNat ≤ 0xBF) (hz : 0x80 ≤ z.toNat ∧ z.toNat ≤ 0xBF)
    (hc : c.toNat =
      (((b.toNat - 0xF0) * 64 + (x.toNat - 0x80)) * 64 + (y.toNat - 0x80)) * 64 +
        (z.toNat - 0x80)) :
    String.utf8EncodeChar c = [b, x, y, z] := by
  have hval : c.val.toNat = c.toNat := rfl
  have h1 : UInt8.ofNat (c.toNat / 262144 % 8 + 240) = b := ofNat_eq_of_toNat (by omega)
  have h2 : UInt8.ofNat (c.toNat / 4096 % 64 + 128) = x := ofNat_eq_of_toNat (by omega)
  have h3 : UInt8.ofNat (c.toNat / 64 % 64 + 128) = y := ofNat_eq_of_toNat (by omega)
  have h4 : UInt8.ofNat (c.toNat % 64 + 128) = z := ofNat_eq_of_toNat (by omega)
  simp only [String.utf8EncodeChar, hval, h1, h2, h3, h4]
  rw [if_neg (by omega), if_neg (by omega), if_neg (by omega)]

end

/-- Bytes in the ranges that a first byte asks for are, with it, the encoding of a character. -/
theorem utf8EncodeChar_of_lead? {b : UInt8} {bits : Nat} {ranges : List ByteRange} {more : Bytes}
    (hb : lead? b = some (bits, ranges))
    (h : List.Forall₂ (fun range b => ByteRange.contains range b = true) ranges more) :
    String.utf8EncodeChar (Char.ofNat (bitsAfter bits more)) = b :: more := by
  rcases Nat.lt_or_ge b.toNat 0x80 with h1 | h1
  · rw [lead?_of_lt_0x80 h1] at hb
    obtain ⟨rfl, rfl⟩ := Prod.mk.inj (Option.some.inj hb)
    cases h
    exact utf8EncodeChar_oneByte h1 (toNat_charOfNat (.inl (Nat.lt_trans h1 (by decide))))
  rcases Nat.lt_or_ge b.toNat 0xC2 with h2 | h2
  · simp [lead?_of_lt_0xC2 h1 h2] at hb
  rcases Nat.lt_or_ge b.toNat 0xE0 with h3 | h3
  · rw [lead?_of_lt_0xE0 h2 h3] at hb
    obtain ⟨rfl, rfl⟩ := Prod.mk.inj (Option.some.inj hb)
    rcases h with - | @⟨_, x, _, _, hx, h⟩
    cases h
    have hx := continuation_contains_iff.mp hx
    refine utf8EncodeChar_twoBytes ⟨h2, h3⟩ hx (toNat_charOfNat (.inl ?_))
    simp only [bitsAfter, List.foldl_cons, List.foldl_nil]
    omega
  rcases Nat.lt_or_ge b.toNat 0xF0 with h4 | h4
  · rw [lead?_of_lt_0xF0 h3 h4] at hb
    obtain ⟨rfl, rfl⟩ := Prod.mk.inj (Option.some.inj hb)
    rcases h with - | @⟨_, x, _, _, hx, h⟩
    rcases h with - | @⟨_, y, _, _, hy, h⟩
    cases h
    have hy := continuation_contains_iff.mp hy
    obtain ⟨hx, hlong, hsurrogate⟩ := contains_narrowed (by decide) (by decide) hx
    refine utf8EncodeChar_threeBytes ⟨h3, h4⟩ hx hlong hy (toNat_charOfNat ?_)
    simp only [bitsAfter, List.foldl_cons, List.foldl_nil, UInt8.reduceToNat] at hlong hsurrogate ⊢
    unfold Nat.isValidChar
    omega
  rcases Nat.lt_or_ge b.toNat 0xF5 with h5 | h5
  · rw [lead?_of_lt_0xF5 h4 h5] at hb
    obtain ⟨rfl, rfl⟩ := Prod.mk.inj (Option.some.inj hb)
    rcases h with - | @⟨_, x, _, _, hx, h⟩
    rcases h with - | @⟨_, y, _, _, hy, h⟩
    rcases h with - | @⟨_, z, _, _, hz, h⟩
    cases h
    have hy := continuation_contains_iff.mp hy
    have hz := continuation_contains_iff.mp hz
    obtain ⟨hx, hlong, hlarge⟩ := contains_narrowed (by decide) (by decide) hx
    refine utf8EncodeChar_fourBytes ⟨h4, h5⟩ hx hlong hy hz (toNat_charOfNat ?_)
    simp only [bitsAfter, List.foldl_cons, List.foldl_nil, UInt8.reduceToNat] at hlong hlarge ⊢
    unfold Nat.isValidChar
    omega
  · simp [lead?_of_0xF5_le h5] at hb

/-- Bytes with which a character begins: all of its bytes, or fewer. -/
def BeginsCharacter (bytes : Bytes) : Prop := ∃ c : Char, bytes <+: String.utf8EncodeChar c

theorem BeginsCharacter.of_isPrefix {bytes whole : Bytes} (h : BeginsCharacter whole)
    (hp : bytes <+: whole) : BeginsCharacter bytes := by
  obtain ⟨c, hc⟩ := h
  exact ⟨c, hp.trans hc⟩

/-- Bytes meet the ranges one by one, up to the first byte that is not in its range. -/
theorem exists_contained (ranges : List ByteRange) (rest : Bytes) :
    ∃ front back read left, ranges = front ++ back ∧ rest = read ++ left ∧
      List.Forall₂ (fun range b => ByteRange.contains range b = true) front read ∧
      ∀ range b, back.head? = some range → left.head? = some b → range.contains b = false := by
  induction ranges generalizing rest with
  | nil => exact ⟨[], [], [], rest, rfl, rfl, .nil, by simp⟩
  | cons range ranges ih =>
    cases rest with
    | nil => exact ⟨[], range :: ranges, [], [], rfl, rfl, .nil, by simp⟩
    | cons b rest =>
      cases hb : range.contains b with
      | true =>
        obtain ⟨front, back, read, left, rfl, rfl, hread, hnext⟩ := ih rest
        exact ⟨range :: front, back, b :: read, left, rfl, rfl, .cons hb hread, hnext⟩
      | false =>
        refine ⟨[], range :: ranges, [], b :: rest, rfl, rfl, .nil, ?_⟩
        simp [hb]

/-- No range is empty, so a character that has begun can always go on. -/
theorem lead?_contains_low {b : UInt8} {bits : Nat} {ranges : List ByteRange}
    (hb : lead? b = some (bits, ranges)) : ∀ range ∈ ranges, range.contains range.low = true := by
  unfold lead? at hb
  split_ifs at hb <;> obtain ⟨-, rfl⟩ := Prod.mk.inj (Option.some.inj hb) <;> decide

theorem readSegment_of_isPrefix {b : UInt8} {rest : Bytes} {c : Char}
    (h : String.utf8EncodeChar c <+: b :: rest) : (readSegment b rest).1 = .char c := by
  obtain ⟨b', more, hc⟩ := exists_utf8EncodeChar c
  obtain ⟨left, hleft⟩ := h
  rw [hc, List.cons_append] at hleft
  obtain ⟨rfl, rfl⟩ := List.cons.inj hleft
  rw [readSegment_utf8EncodeChar left hc]

/-- What a segment that is read can be: a character, a run that cannot become one, or one broken
off. -/
inductive SegmentOf : Bytes → Segment → Bytes → Prop
  | char (c : Char) (rest : Bytes) : SegmentOf (String.utf8EncodeChar c ++ rest) (.char c) rest
  | invalid {run rest : Bytes} (taken : run ≠ []) (begun : run.length = 1 ∨ BeginsCharacter run)
      (stopped : ¬BeginsCharacter (run ++ rest.take 1)) :
      SegmentOf (run ++ rest) (.invalid run.length) rest
  | truncated {run : Bytes} (begun : BeginsCharacter run) :
      SegmentOf run (.truncated run.length) []

theorem readSegment_of (b : UInt8) (rest : Bytes) :
    SegmentOf (b :: rest) (readSegment b rest).1 (readSegment b rest).2 := by
  cases hb : lead? b with
  | none =>
    have hread (rest : Bytes) : readSegment b rest = (.invalid 1, rest) := by
      simp only [readSegment, hb]
    rw [hread]
    refine @SegmentOf.invalid [b] rest (List.cons_ne_nil _ _) (.inl rfl) ?_
    rintro ⟨c, more, hc⟩
    have hchar : (readSegment b (rest.take 1 ++ more)).1 = .char c :=
      readSegment_of_isPrefix (by simp [← hc])
    simp [hread] at hchar
  | some lead =>
    obtain ⟨bits, ranges⟩ := lead
    obtain ⟨front, back, read, left, rfl, rfl, hfront, hnext⟩ := exists_contained ranges rest
    have hread (left : Bytes) : readSegment b (read ++ left) =
        readCharacter (bitsAfter bits read) (1 + read.length) back left := by
      simp only [readSegment, hb, readCharacter_append hfront]
    have hbegins : BeginsCharacter (b :: read) := by
      have hlow : List.Forall₂ (fun range b => ByteRange.contains range b = true) back
          (back.map ByteRange.low) := by
        rw [List.forall₂_map_right_iff, List.forall₂_same]
        exact fun range hr => lead?_contains_low hb range (List.mem_append_right _ hr)
      have hc := utf8EncodeChar_of_lead? hb (List.rel_append hfront hlow)
      exact ⟨_, back.map ByteRange.low, hc.symm⟩
    cases back with
    | nil =>
      have hc := utf8EncodeChar_of_lead? hb (by rwa [List.append_nil])
      rw [hread, readCharacter, ← List.cons_append, ← hc]
      exact .char _ left
    | cons range back =>
      cases left with
      | nil =>
        rw [hread, readCharacter, List.append_nil, Nat.add_comm]
        exact @SegmentOf.truncated (b :: read) hbegins
      | cons x left =>
        have hx := hnext range x rfl rfl
        have hstop (left : Bytes) : readSegment b (read ++ x :: left) =
            (.invalid (1 + read.length), x :: left) := by
          rw [hread, readCharacter, if_neg (by simp [hx])]
        rw [hstop, Nat.add_comm]
        refine @SegmentOf.invalid (b :: read) (x :: left) (List.cons_ne_nil _ _) (.inr hbegins) ?_
        rintro ⟨c, more, hc⟩
        have hchar : (readSegment b (read ++ x :: more)).1 = .char c :=
          readSegment_of_isPrefix (by simp [← hc])
        simp [hstop] at hchar

theorem IsText.exists_isPrefix {bytes : Bytes} (h : IsText bytes) (hne : bytes ≠ []) :
    ∃ c, String.utf8EncodeChar c <+: bytes := by
  obtain ⟨chars, rfl⟩ := isText_iff.mp h
  cases chars with
  | nil => exact absurd rfl hne
  | cons c chars => exact ⟨c, List.prefix_append _ _⟩

/-- Bytes are the characters of a text and bytes that start with none. -/
theorem exists_chars (bytes : Bytes) :
    ∃ (chars : List Char) (rest : Bytes), bytes = chars.flatMap String.utf8EncodeChar ++ rest ∧
      ∀ c, ¬String.utf8EncodeChar c <+: rest := by
  induction hn : bytes.length using Nat.strongRecOn generalizing bytes with
  | ind n ih =>
    by_cases hc : ∃ c, String.utf8EncodeChar c <+: bytes
    · obtain ⟨c, left, rfl⟩ := hc
      have hpos := List.length_pos_iff.mpr (String.utf8EncodeChar_ne_nil (c := c))
      obtain ⟨chars, rest, rfl, hrest⟩ :=
        ih left.length (by rw [← hn, List.length_append]; omega) left rfl
      exact ⟨c :: chars, rest, by rw [List.flatMap_cons, List.append_assoc], hrest⟩
    · exact ⟨[], bytes, rfl, fun c hp => hc ⟨c, hp⟩⟩

end SqlScript
