import SqlScript.Statement
import SqlScript.Proofs.Utf8Segments

namespace SqlScript

theorem lossyText_append (front : String) (rest : Bytes) :
    lossyText (Bytes.ofText front ++ rest) = front ++ lossyText rest := by
  have hshown : Segment.shown ∘ Segment.char = id := rfl
  rw [lossyText, Bytes.ofText_eq, segments_flatMap_append, List.map_append, List.map_map, hshown,
    List.map_id, String.ofList_append, String.ofList_toList, lossyText]

theorem firstFault?_append (front : String) (rest : Bytes) :
    firstFault? 0 (segments (Bytes.ofText front ++ rest)) =
      firstFault? (Bytes.ofText front).length (segments rest) := by
  rw [Bytes.ofText_eq, segments_flatMap_append, firstFault?_map_char_append, Nat.zero_add]

theorem lossyText_cons (b : UInt8) (rest : Bytes) :
    lossyText (b :: rest) =
      String.ofList [(readSegment b rest).1.shown] ++ lossyText (readSegment b rest).2 := by
  rw [lossyText, segments_cons, List.map_cons, ← List.singleton_append, String.ofList_append]
  rfl

/-- What strict and lossy reading make of bytes, with all that it depends on. -/
inductive TextOf : Bytes → Except Utf8Fault String → String → Prop
  | whole (text : String) : TextOf (Bytes.ofText text) (.ok text) text
  | invalid (front : String) {run rest : Bytes}
      (unread : ∀ c, ¬String.utf8EncodeChar c <+: run ++ rest) (taken : run ≠ [])
      (begun : run.length = 1 ∨ BeginsCharacter run)
      (stopped : ¬BeginsCharacter (run ++ rest.take 1)) :
      TextOf (Bytes.ofText front ++ (run ++ rest))
        (.error ⟨(Bytes.ofText front).length, some run.length⟩)
        (front ++ "\uFFFD" ++ lossyText rest)
  | truncated (front : String) {run : Bytes} (unread : ∀ c, ¬String.utf8EncodeChar c <+: run)
      (taken : run ≠ []) (begun : BeginsCharacter run) :
      TextOf (Bytes.ofText front ++ run) (.error ⟨(Bytes.ofText front).length, none⟩)
        (front ++ "\uFFFD")

theorem textOf (bytes : Bytes) : TextOf bytes (utf8Text bytes) (lossyText bytes) := by
  obtain ⟨chars, rest, rfl, hrest⟩ := exists_chars bytes
  rw [← Bytes.ofText_ofList]
  generalize String.ofList chars = front
  cases rest with
  | nil =>
    rw [List.append_nil, utf8Text_ofText, lossyText_ofText]
    exact .whole front
  | cons b after =>
    have hs := readSegment_of b after
    have hne := List.cons_ne_nil b after
    rw [utf8Text, firstFault?_append, segments_cons, lossyText_append, lossyText_cons,
      ← String.append_assoc]
    generalize (readSegment b after).1 = segment, (readSegment b after).2 = left at hs ⊢
    generalize b :: after = bytes at hs hne hrest ⊢
    cases hs with
    | char c => exact absurd (List.prefix_append _ _) (hrest c)
    | invalid taken begun stopped => exact .invalid front hrest taken begun stopped
    | truncated begun =>
      rw [lossyText, segments_nil, List.map_nil, String.ofList_nil, String.append_empty]
      exact .truncated front hrest hne begun

/-- What a fault says of bytes: the longest text that they begin with, and the run that is passed
over. -/
structure Utf8Fault.IsFirstIn (fault : Utf8Fault) (bytes : Bytes) : Prop where
  inside : fault.validUpTo < bytes.length
  valid : IsText (bytes.take fault.validUpTo)
  longest : ∀ front, front <+: bytes → IsText front → front.length ≤ fault.validUpTo
  truncated : fault.length = none → BeginsCharacter (bytes.drop fault.validUpTo)
  invalid : ∀ n, fault.length = some n → 0 < n ∧ fault.validUpTo + n ≤ bytes.length ∧
    (n = 1 ∨ BeginsCharacter ((bytes.drop fault.validUpTo).take n)) ∧
    ¬BeginsCharacter ((bytes.drop fault.validUpTo).take (n + 1))

/-- After a text that no character follows, bytes begin with no longer text. -/
theorem IsText.length_le {front rest longer : Bytes} (hf : IsText front)
    (unread : ∀ c, ¬String.utf8EncodeChar c <+: rest) (hp : longer <+: front ++ rest)
    (hl : IsText longer) : longer.length ≤ front.length := by
  by_contra hlt
  obtain ⟨more, rfl⟩ := List.prefix_of_prefix_length_le (List.prefix_append front rest) hp
    (by omega)
  have hne : more ≠ [] := by
    rintro rfl
    simp at hlt
  obtain ⟨c, hc⟩ := (hl.of_append hf).exists_isPrefix hne
  exact unread c (hc.trans ((List.prefix_append_right_inj front).mp hp))

theorem Utf8Fault.IsFirstIn.of_utf8Text {bytes : Bytes} {fault : Utf8Fault}
    (h : utf8Text bytes = .error fault) : fault.IsFirstIn bytes := by
  have ht := textOf bytes
  rw [h] at ht
  generalize lossyText bytes = text at ht
  cases ht with
  | @invalid front run rest unread taken begun stopped =>
    have hpos := List.length_pos_iff.mpr taken
    have htake : (run ++ rest).take (run.length + 1) = run ++ rest.take 1 :=
      List.take_length_add_append 1
    refine ⟨?_, ?_, fun _ => IsText.length_le ⟨front, rfl⟩ unread, nofun, ?_⟩
    · simp only [List.length_append]
      omega
    · rw [List.take_left]
      exact ⟨front, rfl⟩
    · rintro n ⟨⟩
      rw [List.drop_left, List.take_left, htake]
      refine ⟨hpos, ?_, begun, stopped⟩
      simp only [List.length_append]
      omega
  | @truncated front run unread taken begun =>
    have hpos := List.length_pos_iff.mpr taken
    refine ⟨?_, ?_, fun _ => IsText.length_le ⟨front, rfl⟩ unread, ?_, nofun⟩
    · simp only [List.length_append]
      omega
    · rw [List.take_left]
      exact ⟨front, rfl⟩
    · intro _
      rwa [List.drop_left]

section

variable {bytes : Bytes}

theorem Utf8Fault.IsFirstIn.le_of_invalid {index n m : Nat}
    (h : IsFirstIn ⟨index, some n⟩ bytes) (ho : IsFirstIn ⟨index, some m⟩ bytes) : m ≤ n := by
  obtain ⟨hpos, -, -, hstopped⟩ := h.invalid n rfl
  obtain ⟨-, -, hone | hbegun, -⟩ := ho.invalid m rfl
  · omega
  · by_contra hlt
    exact hstopped (hbegun.of_isPrefix (List.take_prefix_take_left (by omega)))

theorem Utf8Fault.IsFirstIn.not_invalid {index n : Nat} (h : IsFirstIn ⟨index, none⟩ bytes) :
    ¬IsFirstIn ⟨index, some n⟩ bytes := by
  intro ho
  obtain ⟨-, -, -, hstopped⟩ := ho.invalid n rfl
  exact hstopped ((h.truncated rfl).of_isPrefix (List.take_prefix _ _))

/-- Bytes have one first fault at most. -/
theorem Utf8Fault.IsFirstIn.unique {fault other : Utf8Fault} (h : fault.IsFirstIn bytes)
    (ho : other.IsFirstIn bytes) : fault = other := by
  obtain ⟨index, length⟩ := fault
  obtain ⟨index', length'⟩ := other
  obtain rfl : index = index' := by
    have hle := h.longest _ (List.take_prefix _ _) ho.valid
    have hge := ho.longest _ (List.take_prefix _ _) h.valid
    have hin := h.inside
    have hin' := ho.inside
    simp only [List.length_take] at hle hge hin hin'
    omega
  rw [Utf8Fault.mk.injEq]
  refine ⟨rfl, ?_⟩
  cases length with
  | none =>
    cases length' with
    | none => rfl
    | some m => exact absurd ho h.not_invalid
  | some n =>
    cases length' with
    | none => exact absurd h ho.not_invalid
    | some m => exact congrArg some (Nat.le_antisymm (ho.le_of_invalid h) (h.le_of_invalid ho))

theorem utf8Text_eq_ok_iff {text : String} :
    utf8Text bytes = .ok text ↔ Bytes.ofText text = bytes := by
  constructor
  · intro h
    have ht := textOf bytes
    rw [h] at ht
    generalize lossyText bytes = shown at ht
    cases ht
    rfl
  · rintro rfl
    exact utf8Text_ofText text

theorem utf8Text_eq_error_iff {fault : Utf8Fault} :
    utf8Text bytes = .error fault ↔ fault.IsFirstIn bytes := by
  refine ⟨.of_utf8Text, fun h => ?_⟩
  cases hb : utf8Text bytes with
  | ok text =>
    have hle := h.longest bytes (List.prefix_refl _) ⟨text, utf8Text_eq_ok_iff.mp hb⟩
    exact absurd h.inside (by omega)
  | error other => rw [h.unique (.of_utf8Text hb)]

end

/-- All views of a statement as a text agree, and the fault of the strict one says where U+FFFD
stands. -/
theorem text_views_agree (statement : Statement) :
    toString statement = statement.text ∧ statement.ownText = statement.text ∧
      (∀ text, statement.strictText = .ok text ↔ Bytes.ofText text = statement.bytes) ∧
      (∀ text, statement.strictText = .ok text → statement.text = text) ∧
      (∀ fault, statement.strictText = .error fault ↔ fault.IsFirstIn statement.bytes) ∧
      ∀ fault, statement.strictText = .error fault → ∃ front,
        utf8Text (statement.bytes.take fault.validUpTo) = .ok front ∧
          match fault.length with
          | some n => statement.text =
              front ++ "\uFFFD" ++ lossyText (statement.bytes.drop (fault.validUpTo + n))
          | none => statement.text = front ++ "\uFFFD" ∧
              fault.validUpTo < statement.bytes.length ∧
                ∃ more, IsText (statement.bytes ++ more) := by
  refine ⟨rfl, statement.ownText_eq_text, fun _ => utf8Text_eq_ok_iff,
    fun _ h => lossyText_of_utf8Text h, fun _ => utf8Text_eq_error_iff, fun fault h => ?_⟩
  have ht := textOf statement.bytes
  have hin := (utf8Text_eq_error_iff.mp h).inside
  rw [Statement.strictText] at h
  rw [h] at ht
  rw [Statement.text]
  generalize statement.bytes = bytes at ht hin ⊢
  generalize lossyText bytes = text at ht ⊢
  cases ht with
  | @invalid front run rest unread taken begun stopped =>
    refine ⟨front, ?_, ?_⟩
    · rw [List.take_left, utf8Text_ofText]
    · dsimp only
      rw [← List.drop_drop, List.drop_left, List.drop_left]
  | @truncated front run unread taken begun =>
    obtain ⟨c, more, hc⟩ := begun
    refine ⟨front, ?_, rfl, hin, more, ?_⟩
    · rw [List.take_left, utf8Text_ofText]
    · rw [List.append_assoc, hc]
      exact .append ⟨front, rfl⟩ (isText_iff.mpr ⟨[c], by simp⟩)

/-- A form longer than needed is passed over byte by byte, a character that breaks off as a whole.
-/
example :
    let bytes := [0x61, 0xE0, 0x80, 0xED, 0xA0, 0xF0, 0x9F, 0x62, 0xC3]
    let statement : Statement := ⟨bytes, 1, 1, .sql⟩
    statement.strictText = .error ⟨1, some 1⟩ ∧
      statement.text = "a\uFFFD\uFFFD\uFFFD\uFFFD\uFFFDb\uFFFD" := by
  decide +kernel

end SqlScript
