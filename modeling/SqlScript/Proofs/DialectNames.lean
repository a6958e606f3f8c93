import Mathlib.Data.List.Forall2
import Mathlib.Data.List.Nodup
import Mathlib.Data.List.TakeWhile
import SqlScript.Dialect

namespace SqlScript

/-- The same character, or the same ASCII letter in the other case. -/
inductive SameLetter : Char → Char → Prop
  | same (c : Char) : SameLetter c c
  | small {capital small : Char} (letter : 'A' ≤ capital ∧ capital ≤ 'Z')
      (shifted : small.toNat = capital.toNat + 32) : SameLetter capital small
  | capital {small capital : Char} (letter : 'A' ≤ capital ∧ capital ≤ 'Z')
      (shifted : small.toNat = capital.toNat + 32) : SameLetter small capital

/-- Whether a text says the name of a dialect: in any case of its letters, with any white space
around it. -/
def Dialect.IsNamedBy (dialect : Dialect) (text : String) : Prop :=
  ∃ before word after : String, text = before ++ word ++ after ∧
    (∀ c ∈ before.toList, isWhiteSpace c = true) ∧ (∀ c ∈ after.toList, isWhiteSpace c = true) ∧
    List.Forall₂ SameLetter dialect.name.toList word.toList

theorem isCapital_iff {c : Char} : 'A' ≤ c ∧ c ≤ 'Z' ↔ 65 ≤ c.toNat ∧ c.toNat ≤ 90 := by
  simp only [Char.le_def, UInt32.le_iff_toNat_le]
  rfl

theorem toNat_toLower (c : Char) :
    c.toLower.toNat = if 65 ≤ c.toNat ∧ c.toNat ≤ 90 then c.toNat + 32 else c.toNat := by
  unfold Char.toLower
  simp only [← isCapital_iff, ge_iff_le, ← Char.le_def]
  split
  next h =>
    have hle := (isCapital_iff.mp h).2
    change (c.val + 32).toNat = c.toNat + 32
    change c.val.toNat ≤ 90 at hle
    simp only [UInt32.toNat_add, UInt32.reduceToNat]
    change (c.val.toNat + 32) % 4294967296 = c.val.toNat + 32
    omega
  next => rfl

theorem toLower_eq_iff {a b : Char} : a.toLower = b.toLower ↔ SameLetter a b := by
  rw [← Char.toNat_inj, toNat_toLower, toNat_toLower]
  constructor
  · intro h
    split at h
    next ha =>
      split at h
      next hb =>
        obtain rfl : a = b := Char.toNat_inj.mp (by omega)
        exact .same a
      next hb => exact .small (isCapital_iff.mpr ha) h.symm
    next ha =>
      split at h
      next hb => exact .capital (isCapital_iff.mpr hb) h
      next hb =>
        obtain rfl : a = b := Char.toNat_inj.mp h
        exact .same a
  · rintro (_ | ⟨letter, shifted⟩ | ⟨letter, shifted⟩)
    · rfl
    · rw [isCapital_iff] at letter
      rw [if_pos letter, if_neg (by omega), shifted]
    · rw [isCapital_iff] at letter
      rw [if_pos letter, if_neg (by omega), shifted]

theorem sameLetters_iff {a b : List Char} :
    sameLetters a b = true ↔ List.Forall₂ SameLetter a b := by
  have hsame : (fun a b : Char => a.toLower = b.toLower) = SameLetter := by
    funext a b
    exact propext toLower_eq_iff
  rw [sameLetters, beq_iff_eq, ← List.forall₂_eq_eq_eq, List.forall₂_map_left_iff,
    List.forall₂_map_right_iff, hsame]

/-- Characters are white space, what is left of them, and white space. -/
theorem exists_around_trimmed (chars : List Char) :
    ∃ before after, chars = before ++ trimmed chars ++ after ∧
      (∀ c ∈ before, isWhiteSpace c = true) ∧ ∀ c ∈ after, isWhiteSpace c = true := by
  refine ⟨chars.takeWhile isWhiteSpace,
    ((chars.dropWhile isWhiteSpace).reverse.takeWhile isWhiteSpace).reverse, ?_,
    fun c => List.mem_takeWhile_imp, fun c hc => List.mem_takeWhile_imp (List.mem_reverse.mp hc)⟩
  rw [List.append_assoc, trimmed, ← List.reverse_append, List.takeWhile_append_dropWhile,
    List.reverse_reverse, List.takeWhile_append_dropWhile]

theorem dropWhile_word {word : List Char} (hne : word ≠ [])
    (hw : ∀ c ∈ word, isWhiteSpace c = false) (rest : List Char) :
    (word ++ rest).dropWhile isWhiteSpace = word ++ rest := by
  obtain ⟨c, word, rfl⟩ := List.exists_cons_of_ne_nil hne
  rw [List.cons_append, List.dropWhile_cons_of_neg]
  simp [hw c List.mem_cons_self]

theorem trimmed_append {before word after : List Char}
    (hb : ∀ c ∈ before, isWhiteSpace c = true) (ha : ∀ c ∈ after, isWhiteSpace c = true)
    (hne : word ≠ []) (hw : ∀ c ∈ word, isWhiteSpace c = false) :
    trimmed (before ++ word ++ after) = word := by
  have hback : (after.reverse ++ word.reverse).dropWhile isWhiteSpace = word.reverse := by
    rw [List.dropWhile_append_of_pos fun c hc => ha c (List.mem_reverse.mp hc)]
    have hword := dropWhile_word (List.reverse_ne_nil_iff.mpr hne)
      (fun c hc => hw c (List.mem_reverse.mp hc)) []
    rwa [List.append_nil] at hword
  rw [trimmed, List.append_assoc, List.dropWhile_append_of_pos hb, dropWhile_word hne hw,
    List.reverse_append, hback, List.reverse_reverse]

theorem not_isWhiteSpace {c : Char} (hl : 33 ≤ c.toNat) (hu : c.toNat ≤ 132) :
    isWhiteSpace c = false := by
  simp only [isWhiteSpace, CharTable.contains, whiteSpace, CharRange.contains, List.any_cons,
    List.any_nil, Bool.or_false, Bool.or_eq_false_iff, Bool.and_eq_false_imp, decide_eq_true_eq,
    decide_eq_false_iff_not]
  omega

/-- A letter is no white space, in whichever case it is. -/
theorem SameLetter.not_isWhiteSpace {a b : Char} (h : SameLetter a b)
    (letter : 65 ≤ a.toNat ∧ a.toNat ≤ 122) : isWhiteSpace b = false := by
  cases h with
  | same => exact SqlScript.not_isWhiteSpace (by omega) (by omega)
  | small capital shifted =>
    rw [isCapital_iff] at capital
    exact SqlScript.not_isWhiteSpace (by omega) (by omega)
  | capital capital shifted =>
    rw [isCapital_iff] at capital
    exact SqlScript.not_isWhiteSpace (by omega) (by omega)

theorem word_not_isWhiteSpace {name word : List Char} (h : List.Forall₂ SameLetter name word)
    (letters : ∀ c ∈ name, 65 ≤ c.toNat ∧ c.toNat ≤ 122) :
    ∀ c ∈ word, isWhiteSpace c = false := by
  induction h with
  | nil => simp
  | cons hc _ ih =>
    rw [List.forall_mem_cons] at letters ⊢
    exact ⟨hc.not_isWhiteSpace letters.1, ih letters.2⟩

namespace Dialect

theorem mem_all (dialect : Dialect) : dialect ∈ all := by
  cases dialect <;> decide

theorem name_letters (dialect : Dialect) :
    ∀ c ∈ dialect.name.toList, 65 ≤ c.toNat ∧ c.toNat ≤ 122 := by
  cases dialect <;> exact List.forall_iff_forall_mem.mp (by decide)

theorem name_ne_nil (dialect : Dialect) : dialect.name.toList ≠ [] := by
  cases dialect <;> decide

/-- No two names are the same up to the case of their letters. -/
theorem eq_of_sameLetters {dialect other : Dialect} {word : List Char}
    (h : sameLetters dialect.name.toList word = true)
    (ho : sameLetters other.name.toList word = true) : dialect = other := by
  have hnodup : (all.map fun d => d.name.toList.map Char.toLower).Nodup := by decide
  rw [sameLetters, beq_iff_eq] at h ho
  exact List.inj_on_of_nodup_map hnodup dialect.mem_all other.mem_all (h.trans ho.symm)

theorem isNamedBy_iff {dialect : Dialect} {text : String} :
    dialect.IsNamedBy text ↔ sameLetters dialect.name.toList (trimmed text.toList) = true := by
  rw [sameLetters_iff]
  constructor
  · rintro ⟨before, word, after, rfl, hb, ha, hword⟩
    have hne : word.toList ≠ [] := by
      intro hnil
      rw [hnil, List.forall₂_nil_right_iff] at hword
      exact dialect.name_ne_nil hword
    have hw := word_not_isWhiteSpace hword dialect.name_letters
    rwa [String.toList_append, String.toList_append, trimmed_append hb ha hne hw]
  · intro hword
    obtain ⟨before, after, htext, hb, ha⟩ := exists_around_trimmed text.toList
    refine ⟨String.ofList before, String.ofList (trimmed text.toList), String.ofList after,
      ?_, ?_, ?_, ?_⟩
    · rw [← String.toList_inj]
      simpa using htext
    all_goals rwa [String.toList_ofList]

theorem ofName_eq_ok_iff {dialect : Dialect} {text : String} :
    ofName text = .ok dialect ↔ dialect.IsNamedBy text := by
  rw [isNamedBy_iff, ofName]
  split
  next found hfound =>
    have hsame := List.find?_some hfound
    constructor
    · rintro ⟨⟩
      exact hsame
    · exact fun h => congrArg Except.ok (eq_of_sameLetters hsame h)
  next hnone =>
    have hno := List.find?_eq_none.mp hnone dialect dialect.mem_all
    simp [hno]

theorem IsNamedBy.unique {dialect other : Dialect} {text : String} (h : dialect.IsNamedBy text)
    (ho : other.IsNamedBy text) : dialect = other :=
  eq_of_sameLetters (isNamedBy_iff.mp h) (isNamedBy_iff.mp ho)

theorem ofName_eq_error_iff {failure : Failure} {text : String} :
    ofName text = .error failure ↔
      (∀ dialect : Dialect, ¬dialect.IsNamedBy text) ∧ failure = .unknownDialect text := by
  simp only [isNamedBy_iff, ofName]
  split
  next found hfound =>
    have hsame := List.find?_some hfound
    simp only [reduceCtorEq, false_iff, not_and]
    exact fun hno => absurd hsame (hno found)
  next hnone =>
    rw [Except.error.injEq]
    refine ⟨?_, fun h => h.2.symm⟩
    rintro rfl
    exact ⟨fun dialect => List.find?_eq_none.mp hnone dialect dialect.mem_all, rfl⟩

end Dialect

/-- A text is read as a dialect where it is the name, in any letter case, with any white space
around. -/
theorem dialect_names_parse (text : String) :
    (∀ dialect, Dialect.ofName text = .ok dialect ↔ dialect.IsNamedBy text) ∧
      (∀ dialect other : Dialect, dialect.IsNamedBy text → other.IsNamedBy text →
        dialect = other) ∧
      (∀ failure, Dialect.ofName text = .error failure ↔
        (∀ dialect : Dialect, ¬dialect.IsNamedBy text) ∧ failure = .unknownDialect text) ∧
      ∀ (dialect : Dialect) (before after : String),
        (∀ c ∈ before.toList, isWhiteSpace c = true) →
        (∀ c ∈ after.toList, isWhiteSpace c = true) →
        List.Forall₂ SameLetter (toString dialect).toList text.toList →
        Dialect.ofName (before ++ text ++ after) = .ok dialect := by
  refine ⟨fun _ => Dialect.ofName_eq_ok_iff, fun _ _ => Dialect.IsNamedBy.unique,
    fun _ => Dialect.ofName_eq_error_iff, fun dialect before after hb ha hword => ?_⟩
  exact Dialect.ofName_eq_ok_iff.mpr ⟨before, text, after, rfl, hb, ha, hword⟩

/-- A wide space is white space; a long s is no letter of a name, and a space without width is no
white space. -/
example :
    Dialect.ofName "\u3000mYsQL\u00a0" = .ok .mySql ∧
      Dialect.ofName "my\u017fql" = .error (.unknownDialect "my\u017fql") ∧
      Dialect.ofName " oracle\u200b" = .error (.unknownDialect " oracle\u200b") := by
  decide +kernel

end SqlScript
