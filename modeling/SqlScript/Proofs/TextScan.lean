import Mathlib.Data.List.Basic
import SqlScript.Proofs.OnePass

namespace SqlScript

/-- The escape, unless it is the line feed, which stands in no line. -/
def usableEscape (escape : UInt8) : Option UInt8 :=
  if escape = lineFeed then none else some escape

/-- The delimiter, but none in place of one with a line feed, which stands in no line. -/
def usableDelimiter (delimiter : Bytes) : Bytes :=
  if lineFeed ∈ delimiter then [] else delimiter

def joinLines (lines : List Bytes) : Bytes := [lineFeed].intercalate lines

def following (lines : List Bytes) : Bytes := lines.flatMap (lineFeed :: ·)

/-- Whether a line ends before the text, with the text or with a line feed. -/
def AtLineEnd (text : Bytes) : Prop := text = [] ∨ ∃ after, text = lineFeed :: after

theorem following_atLineEnd (lines : List Bytes) : AtLineEnd (following lines) := by
  cases lines with
  | nil => exact .inl rfl
  | cons line lines => exact .inr ⟨line ++ following lines, by simp [following]⟩

theorem following_cons (line : Bytes) (lines : List Bytes) :
    following (line :: lines) = lineFeed :: (line ++ following lines) := by
  simp [following]

theorem joinLines_cons (line : Bytes) (lines : List Bytes) :
    joinLines (line :: lines) = line ++ following lines := by
  induction lines generalizing line with
  | nil => simp [joinLines, following]
  | cons next lines ih =>
    have hi := ih next
    simp only [joinLines, following_cons] at hi ⊢
    rw [List.intercalate_cons_cons, hi]
    simp

theorem AtLineEnd.eq_cons {line text after : Bytes} {b : UInt8} (ht : AtLineEnd text)
    (hb : b ≠ lineFeed) (h : line ++ text = b :: after) : ∃ rest, line = b :: rest := by
  cases line with
  | nil =>
    rcases ht with rfl | ⟨text, rfl⟩
    · simp at h
    · exact absurd (List.cons.inj h).1.symm hb
  | cons c line => exact ⟨line, by rw [(List.cons.inj h).1]⟩

/-- A delimiter that can stand in a line does not go over its end. -/
theorem AtLineEnd.prefix_of_prefix_append {delimiter line text : Bytes} (ht : AtLineEnd text)
    (hd : lineFeed ∉ delimiter) (h : delimiter <+: line ++ text) : delimiter <+: line := by
  induction line generalizing delimiter with
  | nil =>
    cases delimiter with
    | nil => exact List.nil_prefix
    | cons b delimiter =>
      obtain ⟨after, ha⟩ := h
      obtain ⟨rest, hr⟩ := ht.eq_cons (fun hb => hd (hb ▸ List.mem_cons_self)) ha.symm
      simp at hr
  | cons c line ih =>
    cases delimiter with
    | nil => exact List.nil_prefix
    | cons b delimiter =>
      obtain ⟨hb, hp⟩ := List.cons_prefix_cons.mp h
      exact List.cons_prefix_cons.mpr ⟨hb, ih (fun hm => hd (List.mem_cons_of_mem _ hm)) hp⟩

/-- Whether a text that has bytes begins as another does, or with a line end. -/
def BeginsAs (text other : Bytes) : Prop := ∀ b ∈ text.head?, b ∈ other.head? ∨ b = lineFeed

theorem AtLineEnd.beginsAs {text : Bytes} (ht : AtLineEnd text) (other : Bytes) :
    BeginsAs text other := by
  intro b hb
  rcases ht with rfl | ⟨after, rfl⟩
  · simp at hb
  · exact .inr (by simpa using hb.symm)

namespace BeginsAs

variable {text other : Bytes}

theorem of_isPrefix (h : text <+: other) : BeginsAs text other := by
  intro b hb
  obtain ⟨more, rfl⟩ := h
  exact .inl (List.mem_head?_append_of_mem_head? hb)

theorem append (h : BeginsAs text other) (front : Bytes) :
    BeginsAs (front ++ text) (front ++ other) := by
  cases front with
  | nil => exact h
  | cons b front => exact fun c hc => .inl hc

theorem notFollowed (h : BeginsAs text other) {b first second : UInt8} (hs : second ≠ lineFeed)
    (hn : ∀ after, b = first → other = second :: after → False) :
    ∀ after, b = first → text = second :: after → False := by
  rintro after hb rfl
  rcases h second rfl with hh | hh
  · obtain ⟨after', rfl⟩ := List.head?_eq_some_iff.mp hh
    exact hn after' hb rfl
  · exact hs hh

end BeginsAs

theorem lineFeed_notMem_usableDelimiter (delimiter : Bytes) :
    lineFeed ∉ usableDelimiter delimiter := by
  unfold usableDelimiter
  split
  next => exact List.not_mem_nil
  next h => exact h

theorem usableDelimiter_of_notMem {delimiter : Bytes} (h : lineFeed ∉ delimiter) :
    usableDelimiter delimiter = delimiter := if_neg h

theorem usableDelimiter_of_ne_nil {delimiter : Bytes} (h : usableDelimiter delimiter ≠ []) :
    usableDelimiter delimiter = delimiter :=
  usableDelimiter_of_notMem fun hm => h (if_pos hm)

theorem afterDelimiter?_append {delimiter : Bytes} (hne : delimiter ≠ []) (after : Bytes) :
    afterDelimiter? delimiter (delimiter ++ after) = some after := by
  have hempty : delimiter.isEmpty = false := by simpa using hne
  have hprefix : delimiter.isPrefixOf? (delimiter ++ after) = some after :=
    List.isPrefixOf?_eq_some_iff_append_eq.mpr rfl
  simp [afterDelimiter?, hempty, hprefix]

theorem afterDelimiter?_of_isPrefix {delimiter first whole : Bytes}
    (h : afterDelimiter? delimiter whole = none) (hp : first <+: whole) :
    afterDelimiter? delimiter first = none := by
  cases hf : afterDelimiter? delimiter first with
  | none => rfl
  | some after =>
    obtain ⟨hne, rfl⟩ := afterDelimiter?_eq_some hf
    obtain ⟨more, rfl⟩ := hp
    rw [List.append_assoc, afterDelimiter?_append hne] at h
    simp at h

theorem not_prefix_of_afterDelimiter? {delimiter line text : Bytes} (ht : AtLineEnd text)
    (h : afterDelimiter? delimiter line = none) :
    ¬(usableDelimiter delimiter ≠ [] ∧ usableDelimiter delimiter <+: line ++ text) := by
  rintro ⟨hne, hp⟩
  have hline := ht.prefix_of_prefix_append (lineFeed_notMem_usableDelimiter delimiter) hp
  have heq := usableDelimiter_of_ne_nil hne
  rw [heq] at hne hline
  obtain ⟨after, rfl⟩ := hline
  rw [afterDelimiter?_append hne] at h
  simp at h

def Context.inText : Context → TextContext
  | .code => .code
  | .quoted quote escaped => .quoted quote escaped
  | .comment => .blockComment

theorem afterQuoted_usableEscape (escape : UInt8) (quote : Quote) (escaped : Bool) {b : UInt8}
    (hb : b ≠ lineFeed) :
    afterQuoted (usableEscape escape) quote escaped b =
      (quotedNext escape quote escaped b).inText := by
  have he : usableEscape escape = some b ↔ b = escape := by
    unfold usableEscape
    split
    next h => simp [h, hb]
    next => simp [eq_comm]
  have hf : (b == lineFeed) = false := by simpa using hb
  simp only [afterQuoted, quotedNext, he, hf]
  split
  next => rfl
  next =>
    split
    next => rfl
    next => split <;> rfl

theorem notFollowed_of_not_isPrefix {b first second : UInt8} {rest : Bytes}
    (h : ¬[first, second] <+: b :: rest) : ∀ after, b = first → rest = second :: after → False := by
  rintro after rfl rfl
  exact h ⟨after, rfl⟩

theorem cutText_code {escape : Option UInt8} {delimiter rest : Bytes} {b : UInt8}
    (hblock : ∀ after, b = slash → rest = star :: after → False)
    (hline : ∀ after, b = dash → rest = dash :: after → False) (hhash : b = hash → False) :
    cutText escape delimiter .code (b :: rest) =
      match Quote.ofByte? b with
      | some quote => keep [b] (cutText escape delimiter (.quoted quote false) rest)
      | none =>
        if delimiter ≠ [] ∧ delimiter <+: b :: rest then
          some (delimiter, (b :: rest).drop delimiter.length)
        else keep [b] (cutText escape delimiter .code rest) := by
  rw [cutText]
  all_goals first | rfl | assumption

theorem cutText_code_append {escape : Option UInt8} {delimiter rest text : Bytes} {b : UInt8}
    (ht : AtLineEnd text) (hblock : ∀ after, b = slash → rest = star :: after → False)
    (hline : ∀ after, b = dash → rest = dash :: after → False) (hhash : b = hash → False) :
    cutText escape delimiter .code (b :: (rest ++ text)) =
      match Quote.ofByte? b with
      | some quote => keep [b] (cutText escape delimiter (.quoted quote false) (rest ++ text))
      | none =>
        if delimiter ≠ [] ∧ delimiter <+: b :: (rest ++ text) then
          some (delimiter, (b :: (rest ++ text)).drop delimiter.length)
        else keep [b] (cutText escape delimiter .code (rest ++ text)) := by
  have hb := (ht.beginsAs []).append rest
  rw [List.append_nil] at hb
  exact cutText_code (hb.notFollowed (by decide) hblock) (hb.notFollowed (by decide) hline) hhash

theorem cutText_comment {escape : Option UInt8} {delimiter rest : Bytes} {b : UInt8}
    (hclose : ∀ after, b = star → rest = slash :: after → False) :
    cutText escape delimiter .blockComment (b :: rest) =
      keep [b] (cutText escape delimiter .blockComment rest) := by
  rw [cutText]
  exact hclose

section

variable (escape : Option UInt8) (delimiter rest : Bytes)

theorem cutText_blockClosed :
    cutText escape delimiter .blockComment (star :: slash :: rest) =
      keep [star, slash] (cutText escape delimiter .code rest) := rfl

theorem cutText_blockOpened :
    cutText escape delimiter .code (slash :: star :: rest) =
      keep [slash, star] (cutText escape delimiter .blockComment rest) := rfl

theorem cutText_dashes :
    cutText escape delimiter .code (dash :: dash :: rest) =
      keep [dash, dash] (cutText escape delimiter .lineComment rest) := rfl

theorem cutText_hash :
    cutText escape delimiter .code (hash :: rest) =
      keep [hash] (cutText escape delimiter .lineComment rest) := rfl

end

theorem Quote.byte_ne_lineFeed (quote : Quote) : quote.byte ≠ lineFeed := by
  cases quote <;> decide

theorem usableEscape_eq_some {escape b : UInt8} (h : usableEscape escape = some b) :
    escape = b := by
  unfold usableEscape at h
  split at h
  next => simp at h
  next => exact Option.some.inj h

section

variable {escape : Option UInt8} {delimiter : Bytes} {quote : Quote} {b : UInt8}

theorem cutText_quoteOpens (rest : Bytes) :
    cutText escape delimiter .code (quote.byte :: rest) =
      keep [quote.byte] (cutText escape delimiter (.quoted quote false) rest) := by
  have hopens : ∀ b : UInt8, b = slash ∨ b = dash ∨ b = hash → b ≠ quote.byte := by
    rintro b (rfl | rfl | rfl) <;> cases quote <;> decide
  rw [cutText_code (fun _ he => absurd he.symm (hopens _ (.inl rfl)))
    (fun _ he => absurd he.symm (hopens _ (.inr (.inl rfl))))
    (fun he => absurd he.symm (hopens _ (.inr (.inr rfl)))), Quote.ofByte?_eq_some_iff.mpr rfl]

theorem cutText_quoteCloses (h : escape ≠ some quote.byte) (rest : Bytes) :
    cutText escape delimiter (.quoted quote false) (quote.byte :: rest) =
      keep [quote.byte] (cutText escape delimiter .code rest) := by
  simp [cutText, afterQuoted, h]

theorem cutText_quoteStays (he : escape ≠ some b) (hq : b ≠ quote.byte) (rest : Bytes) :
    cutText escape delimiter (.quoted quote false) (b :: rest) =
      keep [b] (cutText escape delimiter (.quoted quote false) rest) := by
  simp [cutText, afterQuoted, he, hq]

theorem cutText_quoteEscapes {e : UInt8} (he : escape = some e) (hb : b ≠ lineFeed)
    (rest : Bytes) :
    cutText escape delimiter (.quoted quote false) (e :: b :: rest) =
      keep [e, b] (cutText escape delimiter (.quoted quote false) rest) := by
  have hf : (b == lineFeed) = false := by simpa using hb
  simp [cutText, afterQuoted, he, hf]

end

/-- Bytes written one by one, each of which leads back to the place where it stands, are passed over
as a whole. -/
theorem cutText_flatMap {escape : Option UInt8} {delimiter content : Bytes} {place : TextContext}
    {written : UInt8 → Bytes}
    (passed : ∀ b ∈ content, ∀ rest, cutText escape delimiter place (written b ++ rest) =
      keep (written b) (cutText escape delimiter place rest)) (rest : Bytes) :
    cutText escape delimiter place (content.flatMap written ++ rest) =
      keep (content.flatMap written) (cutText escape delimiter place rest) := by
  induction content with
  | nil => simp
  | cons b content ih =>
    rw [List.forall_mem_cons] at passed
    rw [List.flatMap_cons, List.append_assoc, passed.1, ih passed.2, keep_keep]

theorem cutText_content {escape : Option UInt8} {delimiter content : Bytes} {place : TextContext}
    (passed : ∀ b ∈ content, ∀ rest, cutText escape delimiter place (b :: rest) =
      keep [b] (cutText escape delimiter place rest)) (rest : Bytes) :
    cutText escape delimiter place (content ++ rest) =
      keep content (cutText escape delimiter place rest) := by
  have hpass : cutText escape delimiter place (content.flatMap (fun b => [b]) ++ rest) =
      keep (content.flatMap fun b => [b]) (cutText escape delimiter place rest) :=
    cutText_flatMap passed rest
  rwa [List.flatMap_singleton'] at hpass

/-- Where a text is cut stays as it is if what follows begins as before or with a line end. -/
theorem cutText_cut_append {escape : Option UInt8} {delimiter text cut after more : Bytes}
    {context : TextContext} (h : cutText escape delimiter context text = some (cut, after))
    (hm : BeginsAs more after) :
    cutText escape delimiter context (cut ++ more) = some (cut, more) := by
  fun_induction cutText escape delimiter context text generalizing cut with
  | case1 => simp at h
  | case2 quote escaped b rest ih =>
    obtain ⟨before, hf, rfl⟩ := keep_eq_some h
    rw [List.append_assoc, List.singleton_append, cutText, ih hf, keep_some]
  | case3 rest ih =>
    obtain ⟨before, hf, rfl⟩ := keep_eq_some h
    simp only [List.cons_append, List.nil_append]
    rw [cutText_blockClosed, ih hf]
    rfl
  | case4 b rest hclose ih =>
    obtain ⟨before, hf, rfl⟩ := keep_eq_some h
    obtain ⟨rfl, -⟩ := cutText_eq_some hf
    have hb := hm.append before
    rw [List.append_assoc, List.singleton_append,
      cutText_comment (hb.notFollowed (by decide) hclose), ih hf, keep_some]
  | case5 b rest ih =>
    obtain ⟨before, hf, rfl⟩ := keep_eq_some h
    rw [List.append_assoc, List.singleton_append, cutText, ih hf, keep_some]
  | case6 rest ih =>
    obtain ⟨before, hf, rfl⟩ := keep_eq_some h
    simp only [List.cons_append, List.nil_append]
    rw [cutText_blockOpened, ih hf]
    rfl
  | case7 rest ih =>
    obtain ⟨before, hf, rfl⟩ := keep_eq_some h
    simp only [List.cons_append, List.nil_append]
    rw [cutText_dashes, ih hf]
    rfl
  | case8 rest ih =>
    obtain ⟨before, hf, rfl⟩ := keep_eq_some h
    simp only [List.cons_append, List.nil_append]
    rw [cutText_hash, ih hf]
    rfl
  | case9 b rest hblock hline hhash quote hquote ih =>
    obtain ⟨before, hf, rfl⟩ := keep_eq_some h
    obtain ⟨rfl, -⟩ := cutText_eq_some hf
    have hb := hm.append before
    rw [List.append_assoc, List.singleton_append, cutText_code
      (hb.notFollowed (by decide) hblock) (hb.notFollowed (by decide) hline) hhash]
    simp only [hquote, ih hf, keep_some]
  | case10 b rest hblock hline hhash hquote hd =>
    obtain ⟨rfl, rfl⟩ := Prod.mk.inj (Option.some.inj h)
    obtain ⟨hne, after, hp⟩ := hd
    obtain ⟨c, delimiter, rfl⟩ := List.exists_cons_of_ne_nil hne
    obtain ⟨rfl, rfl⟩ := List.cons.inj hp
    have hb : BeginsAs (delimiter ++ more) (delimiter ++ after) := by
      simpa using hm.append delimiter
    rw [List.cons_append, cutText_code (hb.notFollowed (by decide) hblock)
      (hb.notFollowed (by decide) hline) hhash]
    simp [hquote]
  | case11 b rest hblock hline hhash hquote hd ih =>
    obtain ⟨before, hf, rfl⟩ := keep_eq_some h
    obtain ⟨rfl, -⟩ := cutText_eq_some hf
    have hb := hm.append before
    -- a delimiter that began here would end before the one that ends the cut
    have hno : ¬(delimiter ≠ [] ∧ delimiter <+: b :: (before ++ more)) := by
      rintro ⟨hne, hp⟩
      have hle := (cutText_suffix hf).2.length_le
      have hcut : delimiter <+: b :: before :=
        List.prefix_of_prefix_length_le hp (List.prefix_append (b :: before) more)
          (by rw [List.length_cons]; omega)
      exact hd ⟨hne, hcut.trans (List.prefix_append (b :: before) after)⟩
    rw [List.append_assoc, List.singleton_append, cutText_code
      (hb.notFollowed (by decide) hblock) (hb.notFollowed (by decide) hline) hhash]
    simp only [hquote, if_neg hno, ih hf, keep_some]

/-- The text up to a cut is cut at its end. -/
theorem cutText_of_cut {escape : Option UInt8} {delimiter text cut after : Bytes}
    {context : TextContext} (h : cutText escape delimiter context text = some (cut, after)) :
    cutText escape delimiter context cut = some (cut, []) := by
  simpa using cutText_cut_append h (.of_isPrefix List.nil_prefix)

/-- A text that is cut is cut in the same place if more lines follow it. -/
theorem cutText_append {escape : Option UInt8} {delimiter text more cut after : Bytes}
    {context : TextContext} (ht : AtLineEnd more)
    (h : cutText escape delimiter context text = some (cut, after)) :
    cutText escape delimiter context (text ++ more) = some (cut, after ++ more) := by
  have hb := (ht.beginsAs []).append after
  rw [List.append_nil] at hb
  rw [(cutText_eq_some h).1, List.append_assoc]
  exact cutText_cut_append h hb

theorem cutText_code_lineFeed (escape : Option UInt8) (delimiter text : Bytes) :
    cutText escape (usableDelimiter delimiter) .code (lineFeed :: text) =
      keep [lineFeed] (cutText escape (usableDelimiter delimiter) .code text) := by
  have hd : ¬(usableDelimiter delimiter ≠ [] ∧ usableDelimiter delimiter <+: lineFeed :: text) := by
    rintro ⟨hne, hp⟩
    have ht : AtLineEnd (lineFeed :: text) := .inr ⟨text, rfl⟩
    have hnil : usableDelimiter delimiter <+: [] :=
      ht.prefix_of_prefix_append (lineFeed_notMem_usableDelimiter delimiter) hp
    exact hne (List.prefix_nil.mp hnil)
  rw [cutText_code (fun _ he => absurd he (by decide)) (fun _ he => absurd he (by decide))
    (fun he => absurd he (by decide)), show Quote.ofByte? lineFeed = none from rfl]
  exact if_neg hd

theorem cutText_lineComment {escape : Option UInt8} {delimiter line text : Bytes}
    (hl : lineFeed ∉ line) (ht : AtLineEnd text) :
    cutText escape (usableDelimiter delimiter) .lineComment (line ++ text) =
      keep line (cutText escape (usableDelimiter delimiter) .code text) := by
  induction line with
  | nil =>
    rcases ht with rfl | ⟨text, rfl⟩
    · simp
    · rw [cutText_code_lineFeed, List.nil_append, cutText]
      simp
  | cons b line ih =>
    have hb : b ≠ lineFeed := fun he => hl (he ▸ List.mem_cons_self)
    rw [List.cons_append, cutText, if_neg hb, ih (fun hm => hl (List.mem_cons_of_mem _ hm)),
      keep_keep]
    rfl

/-- At a line feed nothing changes but that a comment up to the end of the line is over. -/
theorem cutText_lineFeed (escape : UInt8) (delimiter text : Bytes) (context : Context) :
    cutText (usableEscape escape) (usableDelimiter delimiter) context.inText (lineFeed :: text) =
      keep [lineFeed]
        (cutText (usableEscape escape) (usableDelimiter delimiter) context.inText text) := by
  cases context with
  | code => exact cutText_code_lineFeed _ _ _
  | quoted quote escaped =>
    have he : usableEscape escape ≠ some lineFeed := by
      unfold usableEscape
      split
      next => simp
      next h => simpa using h
    have hq : lineFeed ≠ quote.byte := by cases quote <;> decide
    simp only [Context.inText, cutText]
    cases escaped <;> simp [afterQuoted, he, hq]
  | comment => exact cutText_comment fun _ he => absurd he (by decide)

/-- What the end of the scan of a line is in a whole text, of which this follows the line. -/
def ScanEnd.inText (escape : UInt8) (delimiter text : Bytes) : ScanEnd → Option (Bytes × Bytes)
  | .delimiter scanned rest => some (scanned.reverse, rest ++ text)
  | .lineEnd scanned context =>
    keep scanned.reverse
      (cutText (usableEscape escape) (usableDelimiter delimiter) context.inText text)

/-- The scan of a line is that of the text up to the end of the line. -/
theorem cutText_eq_scan (escape : UInt8) (delimiter scanned : Bytes) (context : Context)
    {line text : Bytes} (hl : lineFeed ∉ line) (ht : AtLineEnd text) :
    keep scanned.reverse
        (cutText (usableEscape escape) (usableDelimiter delimiter) context.inText (line ++ text)) =
      (scan escape delimiter scanned context line).inText escape delimiter text := by
  fun_induction scan escape delimiter scanned context line with
  | case1 scanned context => rfl
  | case2 scanned quote escaped b rest ih =>
    rw [List.mem_cons, not_or] at hl
    rw [← ih hl.2, ← afterQuoted_usableEscape escape quote escaped (Ne.symm hl.1),
      List.cons_append, Context.inText, cutText, keep_keep, List.reverse_cons]
  | case3 scanned rest ih =>
    simp only [List.mem_cons, not_or] at hl
    rw [← ih hl.2.2]
    simp only [List.cons_append, Context.inText]
    rw [cutText, keep_keep]
    simp
  | case4 scanned b rest hclose ih =>
    rw [List.mem_cons, not_or] at hl
    have hb := (ht.beginsAs []).append rest
    rw [List.append_nil] at hb
    rw [← ih hl.2, List.cons_append, Context.inText,
      cutText_comment (hb.notFollowed (by decide) hclose), keep_keep, List.reverse_cons]
  | case5 scanned rest ih =>
    simp only [List.mem_cons, not_or] at hl
    rw [← ih hl.2.2]
    simp only [List.cons_append, Context.inText]
    rw [cutText, keep_keep]
    simp
  | case6 scanned rest =>
    simp only [List.mem_cons, not_or] at hl
    rw [List.cons_append, List.cons_append, Context.inText, cutText,
      cutText_lineComment hl.2.2 ht]
    simp [ScanEnd.inText, Context.inText]
  | case7 scanned rest =>
    simp only [List.mem_cons, not_or] at hl
    rw [List.cons_append, Context.inText, cutText, cutText_lineComment hl.2 ht]
    simp [ScanEnd.inText, Context.inText]
  | case8 scanned b rest hblock hline hhash quote hquote ih =>
    rw [List.mem_cons, not_or] at hl
    rw [← ih hl.2, List.cons_append, Context.inText, cutText_code_append ht hblock hline hhash,
      hquote]
    simp [Context.inText]
  | case9 scanned b rest hblock hline hhash hquote after hafter =>
    obtain ⟨hne, htext⟩ := afterDelimiter?_eq_some hafter
    rw [htext, List.mem_append, not_or] at hl
    have hp : delimiter <+: b :: (rest ++ text) := by
      rw [← List.cons_append, htext, List.append_assoc]
      exact List.prefix_append _ _
    have hd : (b :: (rest ++ text)).drop delimiter.length = after ++ text := by
      rw [← List.cons_append, htext, List.append_assoc, List.drop_left]
    rw [List.cons_append, Context.inText, cutText_code_append ht hblock hline hhash, hquote,
      usableDelimiter_of_notMem hl.1]
    simp only [if_pos (And.intro hne hp), hd]
    simp [ScanEnd.inText]
  | case10 scanned b rest hblock hline hhash hquote hafter ih =>
    have hno := not_prefix_of_afterDelimiter? ht hafter
    rw [List.cons_append] at hno
    rw [List.mem_cons, not_or] at hl
    rw [← ih hl.2, List.cons_append, Context.inText, cutText_code_append ht hblock hline hhash,
      hquote]
    simp only [if_neg hno, keep_keep, List.reverse_cons]

end SqlScript
