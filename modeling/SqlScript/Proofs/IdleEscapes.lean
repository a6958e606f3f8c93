import Mathlib.Logic.Function.Iterate
import SqlScript.Proofs.AtRest
import SqlScript.Proofs.Places
import SqlScript.Proofs.Progress

namespace SqlScript

section

variable {escape escape' : UInt8} {delimiter line rest after : Bytes}
  {place next last : TextContext}

/-- A line is scanned alike with two escapes if it comes to neither of them in a quote. -/
theorem scan_of_unescaped {context : Context}
    (h : ∀ quote escaped b rest, Scans escape delimiter context.inText line
      (.quoted quote escaped) (b :: rest) → b ≠ escape ∧ b ≠ escape') (scanned : Bytes) :
    scan escape' delimiter scanned context line = scan escape delimiter scanned context line := by
  fun_induction scan escape delimiter scanned context line with
  | case1 => rfl
  | case2 scanned quote escaped b rest ih =>
    obtain ⟨hone, hother⟩ := h quote escaped b rest .start
    have hnext : quotedNext escape' quote escaped b = quotedNext escape quote escaped b := by
      rw [quotedNext, if_neg hother, quotedNext, if_neg hone]
    rw [scan, hnext]
    exact ih fun _ _ _ _ hs => h _ _ _ _ (.cons rfl hs)
  | case3 scanned rest ih =>
    rw [scan]
    exact ih fun _ _ _ _ hs => h _ _ _ _ (.cons rfl hs)
  | case4 scanned b rest hclose ih =>
    rw [scan_comment hclose]
    exact ih fun _ _ _ _ hs => h _ _ _ _ (.cons (scanNext_comment hclose) hs)
  | case5 scanned rest ih =>
    rw [scan]
    exact ih fun _ _ _ _ hs => h _ _ _ _ (.cons rfl hs)
  | case6 => rw [scan]
  | case7 => rw [scan]
  | case8 scanned b rest hblock hline hhash quote hquote ih =>
    rw [scan_code hblock hline hhash, hquote]
    refine ih fun _ _ _ _ hs => h _ _ _ _ (.cons ?_ hs)
    rw [Context.inText, scanNext_code hblock hline hhash, hquote]
    rfl
  | case9 scanned b rest hblock hline hhash hquote after hafter =>
    simp only [scan_code hblock hline hhash, hquote, hafter]
  | case10 scanned b rest hblock hline hhash hquote hafter ih =>
    simp only [scan_code hblock hline hhash, hquote, hafter]
    refine ih fun _ _ _ _ hs => h _ _ _ _ (.cons ?_ hs)
    simp only [Context.inText, scanNext_code hblock hline hhash, hquote, hafter]

end

theorem Context.quote?_of_inText {context : Context} {quote : Quote} {escaped : Bool}
    (h : context.inText = .quoted quote escaped) : context.quote? = some quote := by
  cases context with
  | quoted => cases h; rfl
  | _ => cases h

section

variable {escape : UInt8} {delimiter scanned line rest : Bytes} {place : TextContext}
  {quote : Quote}

theorem quotedNext_quote? {other : Quote} {escaped : Bool} {b : UInt8}
    (h : (quotedNext escape other escaped b).quote? = some quote) : other = quote := by
  unfold quotedNext at h
  split at h
  next => exact Option.some.inj h
  next =>
    split at h
    next => exact Option.some.inj h
    next =>
      split at h
      next => simp [Context.quote?] at h
      next => exact Option.some.inj h

/-- A quote that is open after a line was open before it or is opened in it. -/
theorem scan_lineEnd_quote? {scanned' : Bytes} {context context' : Context}
    (h : scan escape delimiter scanned context line = .lineEnd scanned' context')
    (hq : context'.quote? = some quote) : context.quote? = some quote ∨ quote.byte ∈ line := by
  fun_induction scan escape delimiter scanned context line with
  | case1 => cases h; exact .inl hq
  | case2 scanned other escaped b rest ih =>
    rcases ih h with hother | hm
    · exact .inl (congrArg some (quotedNext_quote? hother))
    · exact .inr (List.mem_cons_of_mem _ hm)
  | case3 _ _ ih | case5 _ _ ih =>
    rcases ih h with hnone | hm
    · simp [Context.quote?] at hnone
    · exact .inr (List.mem_cons_of_mem _ (List.mem_cons_of_mem _ hm))
  | case4 _ _ _ _ ih | case10 _ _ _ _ _ _ _ _ ih =>
    rcases ih h with hnone | hm
    · simp [Context.quote?] at hnone
    · exact .inr (List.mem_cons_of_mem _ hm)
  | case6 | case7 => cases h; simp [Context.quote?] at hq
  | case8 scanned b rest _ _ _ other hb ih =>
    right
    rcases ih h with hother | hm
    · rw [Quote.ofByte?_eq_some_iff.mp hb, Option.some.inj hother]
      exact List.mem_cons_self
    · exact List.mem_cons_of_mem _ hm
  | case9 => simp at h

theorem scanNext_quoted {escaped : Bool}
    (h : scanNext escape delimiter place line = some (.quoted quote escaped, rest)) :
    (∃ escaped', place = .quoted quote escaped') ∨ quote.byte ∈ line := by
  revert h
  fun_cases scanNext escape delimiter place line with
  | case2 other escaped' b rest' =>
    intro h
    left
    obtain ⟨hnext, -⟩ := Prod.mk.inj (Option.some.inj h)
    have hother := quotedNext_quote? (Context.quote?_of_inText hnext)
    exact ⟨escaped', by rw [hother]⟩
  | case9 b rest' _ _ _ other hb =>
    rintro ⟨⟩
    right
    rw [Quote.ofByte?_eq_some_iff.mp hb]
    exact List.mem_cons_self
  | _ => simp

/-- A quote that is open at some place of a line was open before the line or is opened in it. -/
theorem Scans.quoted {next : TextContext} {escaped : Bool}
    (h : Scans escape delimiter place line next rest) (hnext : next = .quoted quote escaped) :
    (∃ escaped', place = .quoted quote escaped') ∨ quote.byte ∈ line := by
  induction h generalizing escaped with
  | start => exact .inl ⟨escaped, hnext⟩
  | @step place' next rest after h hn ih =>
    rw [hnext] at hn
    rcases scanNext_quoted hn with ⟨escaped', hplace⟩ | hm
    · exact ih hplace
    · obtain ⟨front, rfl, -⟩ := scanFrom_of_scans h
      exact .inr (List.mem_append_right front hm)

end

/-- A reader that is at its end after so many steps comes to no other readers than they lead to. -/
theorem Passes.exists_steps {start reader : ScriptReader} {made : List Statement} {count : Nat}
    (done : (ScriptReader.stepTaken^[count] start).Done) (h : Passes start made reader) :
    ∃ steps ≤ count, reader = ScriptReader.stepTaken^[steps] start := by
  induction h with
  | start => exact ⟨0, Nat.zero_le _, rfl⟩
  | step h ih =>
    obtain ⟨steps, hle, rfl⟩ := ih
    rcases Nat.lt_or_eq_of_le hle with hlt | rfl
    · exact ⟨steps + 1, hlt, (Function.iterate_succ_apply' _ _ _).symm⟩
    · exact ⟨steps, hle, done.stepTaken⟩

/-- The scan of a line comes to no other places than those that its steps do not lead out of. -/
theorem Scans.mem_of_closed {escape : UInt8} {delimiter line rest : Bytes}
    {place next : TextContext} {places : List (TextContext × Bytes)}
    (closed : ∀ here ∈ places, ∀ there ∈ scanNext escape delimiter here.1 here.2, there ∈ places)
    (hs : (place, line) ∈ places) (h : Scans escape delimiter place line next rest) :
    (next, rest) ∈ places := by
  induction h with
  | start => exact hs
  | step h hn ih => exact closed _ ih _ hn

namespace ScriptReader

/-- Whether a reader scans this byte, on its way to the end, while a quote is open. -/
inductive ScansQuoted (start : ScriptReader) (b : UInt8) : Prop
  | scanning {made : List Statement} {reader : ScriptReader} {line rest : Bytes} {quote : Quote}
      {escaped : Bool} (passes : Passes start made reader)
      (pending : reader.draft.pending = some line)
      (plain : reader.draft.takeDirective? line = none)
      (scans : Scans reader.escape reader.draft.delimiter reader.draft.context.inText line
        (.quoted quote escaped) (b :: rest)) :
      ScansQuoted start b

theorem ScansQuoted.of_stepTaken {reader : ScriptReader} {b : UInt8} (fresh : reader.ready = none)
    (h : reader.stepTaken.ScansQuoted b) : reader.ScansQuoted b := by
  obtain ⟨passes, pending, plain, scans⟩ := h
  exact .scanning (passes.cons fresh) pending plain scans

theorem Done.not_scansQuoted {reader : ScriptReader} (done : reader.Done) (b : UInt8) :
    ¬reader.ScansQuoted b := by
  rintro ⟨passes, pending, plain, scans⟩
  obtain ⟨-, hnone, -⟩ := done_iff.mp done
  simp [done.passes passes, hnone] at pending

/-- A reader with this escape which comes, while a quote is open, neither to it nor to another
one. -/
structure IdleEscape (own other : UInt8) (reader : ScriptReader) : Prop where
  escape : reader.escape = own
  quoted : ∀ b, { reader with ready := none }.ScansQuoted b → b ≠ own ∧ b ≠ other

theorem kept_idleEscape (own other : UInt8) : Kept (IdleEscape own other) where
  step reader hr h := by
    refine ⟨reader.stepOf.escape.trans h.escape, fun b hb => h.quoted b ?_⟩
    rw [taken_of_fresh hr]
    exact hb.of_stepTaken hr
  taken reader h := ⟨h.escape, h.quoted⟩
  asked reader hd h := by
    refine ⟨?_, fun b hb => ?_⟩
    · rw [← h.escape]
      unfold askFailure
      split <;> rfl
    · rw [taken_of_fresh hd.askFailure.1] at hb
      exact absurd hb (hd.askFailure.not_scansQuoted b)

def withEscape (reader : ScriptReader) (escape : UInt8) : ScriptReader := { reader with escape }

theorem withEscape_lineMap (escape : UInt8) : LineMap (·.withEscape escape) :=
  lineMap_of_fields id fun _ => escape

/-- Another escape shows in no answer of a reader that comes to neither of the two in a quote. -/
theorem withEscape_answerMapOn (own other : UInt8) :
    AnswerMapOn (IdleEscape own other) (·.withEscape other) where
  toLineMap := withEscape_lineMap other
  kept := kept_idleEscape own other
  step reader hr h := by
    apply (withEscape_lineMap other).step
    intro line pending plain
    have hquoted := h.quoted
    rw [taken_of_fresh hr, ← h.escape] at hquoted
    have hscan := scan_of_unescaped fun quote escaped b rest scans =>
      hquoted b (.scanning (.start hr) pending plain scans)
    simp only [Draft.scanLine, withEscape, hscan]
  ask reader := by
    simp only [askFailure, withEscape]
    split <;> rfl

theorem Placed.exists_line {lines : List Bytes} {reader : ScriptReader} {line : Bytes}
    (h : Placed lines reader) (pending : reader.draft.pending = some line) :
    ∃ whole ∈ lines, line ⊆ whole := by
  obtain ⟨whole, hlast, hsuffix⟩ := h.pending line pending
  exact ⟨whole, List.mem_of_mem_take (List.mem_of_getLast? hlast), hsuffix.subset⟩

/-- The byte of a quote that is open stands in some line. -/
theorem kept_quoteInLine (lines : List Bytes) :
    Kept fun reader => Placed lines reader ∧ ∀ quote, reader.draft.context.quote? = some quote →
      ∃ line ∈ lines, quote.byte ∈ line where
  step reader hr h := by
    refine ⟨h.1.step hr, ?_⟩
    have hs := reader.stepOf
    generalize reader.step = result at hs ⊢
    cases hs with
    | directive pending idle code parsed => exact nofun
    | delimiter pending plain cut => exact nofun
    | lineEnd pending plain cut =>
      intro quote hq
      rcases scan_lineEnd_quote? cut hq with hbefore | hm
      · exact h.2 quote hbefore
      · obtain ⟨whole, hwhole, hsubset⟩ := h.1.exists_line pending
        exact ⟨whole, hwhole, hsubset hm⟩
    | _ => exact h.2
  taken reader h := ⟨(kept_placed lines).taken reader h.1, h.2⟩
  asked reader hd h := by
    refine ⟨(kept_placed lines).asked reader hd h.1, ?_⟩
    unfold askFailure
    split <;> exact h.2

/-- A byte that is scanned in a quote stands in the text, as that of the quote does. -/
theorem ScansQuoted.mem_bytes {access : Access} {source : Source} {settings : Settings} {b : UInt8}
    (h : (opened access source settings).ScansQuoted b) :
    b ∈ Source.bytes source ∧ ∃ quote : Quote, quote.byte ∈ Source.bytes source := by
  obtain ⟨passes, pending, plain, scans⟩ := h
  have hlines : ∀ line ∈ (opened access source settings).lines.linesLeft,
      line ⊆ Source.bytes source := by
    rw [opened]
    intro line hm
    have hall := LineReader.linesLeft_reading (Source.through access settings.capacity source) 0
    exact List.Subset.trans (subset_of_mem_textLines (hall ▸ hm))
      (Source.bytes_through_isPrefix access settings.capacity source).subset
  have hclosed : (opened access source settings).draft.context.quote? = none := rfl
  obtain ⟨hplaced, hopen⟩ := passes.kept (kept_quoteInLine _)
    ⟨opened_placed access source settings, by simp [hclosed]⟩
  obtain ⟨whole, hwhole, hsubset⟩ := hplaced.exists_line pending
  have hline := List.Subset.trans hsubset (hlines whole hwhole)
  obtain ⟨front, hfront, -⟩ := scanFrom_of_scans scans
  refine ⟨hline (hfront ▸ List.mem_append_right front List.mem_cons_self), ?_⟩
  rcases scans.quoted rfl with ⟨escaped, hplace⟩ | hm
  · obtain ⟨other, hother, hm⟩ := hopen _ (Context.quote?_of_inText hplace)
    exact ⟨_, hlines other hother hm⟩
  · exact ⟨_, hline hm⟩

end ScriptReader

/-- Readers that differ in the escape answer alike as long as neither escape is met in an open
quote. -/
theorem escape_shows_in_quotes (access : Access) (source : Source) (settings : Settings)
    (escape escape' : UInt8) :
    let reader := ScriptReader.opened access source (settings.withEscape escape)
    let other := ScriptReader.opened access source (settings.withEscape escape')
    let same := ∀ requests, reader.observe requests = other.observe requests ∧
      (reader.pulls requests).2.outcome = (other.pulls requests).2.outcome
    ((∀ b, reader.ScansQuoted b → b ≠ escape ∧ b ≠ escape') → same) ∧
      ((∀ quote : Quote, quote.byte ∉ Source.bytes source) → same) ∧
      (escape ∉ Source.bytes source → escape' ∉ Source.bytes source → same) := by
  intro reader other same
  have fresh : reader.ready = none := ScriptReader.opened_ready ..
  have hother : reader.withEscape escape' = other := rfl
  have hsame : (∀ b, reader.ScansQuoted b → b ≠ escape ∧ b ≠ escape') → same := by
    intro hquoted requests
    have hidle : reader.IdleEscape escape escape' := by
      refine ⟨rfl, ?_⟩
      rwa [← fresh]
    have hmap := ScriptReader.withEscape_answerMapOn escape escape'
    refine ⟨?_, ?_⟩
    · rw [← hother]
      exact (hmap.observe (fun _ _ => rfl) hidle requests).symm
    · have hlast := hmap.drain (hmap.kept.pulls hidle requests)
      rw [← hother, hmap.pulls hidle, ScriptReader.outcome, ScriptReader.outcome, hlast]
      rfl
  refine ⟨hsame, fun hnone => hsame fun b hb => ?_, fun hone htwo => hsame fun b hb => ⟨?_, ?_⟩⟩
  · obtain ⟨quote, hm⟩ := hb.mem_bytes.2
    exact absurd hm (hnone quote)
  · rintro rfl
    exact hone hb.mem_bytes.1
  · rintro rfl
    exact htwo hb.mem_bytes.1

/-- Both bytes stand in the input, and quotes do, but in bare SQL and in a comment only. -/
theorem escape_shows_in_quotes_of_bare_escapes :
    let source : Source := [.data (Bytes.ofText "!;'b'#\\")]
    let reader := ScriptReader.opened .direct source ((default : Settings).withEscape 0x5C)
    let other := ScriptReader.opened .direct source ((default : Settings).withEscape 0x21)
    (∀ b, reader.ScansQuoted b → b ≠ 0x5C ∧ b ≠ 0x21) ∧
      ∀ requests, reader.observe requests = other.observe requests := by
  intro source reader other
  let places : List (TextContext × Bytes) :=
    [(.code, Bytes.ofText "!;'b'#\\"), (.code, Bytes.ofText ";'b'#\\"),
      (.code, Bytes.ofText "'b'#\\"), (.quoted .single false, Bytes.ofText "b'#\\"),
      (.quoted .single false, Bytes.ofText "'#\\"), (.code, Bytes.ofText "#\\"),
      (.lineComment, Bytes.ofText "\\"), (.lineComment, [])]
  have closed : ∀ here ∈ places, ∀ there ∈ scanNext 0x5C (Bytes.ofText ";") here.1 here.2,
      there ∈ places := by
    decide +kernel
  have pendings : ∀ steps ≤ 5, let here := ScriptReader.stepTaken^[steps] reader
      ∀ line ∈ here.draft.pending, (here.escape = 0x5C ∧ here.draft.delimiter = Bytes.ofText ";") ∧
        (here.draft.context.inText, line) ∈ places := by
    decide +kernel
  have unquoted : ∀ here ∈ places, ∀ b ∈ here.2.head?,
      here.1 = .code ∨ here.1 = .lineComment ∨ b ≠ 0x5C ∧ b ≠ 0x21 := by
    decide +kernel
  have done : (ScriptReader.stepTaken^[5] reader).Done :=
    ScriptReader.done_iff.mpr ⟨rfl, by decide +kernel, by decide +kernel, by decide +kernel,
      ScriptReader.isExhausted_iff.mp (by decide +kernel)⟩
  have hquoted : ∀ b, reader.ScansQuoted b → b ≠ 0x5C ∧ b ≠ 0x21 := by
    rintro b ⟨passes, pending, plain, scans⟩
    obtain ⟨steps, hle, rfl⟩ := passes.exists_steps done
    obtain ⟨⟨hescape, hdelimiter⟩, hstart⟩ := pendings steps hle _ pending
    rw [hescape, hdelimiter] at scans
    rcases unquoted _ (scans.mem_of_closed closed hstart) b rfl with hcode | hcomment | hb
    · cases hcode
    · cases hcomment
    · exact hb
  have hsame := (escape_shows_in_quotes .direct source default 0x5C 0x21).1 hquoted
  exact ⟨hquoted, fun requests => (hsame requests).1⟩

end SqlScript
