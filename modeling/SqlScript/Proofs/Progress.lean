import SqlScript.Proofs.Restart

namespace SqlScript

/-- The search for the next statement as a loop, with the number of its steps. -/
inductive Searches : ScriptReader → Nat → Bool → ScriptReader → Prop
  | ready {reader} : reader.ready.isSome = true → Searches reader 0 true reader
  | found {reader next} : reader.ready = none → reader.step = .found next →
      Searches reader 1 true next
  | nothingLeft {reader next} : reader.ready = none → reader.step = .nothingLeft next →
      Searches reader 1 false next
  | more {reader next last steps found} : reader.ready = none → reader.step = .more next →
      Searches next steps found last → Searches reader (steps + 1) found last

/-- The drain as a loop of searches, with the number of steps of all of them. -/
inductive Drains : ScriptReader → Nat → List Statement → ScriptReader → Prop
  | ended {reader last steps} : Searches reader steps false last → Drains reader steps [] last
  | taken {reader next last statement statements steps others} : Searches reader steps true next →
      next.ready = some statement → Drains { next with ready := none } others statements last →
      Drains reader (steps + others) (statement :: statements) last

namespace ScriptReader

theorem weight_of_ready {reader : ScriptReader} {statement : Statement}
    (h : reader.ready = some statement) :
    reader.weight = { reader with ready := none }.weight + 1 := by
  simp [weight, h]

theorem weight_found {reader next : ScriptReader} (h : reader.step = .found next) :
    next.weight ≤ reader.weight := by
  obtain ⟨statement, hr, -⟩ := step_found_ready h
  have hlt := step_found h
  rw [weight_of_ready hr]
  omega

/-- Advancing is the search, and every step of it pays. -/
theorem searches_advance (reader : ScriptReader) :
    ∃ steps, Searches reader steps reader.advance.1 reader.advance.2 ∧
      steps + reader.advance.2.weight ≤ reader.weight + 1 := by
  fun_induction advance reader with
  | case1 reader hr => exact ⟨0, .ready hr, by dsimp only; omega⟩
  | case2 reader hr next hs =>
    have hw := weight_found hs
    exact ⟨1, .found (by simpa using hr) hs, by dsimp only; omega⟩
  | case3 reader hr next hs =>
    have hw := step_nothingLeft hs
    exact ⟨1, .nothingLeft (by simpa using hr) hs, by dsimp only; omega⟩
  | case4 reader hr next hs ih =>
    obtain ⟨steps, hsearch, hle⟩ := ih
    have hw := step_more hs
    exact ⟨steps + 1, .more (by simpa using hr) hs hsearch, by omega⟩

theorem drains_drain (reader : ScriptReader) :
    ∃ steps, Drains reader steps reader.drain.1 reader.drain.2 ∧
      steps + reader.drain.2.weight ≤ reader.weight + 1 := by
  induction hn : reader.weight using Nat.strongRecOn generalizing reader with
  | ind n ih =>
    obtain ⟨steps, hsearch, hle⟩ := reader.searches_advance
    rcases reader.takeNext?_cases with ⟨next, statement, ha, hr, ht⟩ | ⟨next, ha, hd, ht⟩
    · obtain ⟨others, hdrains, hothers⟩ := ih _ (hn ▸ takeNext?_weight ht) _ rfl
      rw [ha] at hsearch hle
      rw [weight_of_ready hr] at hle
      rw [drain_of_some ht]
      exact ⟨steps + others, .taken hsearch hr hdrains, by dsimp only; omega⟩
    · rw [ha] at hsearch hle
      dsimp only at hle
      rw [drain_of_none ht]
      exact ⟨steps, .ended hsearch, by dsimp only; omega⟩

theorem weight_step (reader : ScriptReader) : reader.step.reader.weight ≤ reader.weight := by
  cases hs : reader.step with
  | found next => exact weight_found hs
  | nothingLeft next => exact step_nothingLeft hs
  | more next => exact Nat.le_of_lt (step_more hs)

theorem kept_weight (bound : Nat) : Kept fun reader => reader.weight ≤ bound where
  step reader _ h := Nat.le_trans reader.weight_step h
  taken reader h := by
    cases hr : reader.ready with
    | none => rwa [taken_of_fresh hr]
    | some statement =>
      rw [weight_of_ready hr] at h
      omega
  asked reader _ h := by
    unfold askFailure
    split
    next failure hi =>
      simp only [weight, hi, InputState.weight] at h ⊢
      omega
    next => exact h

theorem opened_weight (access : Access) (source : Source) (settings : Settings) :
    (opened access source settings).weight =
      3 * Source.weight (Source.through access settings.capacity source) + 2 := by
  rw [opened]
  rfl

end ScriptReader

/-- The number of bytes that are not line feeds. -/
def Bytes.inLines (bytes : Bytes) : Nat := bytes.countP (· ≠ lineFeed)

@[simp] theorem Bytes.inLines_append (before after : Bytes) :
    Bytes.inLines (before ++ after) = Bytes.inLines before + Bytes.inLines after :=
  List.countP_append

@[simp] theorem Bytes.inLines_lineFeed (bytes : Bytes) :
    Bytes.inLines (lineFeed :: bytes) = Bytes.inLines bytes := by
  simp [Bytes.inLines]

theorem Bytes.inLines_cons {b : UInt8} (hb : b ≠ lineFeed) (bytes : Bytes) :
    Bytes.inLines (b :: bytes) = Bytes.inLines bytes + 1 :=
  List.countP_cons_of_pos (by simpa using hb)

theorem Bytes.inLines_le_of_sublist {one other : Bytes} (h : one.Sublist other) :
    Bytes.inLines one ≤ Bytes.inLines other :=
  h.countP_le

/-- Each statement takes a byte of its own, which is no line feed. -/
theorem onePass_length_le (escape : Option UInt8) (number : Nat) (delimiter text : Bytes) :
    (onePass escape number delimiter text).length ≤ Bytes.inLines text := by
  fun_induction onePass escape number delimiter text with
  | case1 => exact Nat.zero_le _
  | case2 number delimiter rest ih => rwa [Bytes.inLines_lineFeed]
  | case3 number delimiter b rest hb first next hn ih =>
    have hrest := Bytes.inLines_le_of_sublist (List.dropWhile_sublist (l := rest) (· ≠ lineFeed))
    rw [List.length_cons, Bytes.inLines_cons hb]
    omega
  | case4 number delimiter b rest hb first hn hcut =>
    rw [Bytes.inLines_cons hb, List.length_singleton]
    omega
  | case5 number delimiter b rest hb first hn cut after hcut last ih =>
    obtain ⟨htext, hne⟩ := cutText_eq_some hcut
    obtain ⟨c, cut, rfl⟩ := List.exists_cons_of_ne_nil hne
    obtain ⟨rfl, -⟩ := List.cons.inj htext
    rw [htext, List.length_cons, Bytes.inLines_append, Bytes.inLines_cons hb]
    omega

theorem inLines_lineOfPiece (piece : Bytes) :
    Bytes.inLines (lineOfPiece piece) ≤ Bytes.inLines piece := by
  unfold lineOfPiece
  split
  next => exact Bytes.inLines_le_of_sublist (List.dropLast_sublist piece)
  next => exact Nat.le_refl _

/-- Cutting a text into lines adds nothing to it. -/
theorem inLines_following_textLines (text : Bytes) :
    Bytes.inLines (following (textLines text)) ≤ Bytes.inLines text := by
  induction hn : text.length using Nat.strongRecOn generalizing text with
  | ind n ih =>
    by_cases hl : lineFeed ∈ text
    · obtain ⟨piece, rest, hpiece, rfl⟩ := exists_lines_of_mem hl
      have hlt : rest.length < n := by
        rw [← hn, List.length_append, List.length_cons]
        omega
      have hline := inLines_lineOfPiece piece
      have hrest := ih _ hlt rest rfl
      rw [textLines_cons hpiece, following_cons, Bytes.inLines_lineFeed, Bytes.inLines_append,
        Bytes.inLines_append, Bytes.inLines_lineFeed]
      omega
    · rw [textLines_of_notMem hl]
      split
      next => exact Nat.zero_le _
      next => simp [following]

theorem Source.bytes_through_isPrefix (access : Access) (capacity : Nat) (source : Source) :
    Source.bytes (Source.through access capacity source) <+: Source.bytes source := by
  by_cases hc : access = .buffered ∧ capacity = 0
  · obtain ⟨rfl, rfl⟩ := hc
    exact List.nil_prefix
  · cases access with
    | direct => exact List.prefix_refl _
    | buffered =>
      have hsame := (Source.through_same .buffered (by simpa using hc) source).1
      exact ⟨[], (List.append_nil _).trans hsame⟩

theorem ScriptReader.opened_length_le (access : Access) (source : Source) (settings : Settings) :
    (opened access source settings).drain.1.length ≤ Bytes.inLines (Source.bytes source) := by
  have hlines := inLines_following_textLines
    (Source.bytes (Source.through access settings.capacity source))
  have hbytes := Bytes.inLines_le_of_sublist
    (Source.bytes_through_isPrefix access settings.capacity source).sublist
  rw [opened_drain, opened]
  refine Nat.le_trans (onePass_length_le _ _ _ _) ?_
  rw [← LineReader.linesLeft_reading _ 0] at hlines
  exact Nat.le_trans hlines hbytes

/-- Searches and drains end within a number of steps that the reads and the bytes of the input
bound. -/
theorem drain_ends (access : Access) (source : Source) (settings : Settings)
    (requests : List Pull) :
    let reader := ScriptReader.opened access source settings
    let after := (reader.pulls requests).2
    let bound := 3 * Source.weight (Source.through access settings.capacity source) + 3
    (∃ steps ≤ bound, Searches after steps after.advance.1 after.advance.2) ∧
      (∃ steps ≤ bound, Drains after steps after.outcome.statements after.drain.2) ∧
      (∀ statement, after.ready = some statement → statement.bytes ≠ []) ∧
      reader.outcome.statements.length ≤ Bytes.inLines (Source.bytes source) := by
  intro reader after bound
  have fresh : reader.ready = none := ScriptReader.opened_ready access source settings
  have reached : Reaches reader _ after := Reaches.start.pulls fresh requests
  have hweight : after.weight ≤ reader.weight :=
    reached.kept (ScriptReader.kept_weight reader.weight) (Nat.le_refl _)
  have hbound : reader.weight + 1 = bound :=
    congrArg (· + 1) (ScriptReader.opened_weight access source settings)
  refine ⟨?_, ?_, fun statement hr => reached.ready_ne_nil fresh hr,
    ScriptReader.opened_length_le access source settings⟩
  · obtain ⟨steps, hsearch, hle⟩ := after.searches_advance
    exact ⟨steps, by omega, hsearch⟩
  · obtain ⟨steps, hdrains, hle⟩ := after.drains_drain
    exact ⟨steps, by omega, hdrains⟩

end SqlScript
