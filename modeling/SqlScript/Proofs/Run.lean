import SqlScript.Proofs.Directives
import SqlScript.Proofs.Steps

namespace SqlScript

/-- Whether a reader comes to the bytes of a source straight or through a buffer. -/
inductive Access
  | direct
  | buffered
  deriving DecidableEq, Repr

/-- An input as a reader comes to its bytes. -/
def Source.through (access : Access) (capacity : Nat) (source : Source) : Source :=
  match access with
  | .direct => source
  | .buffered => Source.buffered capacity source

def ScriptReader.opened (access : Access) (source : Source) (settings : Settings) : ScriptReader :=
  .unbuffered (Source.through access settings.capacity source) settings

@[simp] theorem ScriptReader.opened_ready (access : Access) (source : Source)
    (settings : Settings) : (ScriptReader.opened access source settings).ready = none := rfl

@[simp] theorem ScriptReader.opened_delimiter (access : Access) (source : Source)
    (settings : Settings) :
    (ScriptReader.opened access source settings).delimiter = settings.delimiter := rfl

def Step.reader : Step → ScriptReader
  | .found reader => reader
  | .nothingLeft reader => reader
  | .more reader => reader

theorem ScriptReader.step_found_ready {reader next : ScriptReader} (h : reader.step = .found next) :
    ∃ statement, next.ready = some statement ∧ statement.bytes ≠ [] := by
  have hs := reader.stepOf
  rw [h] at hs
  cases hs with
  | @directive line delimiter _ _ _ parsed =>
    refine ⟨_, rfl, ?_⟩
    rintro rfl
    simp [newDelimiter?_nil] at parsed
  | @delimiter line scanned rest _ _ cut =>
    refine ⟨_, rfl, ?_⟩
    obtain ⟨hb, hl⟩ := scan_delimiter cut
    have hlen := congrArg List.length hb
    simp only [List.length_append, List.length_reverse] at hlen
    have hpos : 0 < scanned.length := by omega
    simpa using List.length_pos_iff.mp hpos
  | remainder _ _ begun => exact ⟨_, rfl, by simpa [Draft.bytes] using begun⟩

theorem ScriptReader.step_more_ready {reader next : ScriptReader} (h : reader.step = .more next) :
    next.ready = reader.ready := by
  have hs := reader.stepOf
  rw [h] at hs
  cases hs <;> rfl

/-- The reader has come to its end: no statement is ready and none can be made. -/
def ScriptReader.Done (reader : ScriptReader) : Prop :=
  reader.ready = none ∧ reader.step = .nothingLeft reader

theorem ScriptReader.done_iff {reader : ScriptReader} :
    reader.Done ↔ reader.ready = none ∧ reader.draft.pending = none ∧ reader.draft.scanned = [] ∧
      reader.draft.inProgress = false ∧ ∃ failure asked, reader.input = .ended failure asked := by
  constructor
  · rintro ⟨hr, h⟩
    have hs := reader.stepOf
    rw [h] at hs
    generalize he : Step.nothingLeft reader = result at hs
    cases hs with
    | @nothingLeft failure asked pending input idle =>
      have hg := congrArg (fun next => next.draft.inProgress) (Step.nothingLeft.inj he)
      exact ⟨hr, pending, idle, hg, failure, asked, input⟩
    | _ => simp at he
  · rintro ⟨hr, pending, idle, hg, failure, asked, input⟩
    have hd : reader.draft.takeRemainder = (none, reader.draft) := by
      rw [Draft.takeRemainder, if_pos (by simp [idle]), ← hg]
    refine ⟨hr, ?_⟩
    unfold step
    rw [pending, input]
    dsimp only
    rw [hd, ← input]

theorem ScriptReader.step_nothingLeft_done {reader next : ScriptReader}
    (hr : reader.ready = none) (h : reader.step = .nothingLeft next) : next.Done := by
  have hs := reader.stepOf
  rw [h] at hs
  cases hs with
  | nothingLeft pending input idle =>
    exact done_iff.mpr ⟨hr, pending, idle, rfl, _, _, input⟩

theorem ScriptReader.taken_of_fresh {reader : ScriptReader} (hr : reader.ready = none) :
    { reader with ready := none } = reader := by
  rw [← hr]

theorem ScriptReader.advance_of_ready {reader : ScriptReader} {statement : Statement}
    (h : reader.ready = some statement) : reader.advance = (true, reader) := by
  rw [advance]
  simp [h]

theorem ScriptReader.advance_of_found {reader next : ScriptReader} (hr : reader.ready = none)
    (hs : reader.step = .found next) : reader.advance = (true, next) := by
  rw [advance, if_neg (by simp [hr])]
  split <;> simp_all

theorem ScriptReader.advance_of_nothingLeft {reader next : ScriptReader}
    (hr : reader.ready = none) (hs : reader.step = .nothingLeft next) :
    reader.advance = (false, next) := by
  rw [advance, if_neg (by simp [hr])]
  split <;> simp_all

theorem ScriptReader.advance_of_more {reader next : ScriptReader} (hr : reader.ready = none)
    (hs : reader.step = .more next) : reader.advance = next.advance := by
  rw [advance, if_neg (by simp [hr])]
  split <;> simp_all

theorem ScriptReader.advance_preserves {P : ScriptReader → Prop}
    (preserved : ∀ reader, reader.ready = none → P reader → P reader.step.reader)
    {reader : ScriptReader} (h : P reader) : P reader.advance.2 := by
  fun_induction advance reader with
  | case1 => exact h
  | case2 reader hr next hs =>
    have hp := preserved reader (by simpa using hr) h
    rwa [hs] at hp
  | case3 reader hr next hs =>
    have hp := preserved reader (by simpa using hr) h
    rwa [hs] at hp
  | case4 reader hr next hs ih =>
    have hp := preserved reader (by simpa using hr) h
    rw [hs] at hp
    exact ih hp

/-- Advancing tells whether a statement is ready, and if none is there will be none. -/
theorem ScriptReader.advance_cases (reader : ScriptReader) :
    (∃ next statement, reader.advance = (true, next) ∧ next.ready = some statement) ∨
      ∃ next, reader.advance = (false, next) ∧ next.Done := by
  fun_induction advance reader with
  | case1 reader hr =>
    obtain ⟨statement, hr⟩ := Option.isSome_iff_exists.mp hr
    exact .inl ⟨reader, statement, rfl, hr⟩
  | case2 reader hr next hs =>
    obtain ⟨statement, hr, _⟩ := step_found_ready hs
    exact .inl ⟨next, statement, rfl, hr⟩
  | case3 reader hr next hs =>
    exact .inr ⟨next, rfl, step_nothingLeft_done (by simpa using hr) hs⟩
  | case4 reader hr next hs ih => exact ih

theorem ScriptReader.takeNext?_cases (reader : ScriptReader) :
    (∃ next statement, reader.advance = (true, next) ∧ next.ready = some statement ∧
        reader.takeNext? = (some statement, { next with ready := none })) ∨
      ∃ next, reader.advance = (false, next) ∧ next.Done ∧ reader.takeNext? = (none, next) := by
  rcases reader.advance_cases with ⟨next, statement, ha, hr⟩ | ⟨next, ha, hd⟩
  · exact .inl ⟨next, statement, ha, hr, by simp [takeNext?, ha, take, hr]⟩
  · exact .inr ⟨next, ha, hd, by simp [takeNext?, ha]⟩

theorem ScriptReader.takeNext?_of_advance {a b : ScriptReader} (h : a.advance = b.advance) :
    a.takeNext? = b.takeNext? := by
  simp only [takeNext?, h]

theorem ScriptReader.drain_of_advance {a b : ScriptReader} (h : a.advance = b.advance) :
    a.drain = b.drain := by
  have ht := takeNext?_of_advance h
  obtain ⟨found, next, hn⟩ : ∃ found next, b.takeNext? = (found, next) := ⟨_, _, rfl⟩
  cases found with
  | none => rw [drain_of_none hn, drain_of_none (ht.trans hn)]
  | some statement => rw [drain_of_some hn, drain_of_some (ht.trans hn)]

theorem ScriptReader.drain_of_ready {reader : ScriptReader} {statement : Statement}
    (h : reader.ready = some statement) :
    reader.drain = (statement :: { reader with ready := none }.drain.1,
      { reader with ready := none }.drain.2) := by
  apply drain_of_some
  simp [takeNext?, advance_of_ready h, take, h]

theorem ScriptReader.drain_of_found {reader next : ScriptReader} (hr : reader.ready = none)
    (hs : reader.step = .found next) : reader.drain = next.drain := by
  obtain ⟨statement, hn, _⟩ := step_found_ready hs
  apply drain_of_advance
  rw [advance_of_found hr hs, advance_of_ready hn]

theorem ScriptReader.drain_of_more {reader next : ScriptReader} (hr : reader.ready = none)
    (hs : reader.step = .more next) : reader.drain = next.drain :=
  drain_of_advance (advance_of_more hr hs)

theorem ScriptReader.drain_of_nothingLeft {reader next : ScriptReader} (hr : reader.ready = none)
    (hs : reader.step = .nothingLeft next) : reader.drain = ([], next) := by
  apply drain_of_none
  simp [takeNext?, advance_of_nothingLeft hr hs]

theorem ScriptReader.Done.drain {reader : ScriptReader} (h : reader.Done) :
    reader.drain = ([], reader) :=
  drain_of_nothingLeft h.1 h.2

theorem ScriptReader.drain_advance (reader : ScriptReader) :
    reader.advance.2.drain = reader.drain := by
  apply drain_of_advance
  rcases reader.advance_cases with ⟨next, statement, ha, hr⟩ | ⟨next, ha, hd⟩
  · rw [ha, advance_of_ready hr]
  · rw [ha, advance_of_nothingLeft hd.1 hd.2]

/-- What holds of a reader and of what it is drained to is shown step by step, from the end on. -/
theorem ScriptReader.drain_induction {Q : ScriptReader → List Statement × ScriptReader → Prop}
    (found : ∀ reader next statement drained, reader.step = .found next →
      next.ready = some statement → Q { next with ready := none } drained →
      Q reader (statement :: drained.1, drained.2))
    (nothingLeft : ∀ reader next, reader.step = .nothingLeft next → next.Done → Q reader ([], next))
    (more : ∀ reader next drained, reader.step = .more next → Q next drained → Q reader drained)
    {reader : ScriptReader} (hr : reader.ready = none) : Q reader reader.drain := by
  induction hw : reader.weight using Nat.strongRecOn generalizing reader with
  | ind n ih =>
    cases hs : reader.step with
    | found next =>
      obtain ⟨statement, hn, _⟩ := step_found_ready hs
      rw [drain_of_found hr hs, drain_of_ready hn]
      exact found reader next statement _ hs hn (ih _ (hw ▸ step_found hs) rfl rfl)
    | nothingLeft next =>
      rw [drain_of_nothingLeft hr hs]
      exact nothingLeft reader next hs (step_nothingLeft_done hr hs)
    | more next =>
      rw [drain_of_more hr hs]
      exact more reader next _ hs (ih _ (hw ▸ step_more hs) ((step_more_ready hs).trans hr) rfl)

theorem ScriptReader.drain_preserves {P : ScriptReader → Prop}
    (preserved : ∀ reader, reader.ready = none → P reader → P reader.step.reader)
    (taken : ∀ reader : ScriptReader, P reader → P { reader with ready := none })
    {reader : ScriptReader} (h : P reader) : P reader.drain.2 := by
  induction hw : reader.weight using Nat.strongRecOn generalizing reader with
  | ind n ih =>
    have hadvance := reader.advance_preserves preserved h
    rcases reader.takeNext?_cases with ⟨next, statement, ha, hr, ht⟩ | ⟨next, ha, hd, ht⟩
    · rw [ha] at hadvance
      rw [drain_of_some ht]
      exact ih _ (hw ▸ takeNext?_weight ht) (taken next hadvance) rfl
    · rw [ha] at hadvance
      rwa [drain_of_none ht]

theorem ScriptReader.drain_done (reader : ScriptReader) : reader.drain.2.Done := by
  induction hw : reader.weight using Nat.strongRecOn generalizing reader with
  | ind n ih =>
    rcases reader.takeNext?_cases with ⟨next, statement, ha, hr, ht⟩ | ⟨next, ha, hd, ht⟩
    · rw [drain_of_some ht]
      exact ih _ (hw ▸ takeNext?_weight ht) _ rfl
    · rwa [drain_of_none ht]

end SqlScript
