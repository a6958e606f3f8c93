import SqlScript.Describe
import SqlScript.Proofs.Consumption
import SqlScript.Proofs.InputMaps
import SqlScript.Proofs.Remainder

namespace SqlScript

/-- The items that an answer hands out. A statement that is taken is one if it has bytes. -/
def Pulled.delivered : Pulled → List (Except Failure Statement)
  | .advanced _ => []
  | .taken statement => if statement.isEmpty then [] else [.ok statement]
  | .item found => found.toList
  | .items found => found

/-- The items that answers hand out, in their order. -/
def delivered (answers : List Pulled) : List (Except Failure Statement) :=
  answers.flatMap Pulled.delivered

/-- All that an outcome comes to, one item after the other: the statements and then the failure. -/
def Outcome.items (outcome : Outcome) : List (Except Failure Statement) :=
  outcome.statements.map .ok ++ (outcome.failure.map .error).toList

/-- The items that a reader is still going to give: its statements, and the failure that ended the
input unless it has been asked for. -/
def ScriptReader.itemsLeft (reader : ScriptReader) : List (Except Failure Statement) :=
  reader.drain.1.map .ok ++ (reader.drain.2.askFailure.1.map .error).toList

theorem ScriptReader.Done.itemsLeft {reader : ScriptReader} (h : reader.Done) :
    reader.itemsLeft = (reader.askFailure.1.map .error).toList := by
  rw [ScriptReader.itemsLeft, h.drain]
  rfl

theorem ScriptReader.itemsLeft_advance (reader : ScriptReader) :
    reader.advance.2.itemsLeft = reader.itemsLeft := by
  rw [itemsLeft, itemsLeft, reader.drain_advance]

theorem ScriptReader.itemsLeft_taken (reader : ScriptReader) :
    reader.ready.toList.map .ok ++ { reader with ready := none }.itemsLeft = reader.itemsLeft := by
  cases hr : reader.ready with
  | none =>
    rw [taken_of_fresh hr]
    rfl
  | some statement =>
    rw [itemsLeft, itemsLeft, drain_of_ready hr]
    rfl

/-- The next item is the first of those that are left. -/
theorem ScriptReader.next_itemsLeft (reader : ScriptReader) :
    reader.next.1 = reader.itemsLeft.head? ∧ reader.next.2.itemsLeft = reader.itemsLeft.tail := by
  rcases reader.next_cases with ⟨next, statement, ha, hr, hn⟩ | ⟨next, ha, hd, hn⟩
  · have hleft := reader.itemsLeft_advance
    rw [ha, ← next.itemsLeft_taken, hr] at hleft
    rw [hn, ← hleft]
    exact ⟨rfl, rfl⟩
  · have hleft := reader.itemsLeft_advance
    rw [ha, hd.itemsLeft] at hleft
    rw [hn, ← hleft, hd.askFailure.itemsLeft, next.askFailure_again]
    cases next.askFailure.1 <;> exact ⟨rfl, rfl⟩

theorem ScriptReader.next_append_itemsLeft (reader : ScriptReader) :
    reader.next.1.toList ++ reader.next.2.itemsLeft = reader.itemsLeft := by
  rw [reader.next_itemsLeft.1, reader.next_itemsLeft.2]
  cases reader.itemsLeft <;> rfl

theorem ScriptReader.nextUpTo_append_itemsLeft (reader : ScriptReader) (count : Nat) :
    (reader.nextUpTo count).1 ++ (reader.nextUpTo count).2.itemsLeft = reader.itemsLeft := by
  induction count generalizing reader with
  | zero => rfl
  | succ count ih =>
    have hnext := reader.next_append_itemsLeft
    unfold nextUpTo
    split
    next next he => rwa [he] at hnext
    next item next he =>
      rw [he] at hnext
      rw [← hnext, ← ih next]
      rfl

/-- All the items up to the first time that there is none are those that are left. -/
theorem ScriptReader.rest_itemsLeft (reader : ScriptReader) :
    reader.rest.1 = reader.itemsLeft ∧ reader.rest.2.itemsLeft = [] := by
  induction hw : reader.weight using Nat.strongRecOn generalizing reader with
  | ind n ih =>
    obtain ⟨hhead, htail⟩ := reader.next_itemsLeft
    have hnext := reader.next_append_itemsLeft
    obtain ⟨found, next, he⟩ : ∃ found next, reader.next = (found, next) := ⟨_, _, rfl⟩
    rw [he] at hhead htail hnext
    unfold rest
    cases found with
    | none =>
      have hnone : reader.itemsLeft = [] := List.head?_eq_none_iff.mp hhead.symm
      rw [restAfter_of_none he, hnone]
      rw [hnone] at htail
      exact ⟨rfl, htail⟩
    | some item =>
      obtain ⟨hrest, hlast⟩ := ih _ (hw ▸ next_weight he) next rfl
      rw [restAfter_of_some he, restAfter_eq, ← hnext, ← hrest]
      exact ⟨rfl, hlast⟩

/-- What an answer hands out comes off the items that are left. -/
theorem Reaches.pull_append_itemsLeft {start reader : ScriptReader} {handed : List Statement}
    (fresh : start.ready = none) (h : Reaches start handed reader) (request : Pull) :
    (reader.pull request).1.delivered ++ (reader.pull request).2.itemsLeft = reader.itemsLeft := by
  cases request with
  | advance => exact reader.itemsLeft_advance
  | take =>
    rw [← reader.itemsLeft_taken]
    cases hr : reader.ready with
    | none => simp [ScriptReader.pull, ScriptReader.take, hr, Pulled.delivered,
        show (default : Statement).isEmpty = true from rfl]
    | some statement =>
      have hb := h.ready_ne_nil fresh hr
      simp [ScriptReader.pull, ScriptReader.take, hr, Pulled.delivered, Statement.isEmpty, hb]
  | next => exact reader.next_append_itemsLeft
  | nextUpTo count => exact reader.nextUpTo_append_itemsLeft count
  | rest =>
    obtain ⟨hrest, hlast⟩ := reader.rest_itemsLeft
    change reader.rest.1 ++ reader.rest.2.itemsLeft = reader.itemsLeft
    rw [hrest, hlast, List.append_nil]

theorem Reaches.pulls_append_itemsLeft {start reader : ScriptReader} {handed : List Statement}
    (fresh : start.ready = none) (h : Reaches start handed reader) (requests : List Pull) :
    delivered (reader.pulls requests).1 ++ (reader.pulls requests).2.itemsLeft =
      reader.itemsLeft := by
  induction requests generalizing handed reader with
  | nil => rfl
  | cons request requests ih =>
    have hrest := ih (h.pull fresh request)
    rw [← h.pull_append_itemsLeft fresh request, ← hrest, ← List.append_assoc]
    rfl

theorem ScriptReader.pulls_next (reader : ScriptReader) (count : Nat) :
    (reader.pulls (List.replicate count .next)).1 =
      (List.range count).map fun index => .item reader.itemsLeft[index]? := by
  induction count generalizing reader with
  | zero => rfl
  | succ count ih =>
    rw [List.replicate_succ, List.range_succ_eq_map, List.map_cons, List.map_map]
    change Pulled.item reader.next.1 :: (reader.next.2.pulls (List.replicate count .next)).1 = _
    rw [ih, reader.next_itemsLeft.1, reader.next_itemsLeft.2, List.head?_eq_getElem?]
    congr 1
    apply List.map_congr_left
    intro index _
    cases reader.itemsLeft <;> simp

/-- Whether the failure that ended the input may still be asked for. -/
def InputState.isUnasked : InputState → Bool
  | .reading => true
  | .ended _ asked => !asked

theorem ScriptReader.drain_isUnasked {reader : ScriptReader}
    (h : reader.input.isUnasked = true) : reader.drain.2.input.isUnasked = true := by
  apply drain_preserves (P := fun reader => reader.input.isUnasked = true)
  · intro reader _ h
    have hs := reader.stepOf
    generalize reader.step = result at hs ⊢
    cases hs with
    | inputEnd failure pending input read => rfl
    | _ => exact h
  · exact fun _ h => h
  · exact h

theorem ScriptReader.itemsLeft_of_isUnasked {reader : ScriptReader}
    (h : reader.input.isUnasked = true) : reader.itemsLeft = reader.outcome.items := by
  have hunasked := drain_isUnasked h
  obtain ⟨_, _, _, _, failure, asked, hi⟩ := done_iff.mp reader.drain_done
  have hasked : asked = false := by simpa [hi, InputState.isUnasked] using hunasked
  simp [itemsLeft, Outcome.items, outcome, askFailure, ScriptReader.failure, hi, hasked]

/-- Once the input has ended, how it ended stays. -/
theorem ScriptReader.kept_failure (failure : Option Failure) :
    Kept fun reader => reader.isExhausted = true ∧ reader.failure = failure where
  step reader _ h := by
    have hs := reader.stepOf
    generalize reader.step = result at hs ⊢
    cases hs with
    | line pending input read => simp [isExhausted, input] at h
    | inputEnd failure pending input read => simp [isExhausted, input] at h
    | _ => exact h
  taken _ h := h
  asked reader _ h := by
    refine ⟨?_, reader.askFailure_failure.trans h.2⟩
    unfold askFailure
    split
    next => rfl
    next => exact h.1

theorem ScriptReader.isExhausted_iff {reader : ScriptReader} :
    reader.isExhausted = true ↔ ∃ failure asked, reader.input = .ended failure asked := by
  cases hi : reader.input <;> simp [isExhausted, hi]

theorem ScriptReader.isExhausted_eq_false_iff {reader : ScriptReader} :
    reader.isExhausted = false ↔ reader.input = .reading := by
  cases hi : reader.input <;> simp [isExhausted, hi]

theorem ScriptReader.isExhausted_of_failure {reader : ScriptReader} (h : reader.failure ≠ none) :
    reader.isExhausted = true := by
  cases hi : reader.input with
  | reading => simp [failure, hi] at h
  | ended failure asked => exact isExhausted_iff.mpr ⟨failure, asked, hi⟩

/-- A statement that is ready is unended exactly in a reader whose input has ended. -/
structure ScriptReader.Held (escape : UInt8) (reader : ScriptReader) : Prop where
  sound : reader.Sound
  rescannable : reader.Rescannable
  escape : reader.escape = escape
  unended : ∀ statement, reader.ready = some statement →
    statement.isUnended (usableEscape reader.escape) (usableDelimiter reader.delimiter) =
      reader.isExhausted

theorem StepOf.escape {reader : ScriptReader} {result : Step} (h : StepOf reader result) :
    result.reader.escape = reader.escape := by
  cases h <;> rfl

theorem ScriptReader.kept_held (escape : UInt8) : Kept (Held escape) where
  step reader hr h := by
    refine ⟨h.sound.step, h.rescannable.step h.sound, reader.stepOf.escape.trans h.escape, ?_⟩
    intro statement hs
    cases hstep : reader.step with
    | found next =>
      rw [hstep] at hs
      exact h.rescannable.isUnended_found h.sound hstep hs
    | nothingLeft next =>
      rw [hstep] at hs
      have hready := (step_nothingLeft_done hr hstep).1
      simp [Step.reader, hready] at hs
    | more next =>
      rw [hstep] at hs
      have hready := step_more_ready hstep
      simp [Step.reader, hready, hr] at hs
  taken reader h := by
    refine ⟨kept_sound.taken reader h.sound, ⟨h.rescannable.begun, h.rescannable.ended⟩,
      h.escape, ?_⟩
    intro statement hs
    simp at hs
  asked reader hd h := by
    have hsound := kept_sound.asked reader hd h.sound
    unfold askFailure at hsound ⊢
    split
    next failure hi =>
      rw [hi] at hsound
      have hended := isExhausted_iff.mpr ⟨failure, false, hi⟩
      exact ⟨hsound, ⟨h.rescannable.begun, fun _ => h.rescannable.ended hended⟩, h.escape,
        fun statement hs => (h.unended statement hs).trans hended⟩
    next => exact h

theorem ScriptReader.opened_held (access : Access) (source : Source) (settings : Settings) :
    Held settings.escape (ScriptReader.opened access source settings) := by
  refine ⟨opened_sound access source settings, .of_idle rfl fun _ => rfl, rfl, ?_⟩
  simp

/-- Between requests, all that is left of a reader whose input has ended is the statement that is
ready. -/
theorem ScriptReader.Held.drain_of_exhausted {escape : UInt8} {reader : ScriptReader}
    (h : Held escape reader) (idle : reader.draft.scanned = [])
    (hended : reader.isExhausted = true) :
    reader.drain.1 = reader.ready.toList ∧ reader.drain.2.delimiter = reader.delimiter := by
  obtain ⟨failure, asked, hi⟩ := isExhausted_iff.mp hended
  have hremainder : reader.draft.takeRemainder =
      (none, { reader.draft with inProgress := false }) := by
    simp [Draft.takeRemainder, idle]
  have hp := h.rescannable.ended hended
  cases hr : reader.ready with
  | none =>
    rw [drain_of_nothingLeft hr (step_of_noRemainder hp hi hremainder)]
    exact ⟨rfl, rfl⟩
  | some statement =>
    have hstep : { reader with ready := none }.step = _ :=
      step_of_noRemainder hp hi hremainder
    rw [drain_of_ready hr, drain_of_nothingLeft rfl hstep]
    exact ⟨rfl, rfl⟩

@[simp] theorem ScriptReader.askFailure_delimiter (reader : ScriptReader) :
    reader.askFailure.2.delimiter = reader.delimiter := by
  unfold askFailure
  split <;> rfl

@[simp] theorem ScriptReader.askFailure_lineNumber (reader : ScriptReader) :
    reader.askFailure.2.lineNumber = reader.lineNumber := by
  unfold askFailure
  split <;> rfl

@[simp] theorem ScriptReader.askFailure_describe (reader : ScriptReader) :
    reader.askFailure.2.describe = reader.describe := by
  unfold askFailure
  split
  next failure hi => simp [describe, isExhausted, ScriptReader.failure, hi]
  next => rfl

theorem Reaches.drain_delimiter {start reader : ScriptReader} {handed : List Statement}
    (h : Reaches start handed reader) : reader.drain.2.delimiter = start.drain.2.delimiter := by
  rcases h.drain_end.2 with he | he <;> simp [he]

/-- A failure shows only where nothing is left but the remainder. -/
theorem Reaches.drain_suffix_remainder {escape : UInt8} {start reader : ScriptReader}
    {handed : List Statement} (h : Reaches start handed reader)
    (held : ScriptReader.Held escape start) (idle : start.draft.scanned = [])
    (hended : reader.isExhausted = true) :
    reader.drain.1 <:+ start.remainder?.toList ∧
      ∀ statement, reader.ready = some statement → start.remainder? = some statement := by
  have hheld : ScriptReader.Held escape reader := h.kept (ScriptReader.kept_held escape) held
  obtain ⟨hdrain, hdelimiter⟩ := hheld.drain_of_exhausted (h.scanned_nil idle) hended
  have hready : ∀ statement, reader.ready = some statement →
      start.remainder? = some statement := by
    intro statement hr
    have hunended := (hheld.unended statement hr).trans hended
    rw [hheld.escape, ← held.escape, ← hdelimiter, h.drain_delimiter] at hunended
    rw [ScriptReader.remainder?, h.drain.1, hdrain, hr, Option.toList_some,
      List.getLast?_append_of_ne_nil _ (List.cons_ne_nil _ _), List.getLast?_singleton,
      Option.filter_some, if_pos hunended]
  refine ⟨?_, hready⟩
  rw [hdrain]
  cases hr : reader.ready with
  | none => exact List.nil_suffix
  | some statement => simp [hready statement hr]

/-- Nothing but the question for the failure is left at the end. -/
theorem ScriptReader.Done.kept {ended : ScriptReader} (h : ended.Done) :
    Kept fun reader => reader = ended ∨ reader = ended.askFailure.2 where
  step reader _ hr := by
    have hd : reader.Done := by rcases hr with rfl | rfl; exacts [h, h.askFailure]
    rwa [hd.2]
  taken reader hr := by
    have hd : reader.Done := by rcases hr with rfl | rfl; exacts [h, h.askFailure]
    rwa [taken_of_fresh hd.1]
  asked reader _ hr := by
    right
    rcases hr with rfl | rfl
    · rfl
    · rw [askFailure_again]

/-- A failure that is told is the one that ended the input, and it shows from then on. -/
theorem ScriptReader.failure_of_delivered {reader : ScriptReader} (fresh : reader.ready = none)
    (unasked : reader.input.isUnasked = true) {requests : List Pull} {failure : Failure}
    (hm : .error failure ∈ delivered (reader.pulls requests).1) :
    (reader.pulls requests).2.failure = some failure := by
  have reached : Reaches reader _ _ := Reaches.start.pulls fresh requests
  have hall := Reaches.start.pulls_append_itemsLeft fresh requests
  rw [itemsLeft_of_isUnasked unasked] at hall
  generalize (reader.pulls requests).2 = after at reached hall ⊢
  have hstart : reader.outcome.failure = some failure := by
    have hitem := List.mem_append_left after.itemsLeft hm
    rw [hall] at hitem
    simpa [Outcome.items] using hitem
  have hafter : after.outcome.failure = some failure := reached.drain.2.symm.trans hstart
  have hasked : after.input.isUnasked = false := by
    cases hu : after.input.isUnasked with
    | false => rfl
    | true =>
      -- nothing but statements can come before a failure that is still to be told
      rw [itemsLeft_of_isUnasked hu, Outcome.items, Outcome.items, hafter, hstart,
        ← List.append_assoc] at hall
      have hbefore := List.append_cancel_right hall
      have hstatement := List.mem_append_left (after.outcome.statements.map .ok) hm
      rw [hbefore] at hstatement
      simp at hstatement
  have hended : after.isExhausted = true := by
    cases hi : after.input with
    | reading => simp [hi, InputState.isUnasked] at hasked
    | ended cause asked => exact isExhausted_iff.mpr ⟨cause, asked, hi⟩
  have hkept := (kept_failure after.failure).drain ⟨hended, rfl⟩
  rw [← hkept.2]
  exact hafter

/-- A failure to read is told once, after all statements, and stays to be seen. -/
theorem pulls_tell_failure_last (access : Access) (source : Source) (settings : Settings)
    (requests : List Pull) :
    let reader := ScriptReader.opened access source settings
    let after := (reader.pulls requests).2
    (∀ failure later, after.failure = some failure →
        (after.pulls later).2.failure = some failure) ∧
      (after.failure ≠ none → after.outcome.statements <:+ reader.remainder?.toList ∧
        ∀ statement, after.ready = some statement → reader.remainder? = some statement) ∧
      (delivered (reader.pulls requests).1 <+: reader.outcome.items ∧
        (∀ failure, .error failure ∈ delivered (reader.pulls requests).1 →
          after.failure = some failure) ∧
        ∀ count, (reader.pulls (List.replicate count .next)).1 =
          (List.range count).map fun index => .item reader.outcome.items[index]?) ∧
      ∀ ended later, after.advance = (false, ended) →
        let last := (ended.pulls later).2
        last.advance = (false, last) ∧ last.take.1 = default ∧
          last.lineNumber = ended.lineNumber ∧ last.delimiter = ended.delimiter ∧
          last.failure = ended.failure ∧ last.describe = ended.describe := by
  intro reader after
  have fresh : reader.ready = none := ScriptReader.opened_ready access source settings
  have unasked : reader.input.isUnasked = true := rfl
  have idle : reader.draft.scanned = [] := rfl
  have reached : Reaches reader (handedOut (reader.pulls requests).1) after :=
    Reaches.start.pulls fresh requests
  have hitems : reader.itemsLeft = reader.outcome.items :=
    ScriptReader.itemsLeft_of_isUnasked unasked
  refine ⟨?_, ?_, ⟨?_, ?_, ?_⟩, ?_⟩
  · intro failure later hf
    have hended : after.isExhausted = true := ScriptReader.isExhausted_of_failure (by simp [hf])
    exact ((ScriptReader.kept_failure (some failure)).pulls ⟨hended, hf⟩ later).2
  · intro hf
    exact reached.drain_suffix_remainder (ScriptReader.opened_held access source settings) idle
      (ScriptReader.isExhausted_of_failure hf)
  · rw [← hitems, ← Reaches.start.pulls_append_itemsLeft fresh requests]
    exact List.prefix_append _ _
  · exact fun failure hm => ScriptReader.failure_of_delivered fresh unasked hm
  · intro count
    rw [← hitems]
    exact reader.pulls_next count
  · intro ended later ha last
    have hd : ended.Done := by
      rcases after.advance_cases with ⟨_, _, hfound, _⟩ | ⟨next, hnone, hd⟩
      · simp [hfound] at ha
      · rw [hnone] at ha
        exact (Prod.mk.inj ha).2 ▸ hd
    have hlast : last = ended ∨ last = ended.askFailure.2 := hd.kept.pulls (.inl rfl) later
    have hdone : last.Done := by rcases hlast with he | he <;> rw [he]; exacts [hd, hd.askFailure]
    refine ⟨hdone.advance, ?_, ?_⟩
    · simp [ScriptReader.take, hdone.1]
    · rcases hlast with he | he <;> simp [he, ScriptReader.askFailure_failure]

/-- The failure shows while the remainder is still to be taken. -/
example :
    let reader := ScriptReader.opened .direct [.data (Bytes.ofText "a;\nb"), .failed "gone"] default
    let after := (reader.pulls [.next, .advance]).2
    after.failure = some (.unread "gone") ∧ after.ready = some ⟨Bytes.ofText "b", 2, 2, .sql⟩ ∧
      reader.remainder? = after.ready := by
  decide +kernel

end SqlScript
