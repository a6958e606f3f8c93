import SqlScript.Proofs.Requests

namespace SqlScript

def Step.map (f : ScriptReader → ScriptReader) : Step → Step
  | .found reader => .found (f reader)
  | .nothingLeft reader => .nothingLeft (f reader)
  | .more reader => .more (f reader)

section

variable {reader : ScriptReader} {line : Bytes} {statement : Statement} {draft : Draft}

theorem ScriptReader.step_of_directive (hp : reader.draft.pending = some line)
    (hd : reader.draft.takeDirective? line = some (statement, draft)) :
    reader.step = .found ({ reader with draft }.holdDirective statement) := by
  simp only [step, hp, hd]

theorem ScriptReader.step_of_delimiter (hp : reader.draft.pending = some line)
    (hd : reader.draft.takeDirective? line = none)
    (hs : reader.draft.scanLine reader.escape line = (some statement, draft)) :
    reader.step = .found ({ reader with draft }.hold statement) := by
  simp only [step, hp, hd, hs]

theorem ScriptReader.step_of_lineEnd (hp : reader.draft.pending = some line)
    (hd : reader.draft.takeDirective? line = none)
    (hs : reader.draft.scanLine reader.escape line = (none, draft)) :
    reader.step = .more { reader with draft } := by
  simp only [step, hp, hd, hs]

theorem ScriptReader.step_of_reading (hp : reader.draft.pending = none)
    (hi : reader.input = .reading) : reader.step = .more reader.pullLine := by
  simp only [step, hp, hi]

theorem ScriptReader.step_of_remainder (hp : reader.draft.pending = none)
    {failure : Option Failure} {asked : Bool} (hi : reader.input = .ended failure asked)
    (hr : reader.draft.takeRemainder = (some statement, draft)) :
    reader.step = .found ({ reader with draft }.hold statement) := by
  unfold step
  rw [hp, hi]
  simp only [hr]

theorem ScriptReader.step_of_noRemainder (hp : reader.draft.pending = none)
    {failure : Option Failure} {asked : Bool} (hi : reader.input = .ended failure asked)
    (hr : reader.draft.takeRemainder = (none, draft)) :
    reader.step = .nothingLeft { reader with draft } := by
  unfold step
  rw [hp, hi]
  simp only [hr]

end

/-- A map of readers that changes nothing in what is made of their lines. -/
structure ScriptReader.LineMap (f : ScriptReader → ScriptReader) : Prop where
  draft : ∀ reader, (f reader).draft = reader.draft
  ready : ∀ reader, (f reader).ready = reader.ready
  withDraft : ∀ (reader : ScriptReader) draft, f { reader with draft } = { f reader with draft }
  taken : ∀ reader : ScriptReader, f { reader with ready := none } = { f reader with ready := none }
  hold : ∀ reader statement, f (reader.hold statement) = (f reader).hold statement
  holdDirective : ∀ reader statement,
    f (reader.holdDirective statement) = (f reader).holdDirective statement
  reading : ∀ reader, reader.input = .reading → (f reader).input = .reading
  ended : ∀ reader failure asked, reader.input = .ended failure asked →
    ∃ failure', (f reader).input = .ended failure' asked
  pullLine : ∀ reader, (f reader).pullLine = f reader.pullLine

/-- A map that changes the dialect and the escape only. -/
theorem ScriptReader.lineMap_of_fields (dialect : Dialect → Dialect) (escape : UInt8 → UInt8) :
    LineMap fun reader =>
      { reader with dialect := dialect reader.dialect, escape := escape reader.escape } where
  draft _ := rfl
  ready _ := rfl
  withDraft _ _ := rfl
  taken _ := rfl
  hold _ _ := rfl
  holdDirective _ _ := rfl
  reading _ hi := hi
  ended _ failure _ hi := ⟨failure, hi⟩
  pullLine reader := by
    simp only [pullLine]
    split <;> rfl

namespace ScriptReader

variable {P : ScriptReader → Prop} {f : ScriptReader → ScriptReader} {reader : ScriptReader}

/-- A step goes the same way before a map and after it if a line that it scans is scanned alike. -/
theorem LineMap.step (h : LineMap f)
    (scanned : ∀ line, reader.draft.pending = some line →
      reader.draft.takeDirective? line = none →
      reader.draft.scanLine (f reader).escape line = reader.draft.scanLine reader.escape line) :
    (f reader).step = reader.step.map f := by
  cases hp : reader.draft.pending with
  | some line =>
    have hp' : (f reader).draft.pending = some line := by rw [h.draft, hp]
    cases hd : reader.draft.takeDirective? line with
    | some directive =>
      have hd' : (f reader).draft.takeDirective? line = some directive := by rw [h.draft, hd]
      rw [step_of_directive hp hd, step_of_directive hp' hd', Step.map, h.holdDirective,
        h.withDraft reader directive.2]
    | none =>
      have hd' : (f reader).draft.takeDirective? line = none := by rw [h.draft, hd]
      obtain ⟨found, draft, hs⟩ : ∃ found draft,
          reader.draft.scanLine reader.escape line = (found, draft) := ⟨_, _, rfl⟩
      have hs' : (f reader).draft.scanLine (f reader).escape line = (found, draft) := by
        rw [h.draft, scanned line hp hd, hs]
      cases found with
      | none =>
        rw [step_of_lineEnd hp hd hs, step_of_lineEnd hp' hd' hs', Step.map,
          h.withDraft reader draft]
      | some statement =>
        rw [step_of_delimiter hp hd hs, step_of_delimiter hp' hd' hs', Step.map, h.hold,
          h.withDraft reader draft]
  | none =>
    have hp' : (f reader).draft.pending = none := by rw [h.draft, hp]
    cases hi : reader.input with
    | reading =>
      rw [step_of_reading hp hi, step_of_reading hp' (h.reading reader hi), Step.map, h.pullLine]
    | ended failure asked =>
      obtain ⟨failure', hi'⟩ := h.ended reader failure asked hi
      obtain ⟨found, draft, hr⟩ : ∃ found draft,
          reader.draft.takeRemainder = (found, draft) := ⟨_, _, rfl⟩
      have hr' : (f reader).draft.takeRemainder = (found, draft) := by rw [h.draft, hr]
      cases found with
      | none =>
        rw [step_of_noRemainder hp hi hr, step_of_noRemainder hp' hi' hr', Step.map,
          h.withDraft reader draft]
      | some statement =>
        rw [step_of_remainder hp hi hr, step_of_remainder hp' hi' hr', Step.map, h.hold,
          h.withDraft reader draft]

/-- A map that goes through with the steps of the readers that have a property, which nothing takes
from them. -/
structure StepMapOn (P : ScriptReader → Prop) (f : ScriptReader → ScriptReader) : Prop extends
    LineMap f where
  kept : Kept P
  step : ∀ reader, reader.ready = none → P reader → (f reader).step = reader.step.map f

namespace StepMapOn

theorem advance (h : StepMapOn P f) (hp : P reader) :
    (f reader).advance = (reader.advance.1, f reader.advance.2) := by
  fun_induction ScriptReader.advance reader with
  | case1 reader hr =>
    obtain ⟨statement, hr⟩ := Option.isSome_iff_exists.mp hr
    exact advance_of_ready ((h.ready reader).trans hr)
  | case2 reader hr next hs =>
    have hr : reader.ready = none := by simpa using hr
    have hm : (f reader).step = .found (f next) := by rw [h.step reader hr hp, hs, Step.map]
    exact advance_of_found ((h.ready reader).trans hr) hm
  | case3 reader hr next hs =>
    have hr : reader.ready = none := by simpa using hr
    have hm : (f reader).step = .nothingLeft (f next) := by rw [h.step reader hr hp, hs, Step.map]
    exact advance_of_nothingLeft ((h.ready reader).trans hr) hm
  | case4 reader hr next hs ih =>
    have hr : reader.ready = none := by simpa using hr
    have hm : (f reader).step = .more (f next) := by rw [h.step reader hr hp, hs, Step.map]
    have hnext := h.kept.step reader hr hp
    rw [hs] at hnext
    rw [advance_of_more ((h.ready reader).trans hr) hm, ih hnext]

theorem take (h : StepMapOn P f) (reader : ScriptReader) :
    (f reader).take = (reader.take.1, f reader.take.2) := by
  simp only [ScriptReader.take, h.ready, h.taken]

theorem takeNext? (h : StepMapOn P f) (hp : P reader) :
    (f reader).takeNext? = (reader.takeNext?.1, f reader.takeNext?.2) := by
  simp only [ScriptReader.takeNext?, h.advance hp]
  obtain ⟨found, next⟩ := reader.advance
  cases found with
  | false => rfl
  | true => simp only [h.take]

/-- A reader drains to the same statements before the map and after it. -/
theorem drain (h : StepMapOn P f) (hp : P reader) :
    (f reader).drain = (reader.drain.1, f reader.drain.2) := by
  induction hw : reader.weight using Nat.strongRecOn generalizing reader with
  | ind n ih =>
    have hmap := h.takeNext? hp
    have hadvance := reader.advance_preserves h.kept.step hp
    rcases reader.takeNext?_cases with ⟨next, statement, ha, hr, ht⟩ | ⟨next, ha, hd, ht⟩
    · rw [ha] at hadvance
      rw [ht] at hmap
      rw [drain_of_some ht, drain_of_some hmap,
        ih _ (hw ▸ takeNext?_weight ht) (h.kept.taken next hadvance) rfl]
    · rw [ht] at hmap
      rw [drain_of_none ht, drain_of_none hmap]

end StepMapOn

/-- A map that in addition keeps what is told of how the input ended, so that it shows in no
answer. -/
structure AnswerMapOn (P : ScriptReader → Prop) (f : ScriptReader → ScriptReader) : Prop extends
    StepMapOn P f where
  ask : ∀ reader, (f reader).askFailure = (reader.askFailure.1, f reader.askFailure.2)

namespace AnswerMapOn

theorem next (h : AnswerMapOn P f) (hp : P reader) :
    (f reader).next = (reader.next.1, f reader.next.2) := by
  simp only [ScriptReader.next, h.takeNext? hp]
  obtain ⟨found, next⟩ := reader.takeNext?
  cases found with
  | some statement => rfl
  | none => simp only [h.ask]

theorem nextUpTo (h : AnswerMapOn P f) (hp : P reader) (count : Nat) :
    (f reader).nextUpTo count = ((reader.nextUpTo count).1, f (reader.nextUpTo count).2) := by
  induction count generalizing reader with
  | zero => rfl
  | succ count ih =>
    have hnext := h.kept.next hp
    simp only [ScriptReader.nextUpTo, h.next hp]
    generalize reader.next = found at hnext ⊢
    obtain ⟨found, next⟩ := found
    cases found with
    | none => rfl
    | some item => simp only [ih hnext]

theorem restAfter (h : AnswerMapOn P f) (hp : P reader)
    (items : List (Except Failure Statement)) :
    (f reader).restAfter items = ((reader.restAfter items).1, f (reader.restAfter items).2) := by
  fun_induction ScriptReader.restAfter items reader with
  | case1 items reader next hn =>
    apply restAfter_of_none
    rw [h.next hp, hn]
  | case2 items reader item next hn ih =>
    have hnext := h.kept.next hp
    rw [hn] at hnext
    rw [← ih hnext]
    apply restAfter_of_some
    rw [h.next hp, hn]

theorem pull (h : AnswerMapOn P f) (hp : P reader) (request : Pull) :
    (f reader).pull request = ((reader.pull request).1, f (reader.pull request).2) := by
  cases request with
  | advance => simp only [ScriptReader.pull, h.advance hp]
  | take => simp only [ScriptReader.pull, h.take]
  | next => simp only [ScriptReader.pull, h.next hp]
  | nextUpTo count => simp only [ScriptReader.pull, h.nextUpTo hp]
  | rest => simp only [ScriptReader.pull, ScriptReader.rest, h.restAfter hp]

theorem pulls (h : AnswerMapOn P f) (hp : P reader) (requests : List Pull) :
    (f reader).pulls requests = ((reader.pulls requests).1, f (reader.pulls requests).2) := by
  induction requests generalizing reader with
  | nil => rfl
  | cons request requests ih =>
    simp only [ScriptReader.pulls, h.pull hp, ih (h.kept.pull hp request)]

end AnswerMapOn

/-- A map of readers that leaves the escape as well, so that every step goes through with it. -/
structure InputMap (f : ScriptReader → ScriptReader) : Prop extends LineMap f where
  escape : ∀ reader, (f reader).escape = reader.escape

theorem InputMap.onAll (h : InputMap f) : StepMapOn (fun _ => True) f where
  toLineMap := h.toLineMap
  kept := ⟨fun _ _ _ => trivial, fun _ _ => trivial, fun _ _ _ => trivial⟩
  step reader _ _ := h.toLineMap.step fun line _ _ => by rw [h.escape]

theorem InputMap.drain (h : InputMap f) (reader : ScriptReader) :
    (f reader).drain = (reader.drain.1, f reader.drain.2) :=
  h.onAll.drain trivial

/-- An input map that keeps what is told of how the input ended. -/
structure AnswerMap (f : ScriptReader → ScriptReader) : Prop extends InputMap f where
  ask : ∀ reader, (f reader).askFailure = (reader.askFailure.1, f reader.askFailure.2)

theorem AnswerMap.onAll (h : AnswerMap f) : AnswerMapOn (fun _ => True) f :=
  { h.toInputMap.onAll with ask := h.ask }

theorem AnswerMap.pulls (h : AnswerMap f) (reader : ScriptReader) (requests : List Pull) :
    (f reader).pulls requests = ((reader.pulls requests).1, f (reader.pulls requests).2) :=
  h.onAll.pulls trivial requests

end ScriptReader

end SqlScript
