import SqlScript.Proofs.Run

namespace SqlScript

def Pulled.statements : Pulled → List Statement
  | .advanced _ => []
  | .taken statement => [statement]
  | .item found => found.toList.filterMap Except.toOption
  | .items found => found.filterMap Except.toOption

/-- The statements with bytes that answers hand out, in their order. -/
def handedOut (answers : List Pulled) : List Statement :=
  (answers.flatMap Pulled.statements).filter fun statement => !statement.isEmpty

@[simp] theorem handedOut_nil : handedOut [] = [] := rfl

theorem handedOut_append (before after : List Pulled) :
    handedOut (before ++ after) = handedOut before ++ handedOut after := by
  simp [handedOut]

theorem handedOut_cons (answer : Pulled) (answers : List Pulled) :
    handedOut (answer :: answers) = handedOut [answer] ++ handedOut answers :=
  handedOut_append [answer] answers

/-- What advancing, taking and asking for the failure at the end can lead to, with the statements
taken on the way. -/
inductive Reaches (start : ScriptReader) : List Statement → ScriptReader → Prop
  | start : Reaches start [] start
  | advance {handed reader} : Reaches start handed reader → Reaches start handed reader.advance.2
  | take {handed reader} : Reaches start handed reader →
      Reaches start (handed ++ reader.ready.toList) { reader with ready := none }
  | ask {handed reader} : Reaches start handed reader → reader.Done →
      Reaches start handed reader.askFailure.2

theorem ScriptReader.askFailure_ready (reader : ScriptReader) :
    reader.askFailure.2.ready = reader.ready := by
  unfold askFailure
  split <;> rfl

theorem ScriptReader.Done.askFailure {reader : ScriptReader} (h : reader.Done) :
    reader.askFailure.2.Done := by
  obtain ⟨hr, hp, hs, hg, failure, asked, hi⟩ := done_iff.mp h
  unfold ScriptReader.askFailure
  split
  next failure hi => exact done_iff.mpr ⟨hr, hp, hs, hg, failure, true, rfl⟩
  next => exact h

theorem Reaches.ready_ne_nil {start reader : ScriptReader} {handed : List Statement}
    (fresh : start.ready = none) (h : Reaches start handed reader) {statement : Statement}
    (hr : reader.ready = some statement) : statement.bytes ≠ [] := by
  induction h generalizing statement with
  | start => simp [fresh] at hr
  | @advance handed reader h ih =>
    have preserved : ∀ statement, reader.advance.2.ready = some statement →
        statement.bytes ≠ [] := by
      apply reader.advance_preserves
        (P := fun reader => ∀ statement, reader.ready = some statement → statement.bytes ≠ [])
      · intro r hn _ statement hs
        cases hstep : r.step with
        | found next =>
          obtain ⟨other, ho, hb⟩ := ScriptReader.step_found_ready hstep
          rw [hstep] at hs
          cases ho.symm.trans hs
          exact hb
        | nothingLeft next =>
          rw [hstep] at hs
          have hd := (ScriptReader.step_nothingLeft_done hn hstep).1
          simp [Step.reader, hd] at hs
        | more next =>
          rw [hstep] at hs
          have hm := ScriptReader.step_more_ready hstep
          simp [Step.reader, hm, hn] at hs
      · exact fun statement hs => ih hs
    exact preserved statement hr
  | take => simp at hr
  | ask h _ ih => exact ih (by rwa [ScriptReader.askFailure_ready] at hr)

/-- The next item is the next statement, and at the end the failure, if it is still to be told. -/
theorem ScriptReader.next_cases (reader : ScriptReader) :
    (∃ next statement, reader.advance = (true, next) ∧ next.ready = some statement ∧
        reader.next = (some (.ok statement), { next with ready := none })) ∨
      ∃ next, reader.advance = (false, next) ∧ next.Done ∧
        reader.next = (next.askFailure.1.map .error, next.askFailure.2) := by
  rcases reader.advance_cases with ⟨next, statement, ha, hr⟩ | ⟨next, ha, hd⟩
  · exact .inl ⟨next, statement, ha, hr, by simp [ScriptReader.next, takeNext?, ha, take, hr]⟩
  · exact .inr ⟨next, ha, hd, by simp [ScriptReader.next, takeNext?, ha]⟩

theorem handedOut_items_cons (item : Except Failure Statement)
    (items : List (Except Failure Statement)) :
    handedOut [.items (item :: items)] = handedOut [.item (some item)] ++
      handedOut [.items items] := by
  have h : item :: items = [item] ++ items := rfl
  simp only [handedOut, List.flatMap_singleton, Pulled.statements, Option.toList_some]
  rw [h, List.filterMap_append, List.filter_append]

theorem Reaches.next {start reader : ScriptReader} {handed : List Statement}
    (fresh : start.ready = none) (h : Reaches start handed reader) :
    Reaches start (handed ++ handedOut [.item reader.next.1]) reader.next.2 := by
  rcases reader.next_cases with ⟨next, statement, ha, hr, hn⟩ | ⟨next, ha, hd, hn⟩
  · have hadv := h.advance
    rw [ha] at hadv
    have hb := hadv.ready_ne_nil fresh hr
    have ht := hadv.take
    rw [hr] at ht
    simpa [hn, handedOut, Pulled.statements, Except.toOption, Statement.isEmpty, hb] using ht
  · have hadv := h.advance
    rw [ha] at hadv
    have hask := hadv.ask hd
    have hnone : handedOut [.item (next.askFailure.1.map .error)] = [] := by
      cases next.askFailure.1 <;> rfl
    rwa [hn, hnone, List.append_nil]

theorem Reaches.nextUpTo {start reader : ScriptReader} {handed : List Statement}
    (fresh : start.ready = none) (h : Reaches start handed reader) (count : Nat) :
    Reaches start (handed ++ handedOut [.items (reader.nextUpTo count).1])
      (reader.nextUpTo count).2 := by
  induction count generalizing handed reader with
  | zero => simpa [ScriptReader.nextUpTo, handedOut, Pulled.statements] using h
  | succ count ih =>
    have hn := h.next fresh
    unfold ScriptReader.nextUpTo
    split
    next next he => simpa [he, handedOut, Pulled.statements] using hn
    next item next he =>
      rw [he] at hn
      have hi := ih hn
      rwa [List.append_assoc, ← handedOut_items_cons] at hi

theorem Reaches.rest {start reader : ScriptReader} {handed : List Statement}
    (fresh : start.ready = none) (h : Reaches start handed reader) :
    Reaches start (handed ++ handedOut [.items reader.rest.1]) reader.rest.2 := by
  induction hw : reader.weight using Nat.strongRecOn generalizing handed reader with
  | ind n ih =>
    have hn := h.next fresh
    obtain ⟨found, next, he⟩ : ∃ found next, reader.next = (found, next) := ⟨_, _, rfl⟩
    rw [he] at hn
    unfold ScriptReader.rest
    cases found with
    | none =>
      rw [ScriptReader.restAfter_of_none he]
      simpa [handedOut, Pulled.statements] using hn
    | some item =>
      have hi := ih _ (hw ▸ ScriptReader.next_weight he) hn rfl
      rw [ScriptReader.restAfter_of_some he, ScriptReader.restAfter_eq]
      rw [List.append_assoc, ← handedOut_items_cons] at hi
      exact hi

theorem Reaches.pull {start reader : ScriptReader} {handed : List Statement}
    (fresh : start.ready = none) (h : Reaches start handed reader) (request : Pull) :
    Reaches start (handed ++ handedOut [(reader.pull request).1]) (reader.pull request).2 := by
  cases request with
  | advance => simpa [ScriptReader.pull, handedOut, Pulled.statements] using h.advance
  | take =>
    have ht := h.take
    cases hr : reader.ready with
    | none =>
      rw [hr] at ht
      simpa [ScriptReader.pull, ScriptReader.take, handedOut, Pulled.statements, hr,
        show (default : Statement).isEmpty = true from rfl] using ht
    | some statement =>
      have hb := h.ready_ne_nil fresh hr
      rw [hr] at ht
      simpa [ScriptReader.pull, ScriptReader.take, handedOut, Pulled.statements, hr,
        Statement.isEmpty, hb] using ht
  | next => exact h.next fresh
  | nextUpTo count => exact h.nextUpTo fresh count
  | rest => exact h.rest fresh

/-- Any sequence of requests is made of the three moves. -/
theorem Reaches.pulls {start reader : ScriptReader} {handed : List Statement}
    (fresh : start.ready = none) (h : Reaches start handed reader) (requests : List Pull) :
    Reaches start (handed ++ handedOut (reader.pulls requests).1) (reader.pulls requests).2 := by
  induction requests generalizing handed reader with
  | nil => simpa [ScriptReader.pulls] using h
  | cons request requests ih =>
    have hi := ih (h.pull fresh request)
    rwa [List.append_assoc, ← handedOut_cons] at hi

/-- A property of readers that nothing takes from them: no step, taking the statement that is ready
or asking for the failure at the end. -/
structure ScriptReader.Kept (P : ScriptReader → Prop) : Prop where
  step : ∀ reader, reader.ready = none → P reader → P reader.step.reader
  taken : ∀ reader : ScriptReader, P reader → P { reader with ready := none }
  asked : ∀ reader : ScriptReader, reader.Done → P reader → P reader.askFailure.2

namespace ScriptReader.Kept

variable {P : ScriptReader → Prop} {reader : ScriptReader}

theorem drain (kept : Kept P) (h : P reader) : P reader.drain.2 :=
  drain_preserves kept.step kept.taken h

theorem next (kept : Kept P) (h : P reader) : P reader.next.2 := by
  have hadvance := reader.advance_preserves kept.step h
  rcases reader.next_cases with ⟨next, statement, ha, hr, hn⟩ | ⟨next, ha, hd, hn⟩
  · rw [ha] at hadvance
    rw [hn]
    exact kept.taken next hadvance
  · rw [ha] at hadvance
    rw [hn]
    exact kept.asked next hd hadvance

theorem nextUpTo (kept : Kept P) (h : P reader) (count : Nat) : P (reader.nextUpTo count).2 := by
  induction count generalizing reader with
  | zero => exact h
  | succ count ih =>
    have hnext := kept.next h
    unfold ScriptReader.nextUpTo
    split
    next next he => rwa [he] at hnext
    next item next he =>
      rw [he] at hnext
      exact ih hnext

theorem restAfter (kept : Kept P) (h : P reader) (items : List (Except Failure Statement)) :
    P (reader.restAfter items).2 := by
  fun_induction ScriptReader.restAfter items reader with
  | case1 items reader next hn =>
    have hnext := kept.next h
    rwa [hn] at hnext
  | case2 items reader item next hn ih =>
    have hnext := kept.next h
    rw [hn] at hnext
    exact ih hnext

theorem pull (kept : Kept P) (h : P reader) (request : Pull) : P (reader.pull request).2 := by
  cases request with
  | advance => exact reader.advance_preserves kept.step h
  | take => exact kept.taken reader h
  | next => exact kept.next h
  | nextUpTo count => exact kept.nextUpTo h count
  | rest => exact kept.restAfter h []

theorem pulls (kept : Kept P) (h : P reader) (requests : List Pull) :
    P (reader.pulls requests).2 := by
  induction requests generalizing reader with
  | nil => exact h
  | cons request requests ih => exact ih (kept.pull h request)

end ScriptReader.Kept

theorem Reaches.kept {P : ScriptReader → Prop} {start reader : ScriptReader}
    {handed : List Statement} (kept : ScriptReader.Kept P) (hs : P start)
    (h : Reaches start handed reader) : P reader := by
  induction h with
  | start => exact hs
  | advance h ih => exact ScriptReader.advance_preserves kept.step ih
  | take h ih => exact kept.taken _ ih
  | ask h hd ih => exact kept.asked _ hd ih

end SqlScript
