import SqlScript.Proofs.Requests

namespace SqlScript

/-- Whether an answer to a request says that no statement is left. -/
def Pull.endedBy (request : Pull) : Pulled → Bool
  | .advanced found => !found
  | .taken _ => false
  | .item none => true
  | .item (some found) => !found.isOk
  | .items found =>
    found.any (fun one => !one.isOk) ||
      match request with
      | .nextUpTo count => found.length < count
      | _ => true

theorem ScriptReader.askFailure_failure (reader : ScriptReader) :
    reader.askFailure.2.failure = reader.failure := by
  unfold askFailure
  split
  next hi => simp [failure, hi]
  next => rfl

/-- The failure is told once. -/
theorem ScriptReader.askFailure_again (reader : ScriptReader) :
    reader.askFailure.2.askFailure = (none, reader.askFailure.2) := by
  obtain ⟨dialect, escape, lines, draft, input, ready, log⟩ := reader
  rcases input with _ | ⟨failure, asked⟩
  · rfl
  · cases asked <;> rfl

/-- What has been taken and what is still to come make up what there was at the start. -/
theorem Reaches.drain_end {start reader : ScriptReader} {handed : List Statement}
    (h : Reaches start handed reader) :
    start.drain.1 = handed ++ reader.drain.1 ∧
      (reader.drain.2 = start.drain.2 ∨ reader.drain.2 = start.drain.2.askFailure.2) := by
  induction h with
  | start => exact ⟨rfl, .inl rfl⟩
  | @advance handed reader h ih => rwa [reader.drain_advance]
  | @take handed reader h ih =>
    cases hr : reader.ready with
    | none => simpa [ScriptReader.taken_of_fresh hr] using ih
    | some statement =>
      rw [ScriptReader.drain_of_ready hr] at ih
      simpa using ih
  | @ask handed reader h hd ih =>
    rw [hd.drain] at ih
    rw [hd.askFailure.drain]
    refine ⟨ih.1, .inr ?_⟩
    rcases ih.2 with rfl | rfl
    · rfl
    · rw [ScriptReader.askFailure_again]

theorem Reaches.drain {start reader : ScriptReader} {handed : List Statement}
    (h : Reaches start handed reader) :
    start.drain.1 = handed ++ reader.drain.1 ∧
      start.drain.2.failure = reader.drain.2.failure := by
  obtain ⟨hstatements, hend⟩ := h.drain_end
  refine ⟨hstatements, ?_⟩
  rcases hend with he | he <;> rw [he]
  exact (ScriptReader.askFailure_failure _).symm

theorem Reaches.drained {start reader : ScriptReader} {handed : List Statement}
    (h : Reaches start handed reader) :
    Reaches start (handed ++ reader.drain.1) reader.drain.2 := by
  induction hw : reader.weight using Nat.strongRecOn generalizing handed reader with
  | ind n ih =>
    have hadvance := h.advance
    rcases reader.takeNext?_cases with ⟨next, statement, ha, hr, ht⟩ | ⟨next, ha, hd, ht⟩
    · rw [ha] at hadvance
      have htake := hadvance.take
      rw [hr, Option.toList_some] at htake
      have hrest := ih _ (hw ▸ ScriptReader.takeNext?_weight ht) htake rfl
      rw [ScriptReader.drain_of_some ht]
      simpa using hrest
    · rw [ha] at hadvance
      rw [ScriptReader.drain_of_none ht, List.append_nil]
      exact hadvance

theorem ScriptReader.Done.advance {reader : ScriptReader} (h : reader.Done) :
    reader.advance = (false, reader) :=
  advance_of_nothingLeft h.1 h.2

theorem ScriptReader.Done.next {reader : ScriptReader} (h : reader.Done) :
    reader.next.2.Done := by
  rcases reader.next_cases with ⟨next, statement, ha, hr, hn⟩ | ⟨next, ha, hd, hn⟩
  · simp [h.advance] at ha
  · rw [hn]
    exact hd.askFailure

theorem ScriptReader.next_done {reader next : ScriptReader}
    {found : Option (Except Failure Statement)} (h : reader.next = (found, next))
    (hf : ∀ statement, found ≠ some (.ok statement)) : next.Done := by
  rcases reader.next_cases with ⟨next', statement, ha, hr, hn⟩ | ⟨next', ha, hd, hn⟩
  · rw [hn] at h
    exact absurd (Prod.mk.inj h).1.symm (hf statement)
  · rw [hn] at h
    rw [← (Prod.mk.inj h).2]
    exact hd.askFailure

theorem ScriptReader.Done.nextUpTo {reader : ScriptReader} (h : reader.Done) (count : Nat) :
    (reader.nextUpTo count).2.Done := by
  induction count generalizing reader with
  | zero => exact h
  | succ count ih =>
    have hn := h.next
    unfold ScriptReader.nextUpTo
    split
    next next he => rwa [he] at hn
    next item next he =>
      rw [he] at hn
      exact ih hn

theorem ScriptReader.nextUpTo_done {reader : ScriptReader} {count : Nat}
    (h : (Pull.nextUpTo count).endedBy (.items (reader.nextUpTo count).1) = true) :
    (reader.nextUpTo count).2.Done := by
  induction count generalizing reader with
  | zero => simp [nextUpTo, Pull.endedBy] at h
  | succ count ih =>
    unfold nextUpTo at h ⊢
    split
    next next he => exact next_done he (by simp)
    next item next he =>
      rw [he] at h
      cases item with
      | error failure => exact (next_done he (by simp)).nextUpTo count
      | ok statement =>
        apply ih
        simpa [Pull.endedBy, Except.isOk, Except.toBool] using h

theorem ScriptReader.rest_done (reader : ScriptReader) : reader.rest.2.Done := by
  induction hw : reader.weight using Nat.strongRecOn generalizing reader with
  | ind n ih =>
    obtain ⟨found, next, he⟩ : ∃ found next, reader.next = (found, next) := ⟨_, _, rfl⟩
    unfold rest
    cases found with
    | none =>
      rw [restAfter_of_none he]
      exact next_done he (by simp)
    | some item =>
      rw [restAfter_of_some he, restAfter_eq]
      exact ih _ (hw ▸ next_weight he) next rfl

/-- After an answer that says that nothing is left the reader has come to its end. -/
theorem ScriptReader.pull_done {reader : ScriptReader} {request : Pull}
    (h : request.endedBy (reader.pull request).1 = true) : (reader.pull request).2.Done := by
  cases request with
  | advance =>
    rcases reader.advance_cases with ⟨next, statement, ha, hr⟩ | ⟨next, ha, hd⟩
    · simp [pull, ha, Pull.endedBy] at h
    · simpa [pull, ha] using hd
  | take => simp [pull, Pull.endedBy] at h
  | next =>
    have he : reader.next = (reader.next.1, reader.next.2) := rfl
    apply next_done he
    intro statement hs
    simp [pull, hs, Pull.endedBy, Except.isOk, Except.toBool] at h
  | nextUpTo count => exact nextUpTo_done h
  | rest => exact reader.rest_done

theorem ScriptReader.pulls_append (reader : ScriptReader) (before after : List Pull) :
    reader.pulls (before ++ after) =
      ((reader.pulls before).1 ++ ((reader.pulls before).2.pulls after).1,
        ((reader.pulls before).2.pulls after).2) := by
  induction before generalizing reader with
  | nil => rfl
  | cons request before ih => simp [pulls, ih]

/-- However a reader is used, it hands out the statements of its drain, once each and in their
order. -/
theorem pulls_handOut_drain (access : Access) (source : Source) (settings : Settings)
    (requests : List Pull) :
    let reader := ScriptReader.opened access source settings
    let all := reader.outcome
    let handed := handedOut (reader.pulls requests).1
    let after := (reader.pulls requests).2
    handed <+: all.statements ∧
      after.outcome = ⟨all.statements.drop handed.length, all.failure⟩ ∧
      (after.ready = none → after.pull .take = (.taken default, after)) ∧
      ∀ request, request.endedBy (after.pull request).1 = true →
        ∀ later, handedOut (reader.pulls (requests ++ request :: later)).1 = all.statements := by
  intro reader all handed after
  have fresh : reader.ready = none := ScriptReader.opened_ready access source settings
  have reached : Reaches reader handed after := Reaches.start.pulls fresh requests
  obtain ⟨hd, hf⟩ := reached.drain
  refine ⟨⟨after.drain.1, hd.symm⟩, ?_, ?_, ?_⟩
  · simp only [all, ScriptReader.outcome, hd, hf, List.drop_left]
  · intro hr
    have he : { after with ready := none } = after := by rw [← hr]
    simp [ScriptReader.pull, ScriptReader.take, hr, he]
  · intro request ended later
    have hdone := ScriptReader.pull_done ended
    have hnow := (reached.pull fresh request).drain.1
    rw [hdone.drain, List.append_nil] at hnow
    -- what comes later only adds to what has been handed out, which is already everything
    have hlater := ((reached.pull fresh request).pulls fresh later).drain.1
    have hnil : handedOut ((after.pull request).2.pulls later).1 = [] := by
      rw [hnow, List.append_assoc] at hlater
      have := List.append_right_eq_self.mp hlater.symm
      exact (List.append_eq_nil_iff.mp this).1
    rw [ScriptReader.pulls_append, handedOut_append]
    change handed ++
      handedOut ((after.pull request).1 :: ((after.pull request).2.pulls later).1) = _
    rw [handedOut_cons, hnil, List.append_nil]
    exact hnow.symm

end SqlScript
