import SqlScript.ScriptReader

namespace SqlScript

/-- The next statement, advanced to and taken, if there is one. -/
def ScriptReader.takeNext? (reader : ScriptReader) : Option Statement × ScriptReader :=
  match reader.advance with
  | (true, reader) => (some reader.take.1, reader.take.2)
  | (false, reader) => (none, reader)

theorem ScriptReader.takeNext?_weight {reader next : ScriptReader} {statement : Statement}
    (h : reader.takeNext? = (some statement, next)) : next.weight < reader.weight := by
  unfold takeNext? at h
  split at h
  · next ha => cases h; exact advance_weight ha
  · simp at h

theorem ScriptReader.takeNext?_weight_le {reader next : ScriptReader}
    (h : reader.takeNext? = (none, next)) : next.weight ≤ reader.weight := by
  unfold takeNext? at h
  split at h
  · simp at h
  · next ha => cases h; exact advance_weight_le ha

/-- The failure that ended the input, told to the first question for it only. -/
def ScriptReader.askFailure (reader : ScriptReader) : Option Failure × ScriptReader :=
  match reader.input with
  | .ended failure false => (failure, { reader with input := .ended failure true })
  | _ => (none, reader)

theorem ScriptReader.askFailure_weight {reader : ScriptReader} {failure : Failure}
    (h : reader.askFailure.1 = some failure) : reader.askFailure.2.weight < reader.weight := by
  unfold askFailure at h ⊢
  split
  · next hi => simp [weight, hi, InputState.weight]
  · next hi => simp_all

/-- The next statement; once there is none, the failure that ended the input. -/
def ScriptReader.next (reader : ScriptReader) :
    Option (Except Failure Statement) × ScriptReader :=
  match reader.takeNext? with
  | (some statement, reader) => (some (.ok statement), reader)
  | (none, reader) => (reader.askFailure.1.map .error, reader.askFailure.2)

theorem ScriptReader.next_weight {reader next : ScriptReader} {item : Except Failure Statement}
    (h : reader.next = (some item, next)) : next.weight < reader.weight := by
  unfold ScriptReader.next at h
  split at h
  · next ha => cases h; exact takeNext?_weight ha
  · next ha =>
    obtain ⟨h1, rfl⟩ := Prod.mk.inj h
    obtain ⟨failure, h1, -⟩ := Option.map_eq_some_iff.mp h1
    exact Nat.lt_of_lt_of_le (askFailure_weight h1) (takeNext?_weight_le ha)

/-- The items up to the first time that there is none, after those already there, which come last
one first. -/
def ScriptReader.restAfter (items : List (Except Failure Statement)) (reader : ScriptReader) :
    List (Except Failure Statement) × ScriptReader :=
  match _ : reader.next with
  | (none, reader) => (items.reverse, reader)
  | (some item, next) => next.restAfter (item :: items)
termination_by reader.weight
decreasing_by exact next_weight ‹_›

theorem ScriptReader.restAfter_of_none {items : List (Except Failure Statement)}
    {reader next : ScriptReader} (h : reader.next = (none, next)) :
    reader.restAfter items = (items.reverse, next) := by
  rw [restAfter]
  split <;> simp_all

theorem ScriptReader.restAfter_of_some {items : List (Except Failure Statement)}
    {reader next : ScriptReader} {item : Except Failure Statement}
    (h : reader.next = (some item, next)) :
    reader.restAfter items = next.restAfter (item :: items) := by
  rw [restAfter]
  split <;> simp_all

theorem ScriptReader.restAfter_eq (items : List (Except Failure Statement))
    (reader : ScriptReader) :
    reader.restAfter items =
      (items.reverse ++ (reader.restAfter []).1, (reader.restAfter []).2) := by
  induction h : reader.weight using Nat.strongRecOn generalizing items reader with
  | ind n ih =>
    obtain ⟨found, next, hn⟩ : ∃ found next, reader.next = (found, next) := ⟨_, _, rfl⟩
    cases found with
    | none => rw [restAfter_of_none hn, restAfter_of_none hn]; simp
    | some item =>
      have hw := next_weight hn
      rw [restAfter_of_some hn, restAfter_of_some hn, ih _ (h ▸ hw) (item :: items) next rfl,
        ih _ (h ▸ hw) [item] next rfl]
      simp

def ScriptReader.rest (reader : ScriptReader) : List (Except Failure Statement) × ScriptReader :=
  reader.restAfter []

def ScriptReader.nextUpTo (reader : ScriptReader) :
    Nat → List (Except Failure Statement) × ScriptReader
  | 0 => ([], reader)
  | count + 1 =>
    match reader.next with
    | (none, reader) => ([], reader)
    | (some item, reader) =>
      let others := reader.nextUpTo count
      (item :: others.1, others.2)

/-- Hands every statement left to `f`, one after the other. -/
def ScriptReader.fold {α : Type} (f : α → Statement → α) (value : α) (reader : ScriptReader) :
    α × ScriptReader :=
  match _ : reader.takeNext? with
  | (none, reader) => (value, reader)
  | (some statement, next) => next.fold f (f value statement)
termination_by reader.weight
decreasing_by exact takeNext?_weight ‹_›

theorem ScriptReader.fold_of_none {α : Type} {f : α → Statement → α} {value : α}
    {reader next : ScriptReader} (h : reader.takeNext? = (none, next)) :
    reader.fold f value = (value, next) := by
  rw [fold]
  split <;> simp_all

theorem ScriptReader.fold_of_some {α : Type} {f : α → Statement → α} {value : α}
    {reader next : ScriptReader} {statement : Statement}
    (h : reader.takeNext? = (some statement, next)) :
    reader.fold f value = next.fold f (f value statement) := by
  rw [fold]
  split <;> simp_all

/-- All statements left, and the failure that ended the input. -/
structure Outcome where
  statements : List Statement
  failure : Option Failure
  deriving DecidableEq, Repr

def ScriptReader.drain (reader : ScriptReader) : List Statement × ScriptReader :=
  let drained := reader.fold Array.push #[]
  (drained.1.toList, drained.2)

theorem ScriptReader.fold_push (array : Array Statement) (reader : ScriptReader) :
    reader.fold Array.push array = (array ++ reader.drain.1.toArray, reader.drain.2) := by
  induction h : reader.weight using Nat.strongRecOn generalizing array reader with
  | ind n ih =>
    obtain ⟨found, next, hn⟩ : ∃ found next, reader.takeNext? = (found, next) := ⟨_, _, rfl⟩
    cases found with
    | none => simp [drain, fold_of_none hn]
    | some statement =>
      have hw := takeNext?_weight hn
      simp only [drain, fold_of_some hn]
      rw [ih _ (h ▸ hw) (array.push statement) next rfl,
        ih _ (h ▸ hw) (#[].push statement) next rfl]
      simp

theorem ScriptReader.drain_of_none {reader next : ScriptReader}
    (h : reader.takeNext? = (none, next)) : reader.drain = ([], next) := by
  simp [drain, fold_of_none h]

theorem ScriptReader.drain_of_some {reader next : ScriptReader} {statement : Statement}
    (h : reader.takeNext? = (some statement, next)) :
    reader.drain = (statement :: next.drain.1, next.drain.2) := by
  rw [drain, fold_of_some h, fold_push]
  simp

def ScriptReader.outcome (reader : ScriptReader) : Outcome :=
  ⟨reader.drain.1, reader.drain.2.failure⟩

end SqlScript
