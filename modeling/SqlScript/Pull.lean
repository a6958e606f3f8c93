import SqlScript.Consume

namespace SqlScript

/-- A request to a script reader, which keeps the reader in use. -/
inductive Pull
  | advance
  | take
  | next
  | nextUpTo (count : Nat)
  | rest
  deriving DecidableEq, Repr

inductive Pulled
  | advanced (found : Bool)
  | taken (statement : Statement)
  | item (item : Option (Except Failure Statement))
  | items (items : List (Except Failure Statement))

def ScriptReader.pull (reader : ScriptReader) : Pull → Pulled × ScriptReader
  | .advance => let answer := reader.advance; (.advanced answer.1, answer.2)
  | .take => let answer := reader.take; (.taken answer.1, answer.2)
  | .next => let answer := reader.next; (.item answer.1, answer.2)
  | .nextUpTo count => let answer := reader.nextUpTo count; (.items answer.1, answer.2)
  | .rest => let answer := reader.rest; (.items answer.1, answer.2)

/-- Answers requests one after the other. -/
def ScriptReader.pulls (reader : ScriptReader) : List Pull → List Pulled × ScriptReader
  | [] => ([], reader)
  | request :: requests =>
    let first := reader.pull request
    let others := first.2.pulls requests
    (first.1 :: others.1, others.2)

end SqlScript
