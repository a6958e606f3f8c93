import SqlScript.Proofs.Continuation

namespace SqlScript

/-- How a statement is made under a delimiter: of a directive, or of a text that it does not end
earlier. -/
inductive Statement.Formed (escape : Option UInt8) (delimiter : Bytes) : Statement → Prop
  | directive {line next : Bytes} {number : Nat} (oneLine : lineFeed ∉ line)
      (parsed : newDelimiter? line = some next) :
      Formed escape delimiter ⟨line, number, number, .directive⟩
  | sql {b : UInt8} {rest : Bytes} {number : Nat} (begins : b ≠ lineFeed)
      (plain : newDelimiter? ((b :: rest).takeWhile (· ≠ lineFeed)) = none)
      (ends : cutText escape delimiter .code (b :: rest) = none ∨
        cutText escape delimiter .code (b :: rest) = some (b :: rest, [])) :
      Formed escape delimiter ⟨b :: rest, number, number + (b :: rest).count lineFeed, .sql⟩

/-- Each statement is formed where the delimiter is in force that those before it leave, and none
but the last is unended. -/
def AllFormed (escape : Option UInt8) (delimiter : Bytes) (statements : List Statement) : Prop :=
  ∀ index statement, statements[index]? = some statement →
    let current := delimiterAfter delimiter (statements.take index)
    statement.Formed escape current ∧
      (index + 1 < statements.length → statement.isUnended escape current = false)

theorem AllFormed.nil (escape : Option UInt8) (delimiter : Bytes) :
    AllFormed escape delimiter [] := by
  intro index statement h
  simp at h

theorem AllFormed.cons {escape : Option UInt8} {delimiter : Bytes} {statement : Statement}
    {statements : List Statement} (formed : statement.Formed escape delimiter)
    (ended : statements ≠ [] → statement.isUnended escape delimiter = false)
    (h : AllFormed escape (statement.delimiterAfter delimiter) statements) :
    AllFormed escape delimiter (statement :: statements) := by
  intro index other hi
  cases index with
  | zero =>
    obtain rfl : statement = other := by simpa using hi
    refine ⟨formed, fun hl => ended ?_⟩
    rintro rfl
    simp at hl
  | succ index =>
    obtain ⟨hother, hended⟩ := h index other (by simpa using hi)
    refine ⟨hother, fun hl => hended ?_⟩
    simpa using hl

theorem lineFeed_notMem_takeWhile (text : Bytes) :
    lineFeed ∉ text.takeWhile (· ≠ lineFeed) := by
  intro hm
  simpa using List.all_eq_true.mp List.all_takeWhile lineFeed hm

theorem takeWhile_cons_of_begins {b : UInt8} (hb : b ≠ lineFeed) (rest : Bytes) :
    (b :: rest).takeWhile (· ≠ lineFeed) = b :: rest.takeWhile (· ≠ lineFeed) :=
  List.takeWhile_cons_of_pos (by simpa using hb)

/-- What one pass makes of a text is formed throughout. -/
theorem onePass_allFormed (escape : Option UInt8) (number : Nat) (delimiter text : Bytes) :
    AllFormed escape delimiter (onePass escape number delimiter text) := by
  fun_induction onePass escape number delimiter text with
  | case1 => exact .nil _ _
  | case2 number delimiter rest ih => exact ih
  | case3 number delimiter b rest hb first next hn ih =>
    have hline : first = (b :: rest).takeWhile (· ≠ lineFeed) :=
      (takeWhile_cons_of_begins hb rest).symm
    have hfirst : lineFeed ∉ first := hline ▸ lineFeed_notMem_takeWhile _
    refine .cons (.directive hfirst hn) (fun _ => rfl) ?_
    simpa [Statement.delimiterAfter, hn] using ih
  | case4 number delimiter b rest hb first hn hcut =>
    refine .cons (.sql hb ?_ (.inl hcut)) (fun hne => absurd rfl hne) (.nil _ _)
    rwa [takeWhile_cons_of_begins hb]
  | case5 number delimiter b rest hb first hn cut after hcut last ih =>
    obtain ⟨htext, hne⟩ := cutText_eq_some hcut
    obtain ⟨c, cut, rfl⟩ := List.exists_cons_of_ne_nil hne
    obtain ⟨rfl, hrest⟩ := List.cons.inj htext
    have hfirst : first = (b :: cut ++ after).takeWhile (· ≠ lineFeed) := by
      rw [← htext, takeWhile_cons_of_begins hb]
    have hline : (b :: cut).takeWhile (· ≠ lineFeed) <+: first :=
      hfirst ▸ firstLine_prefix_append _ _
    exact .cons (.sql hb (newDelimiter?_of_isPrefix hn hline) (.inr (cutText_of_cut hcut)))
      (fun _ => Statement.isUnended_of_cut hcut _ _) ih

end SqlScript
