import SqlScript.Delimiter
import SqlScript.Scan
import SqlScript.Statement

namespace SqlScript

/-- What the bytes at some place of a whole text stand in. -/
inductive TextContext
  | code
  | quoted (quote : Quote) (escaped : Bool)
  | blockComment
  | lineComment
  deriving DecidableEq, Repr

/-- What a byte inside a quote makes of the quote. A line feed after an escape leaves the escape to
the byte after it. -/
def afterQuoted (escape : Option UInt8) (quote : Quote) (escaped : Bool) (b : UInt8) :
    TextContext :=
  if escaped then .quoted quote (b == lineFeed)
  else if escape = some b then .quoted quote true
  else if b = quote.byte then .code
  else .quoted quote false

def keep (front : Bytes) (cut : Option (Bytes × Bytes)) : Option (Bytes × Bytes) :=
  cut.map fun (before, after) => (front ++ before, after)

/-- The text up to the first delimiter in bare SQL, which goes with it, and the text after that. -/
def cutText (escape : Option UInt8) (delimiter : Bytes) :
    TextContext → Bytes → Option (Bytes × Bytes)
  | _, [] => none
  | .quoted quote escaped, b :: rest =>
    keep [b] (cutText escape delimiter (afterQuoted escape quote escaped b) rest)
  | .blockComment, star :: slash :: rest => keep [star, slash] (cutText escape delimiter .code rest)
  | .blockComment, b :: rest => keep [b] (cutText escape delimiter .blockComment rest)
  | .lineComment, b :: rest =>
    keep [b] (cutText escape delimiter (if b = lineFeed then .code else .lineComment) rest)
  | .code, slash :: star :: rest => keep [slash, star] (cutText escape delimiter .blockComment rest)
  | .code, dash :: dash :: rest => keep [dash, dash] (cutText escape delimiter .lineComment rest)
  | .code, hash :: rest => keep [hash] (cutText escape delimiter .lineComment rest)
  | .code, b :: rest =>
    match Quote.ofByte? b with
    | some quote => keep [b] (cutText escape delimiter (.quoted quote false) rest)
    | none =>
      if delimiter ≠ [] ∧ delimiter <+: b :: rest then
        some (delimiter, (b :: rest).drop delimiter.length)
      else keep [b] (cutText escape delimiter .code rest)

-- The induction along a cut is made here, once for all the proofs that go by it.
attribute [elab_as_elim] cutText.induct

@[simp] theorem keep_none (front : Bytes) : keep front none = none := rfl

@[simp] theorem keep_some (front before after : Bytes) :
    keep front (some (before, after)) = some (front ++ before, after) := rfl

@[simp] theorem keep_nil (cut : Option (Bytes × Bytes)) : keep [] cut = cut := by
  cases cut <;> rfl

@[simp] theorem keep_keep (front front' : Bytes) (cut : Option (Bytes × Bytes)) :
    keep front (keep front' cut) = keep (front ++ front') cut := by
  cases cut <;> simp [keep]

theorem keep_eq_some {front cut after : Bytes} {found : Option (Bytes × Bytes)}
    (h : keep front found = some (cut, after)) :
    ∃ before, found = some (before, after) ∧ cut = front ++ before := by
  obtain ⟨⟨before, after'⟩, hf, he⟩ := Option.map_eq_some_iff.mp h
  obtain ⟨rfl, rfl⟩ := Prod.mk.inj he
  exact ⟨before, hf, rfl⟩

@[simp] theorem cutText_nil (escape : Option UInt8) (delimiter : Bytes) (context : TextContext) :
    cutText escape delimiter context [] = none := by
  cases context <;> simp [cutText]

/-- A cut loses nothing and has bytes. -/
theorem cutText_eq_some {escape : Option UInt8} {delimiter text cut after : Bytes}
    {context : TextContext}
    (h : cutText escape delimiter context text = some (cut, after)) :
    text = cut ++ after ∧ cut ≠ [] := by
  fun_induction cutText escape delimiter context text generalizing cut with
  | case1 => simp at h
  | case2 _ _ _ _ ih | case3 _ ih | case4 _ _ _ ih | case5 _ _ ih | case6 _ ih | case7 _ ih
  | case8 _ ih | case9 _ _ _ _ _ _ _ ih | case11 _ _ _ _ _ _ _ ih =>
    obtain ⟨before, hf, rfl⟩ := keep_eq_some h
    obtain ⟨rfl, _⟩ := ih hf
    exact ⟨by simp, by simp⟩
  | case10 b rest _ _ _ _ hd =>
    obtain ⟨rfl, rfl⟩ := Prod.mk.inj (Option.some.inj h)
    exact ⟨(List.prefix_iff_eq_append.mp hd.2).symm, hd.1⟩

/-- A cut ends with the delimiter. -/
theorem cutText_suffix {escape : Option UInt8} {delimiter text cut after : Bytes}
    {context : TextContext} (h : cutText escape delimiter context text = some (cut, after)) :
    delimiter ≠ [] ∧ delimiter <:+ cut := by
  fun_induction cutText escape delimiter context text generalizing cut with
  | case1 => simp at h
  | case2 _ _ _ _ ih | case3 _ ih | case4 _ _ _ ih | case5 _ _ ih | case6 _ ih | case7 _ ih
  | case8 _ ih | case9 _ _ _ _ _ _ _ ih | case11 _ _ _ _ _ _ _ ih =>
    obtain ⟨before, hf, rfl⟩ := keep_eq_some h
    obtain ⟨hne, hs⟩ := ih hf
    exact ⟨hne, hs.trans (List.suffix_append _ _)⟩
  | case10 b rest _ _ _ _ hd =>
    obtain ⟨rfl, rfl⟩ := Prod.mk.inj (Option.some.inj h)
    exact ⟨hd.1, List.suffix_refl _⟩

/-- The statements of a text, split in one pass from the line with this number on. -/
def onePass (escape : Option UInt8) (line : Nat) (delimiter : Bytes) : Bytes → List Statement
  | [] => []
  | b :: rest =>
    if b = lineFeed then onePass escape (line + 1) delimiter rest
    else
      let first := b :: rest.takeWhile (· ≠ lineFeed)
      match newDelimiter? first with
      | some next =>
        ⟨first, line, line, .directive⟩ ::
          onePass escape line next (rest.dropWhile (· ≠ lineFeed))
      | none =>
        match _ : cutText escape delimiter .code (b :: rest) with
        | none => [⟨b :: rest, line, line + (b :: rest).count lineFeed, .sql⟩]
        | some (cut, after) =>
          let last := line + cut.count lineFeed
          ⟨cut, line, last, .sql⟩ :: onePass escape last delimiter after
termination_by text => text.length
decreasing_by
  · simp
  · have hle := (List.dropWhile_sublist (l := rest) (· ≠ lineFeed)).length_le
    rw [List.length_cons]
    omega
  · next hcut =>
    obtain ⟨htext, hne⟩ := cutText_eq_some hcut
    have hlen := congrArg List.length htext
    have hpos := List.length_pos_iff.mpr hne
    simp only [List.length_append] at hlen
    omega

end SqlScript
