import SqlScript.Split
import SqlScript.Proofs.History
import SqlScript.Proofs.Restart
import SqlScript.Proofs.Utf8Text

namespace SqlScript

theorem IsText.around_lineFeed {before after : Bytes} (h : IsText (before ++ lineFeed :: after)) :
    IsText before ∧ IsText after := by
  rw [← List.singleton_append] at h
  exact h.around isText_lineFeed (List.cons_ne_nil _ _)

theorem isText_lineOfPiece {piece : Bytes} (h : IsText piece) : IsText (lineOfPiece piece) := by
  unfold lineOfPiece
  split
  next hl =>
    obtain ⟨front, rfl⟩ := List.getLast?_eq_some_iff.mp hl
    rw [← List.append_nil [carriageReturn]] at h
    rw [List.dropLast_concat]
    exact (h.around isText_carriageReturn (List.cons_ne_nil _ _)).1
  next => exact h

theorem isText_textLines {text : Bytes} (h : IsText text) :
    ∀ line ∈ textLines text, IsText line := by
  induction hn : text.length using Nat.strongRecOn generalizing text with
  | ind n ih =>
    by_cases hl : lineFeed ∈ text
    · obtain ⟨piece, rest, hpiece, rfl⟩ := exists_lines_of_mem hl
      have hlt : rest.length < n := by
        rw [← hn, List.length_append, List.length_cons]
        omega
      obtain ⟨hfirst, hrest⟩ := IsText.around_lineFeed h
      rw [textLines_cons hpiece, List.forall_mem_cons]
      exact ⟨isText_lineOfPiece hfirst, ih _ hlt hrest rfl⟩
    · rw [textLines_of_notMem hl]
      split <;> simp [h]

theorem isText_following {lines : List Bytes} (h : ∀ line ∈ lines, IsText line) :
    IsText (following lines) := by
  induction lines with
  | nil => exact .nil
  | cons line lines ih =>
    rw [List.forall_mem_cons] at h
    rw [following_cons]
    exact isText_lineFeed.append (h.1.append (ih h.2))

theorem isText_usableDelimiter {delimiter : Bytes} (h : IsText delimiter) :
    IsText (usableDelimiter delimiter) := by
  unfold usableDelimiter
  split
  next => exact .nil
  next => exact h

theorem isText_newDelimiter? {line delimiter : Bytes} (h : IsText line)
    (hn : newDelimiter? line = some delimiter) : IsText delimiter := by
  obtain ⟨-, front, spaces, rfl, hne, hspaces⟩ := newDelimiter?_after_spaces hn
  exact (h.around (isText_spaces hspaces) hne).2

/-- A text is split into texts. -/
theorem isText_onePass {escape : Option UInt8} {number : Nat} {delimiter text : Bytes}
    (hd : IsText delimiter) (ht : IsText text) :
    ∀ statement ∈ onePass escape number delimiter text, IsText statement.bytes := by
  fun_induction onePass escape number delimiter text with
  | case1 => simp
  | case2 number delimiter rest ih =>
    rw [← List.singleton_append] at ht
    exact ih hd (ht.of_append isText_lineFeed)
  | case3 number delimiter b rest hb first next hn ih =>
    obtain ⟨line, after, rfl, hl, hafter⟩ := exists_line rest
    simp only [first, hafter.takeWhile hl, hafter.dropWhile hl] at hn ih ⊢
    have hboth : IsText (b :: line) ∧ IsText after := by
      rcases hafter with rfl | ⟨after, rfl⟩
      · exact ⟨by simpa using ht, .nil⟩
      · rw [← List.cons_append] at ht
        obtain ⟨hline, hrest⟩ := ht.around_lineFeed
        exact ⟨hline, isText_lineFeed.append hrest⟩
    rw [List.forall_mem_cons]
    exact ⟨hboth.1, ih (isText_newDelimiter? hboth.1 hn) hboth.2⟩
  | case4 number delimiter b rest hb first hn hcut => simpa using ht
  | case5 number delimiter b rest hb first hn cut after hcut last ih =>
    obtain ⟨htext, -⟩ := cutText_eq_some hcut
    obtain ⟨hne, before, rfl⟩ := cutText_suffix hcut
    rw [htext, List.append_assoc] at ht
    obtain ⟨hbefore, hafter⟩ := ht.around hd hne
    rw [List.forall_mem_cons]
    exact ⟨hbefore.append hd, ih hd hafter⟩

theorem isText_delimiterAfter {delimiter : Bytes} {statements : List Statement}
    (hd : IsText delimiter) (h : ∀ statement ∈ statements, IsText statement.bytes) :
    IsText (delimiterAfter delimiter statements) := by
  induction statements generalizing delimiter with
  | nil => exact hd
  | cons statement statements ih =>
    rw [List.forall_mem_cons] at h
    refine ih ?_ h.2
    unfold Statement.delimiterAfter
    split
    next => exact hd
    next =>
      cases hn : newDelimiter? statement.bytes with
      | none => exact hd
      | some next => exact isText_newDelimiter? h.1 hn

theorem Statement.ownText_ofText {statement : Statement} {text : String}
    (h : Bytes.ofText text = statement.bytes) : statement.ownText = text := by
  simp only [ownText, ← h, utf8Text_ofText]

section

variable (access : Access) {source : Source} {settings : Settings}
  (script : IsText (Source.bytes source)) (start : IsText settings.delimiter)

include script

theorem isText_through (capacity : Nat) :
    IsText (Source.bytes (Source.through access capacity source)) := by
  by_cases hc : access = .buffered ∧ capacity = 0
  · obtain ⟨rfl, rfl⟩ := hc
    exact .nil
  · cases access with
    | direct => exact script
    | buffered => rwa [(Source.through_same .buffered (by simpa using hc) source).1]

include start

theorem isText_drain :
    ∀ statement ∈ (ScriptReader.opened access source settings).drain.1,
      IsText statement.bytes := by
  have hlines := isText_textLines (isText_through access script settings.capacity)
  rw [← LineReader.linesLeft_reading _ 0] at hlines
  rw [ScriptReader.opened_drain, ScriptReader.opened]
  exact isText_onePass (isText_usableDelimiter start) (isText_following hlines)

theorem isText_delimiter {handed : List Statement} {reader : ScriptReader}
    (reached : Reaches (ScriptReader.opened access source settings) handed reader) :
    IsText reader.delimiter := by
  have hdelimiter := reached.delimiter (f := id) (fun _ _ _ _ => rfl)
    (ScriptReader.opened_sound access source settings) (ScriptReader.opened_ready ..)
  rw [id_eq, id_eq, ScriptReader.opened_delimiter] at hdelimiter
  rw [hdelimiter]
  apply isText_delimiterAfter start
  intro statement hm
  exact isText_drain access script start statement (reached.made_isPrefix.subset hm)

end

/-- A text, read with a delimiter that is one, is split into texts, and its delimiters are texts. -/
theorem statements_are_texts (access : Access) {source : Source} {settings : Settings}
    (script : IsText (Source.bytes source)) (start : IsText settings.delimiter)
    (requests : List Pull) :
    let reader := ScriptReader.opened access source settings
    let delimiter := (reader.pulls requests).2.delimiter
    (∀ statement ∈ reader.outcome.statements, ∃ text,
      statement.strictText = .ok text ∧ Bytes.ofText text = statement.bytes) ∧
    (∃ text, utf8Text delimiter = .ok text ∧ Bytes.ofText text = delimiter) ∧
    ∀ text, (splitText text).map Bytes.ofText =
      (ScriptReader.ofText text).outcome.statements.map Statement.bytes := by
  intro reader delimiter
  refine ⟨?_, ?_, ?_⟩
  · intro statement hm
    obtain ⟨text, ht⟩ := isText_drain access script start statement hm
    exact ⟨text, by rw [Statement.strictText, ← ht, utf8Text_ofText], ht⟩
  · obtain ⟨text, ht⟩ := isText_delimiter access script start
      (Reaches.start.pulls (ScriptReader.opened_ready ..) requests)
    exact ⟨text, by rw [← utf8Text_ofText, ht], ht⟩
  · intro text
    have hscript : IsText (Source.bytes (Source.ofBytes (Bytes.ofText text))) := by
      rw [Source.bytes_ofBytes]
      exact ⟨text, rfl⟩
    have hsemicolon : IsText (default : Settings).delimiter := ⟨";", by decide⟩
    rw [splitText, List.map_map]
    apply List.map_congr_left
    intro statement hm
    obtain ⟨own, ho⟩ := isText_drain .buffered hscript hsemicolon statement hm
    rw [Function.comp_apply, Statement.ownText_ofText ho, ho]

/-- A script of which each read gives one byte, with a delimiter and quoted characters of two bytes
whose second one escapes. -/
theorem statements_are_texts_of_single_bytes :
    let script := "aä\ndelimiter ö\nc'äö''öd"
    let source : Source := (Bytes.ofText script).map fun b => .data [b]
    let settings : Settings := { (default : Settings) with
      escape := 182, delimiter := Bytes.ofText "ä", capacity := 3 }
    let reader := ScriptReader.opened .buffered source settings
    let found := (reader.pulls [.next, .next, .advance]).2
    IsText (Source.bytes source) ∧ IsText settings.delimiter ∧
      (∀ statement ∈ reader.outcome.statements, ∃ text,
        statement.strictText = .ok text ∧ Bytes.ofText text = statement.bytes) ∧
      ∃ text, utf8Text found.delimiter = .ok text ∧ Bytes.ofText text = found.delimiter := by
  intro script source settings reader found
  have hscript : IsText (Source.bytes source) := ⟨script, by decide +kernel⟩
  have start : IsText settings.delimiter := ⟨"ä", by decide⟩
  obtain ⟨statements, delimiter, _⟩ :=
    statements_are_texts .buffered hscript start [.next, .next, .advance]
  exact ⟨hscript, start, statements, delimiter⟩

end SqlScript
