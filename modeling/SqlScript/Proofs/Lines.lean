import SqlScript.LineReader

namespace SqlScript

/-- The lines that a reader is still going to give. -/
def LineReader.linesLeft (reader : LineReader) : List Bytes :=
  match _ : reader.next.line with
  | .ok (some line) => line :: reader.next.reader.linesLeft
  | _ => []
termination_by reader.weight
decreasing_by
  have := LineReader.next_weight ‹_›
  omega

theorem LineReader.linesLeft_of_line {reader : LineReader} {line : Bytes}
    (h : reader.next.line = .ok (some line)) :
    reader.linesLeft = line :: reader.next.reader.linesLeft := by
  rw [linesLeft]
  split
  next line' h' =>
    have he : line' = line := by simpa [h] using h'.symm
    rw [he]
  next hn => exact absurd h (hn line)

theorem LineReader.linesLeft_of_noLine {reader : LineReader}
    (h : ∀ line, reader.next.line ≠ .ok (some line)) : reader.linesLeft = [] := by
  rw [linesLeft]
  split
  next line h' => exact absurd h' (h line)
  next => rfl

theorem LineReader.linesRead_of_line {reader : LineReader} {line : Bytes}
    (h : reader.next.line = .ok (some line)) :
    reader.next.reader.linesRead = reader.linesRead + 1 := by
  obtain ⟨phase, count⟩ := reader
  cases phase with
  | ended => simp [next] at h
  | failing => simp [next] at h
  | reading source =>
    simp only [next] at h ⊢
    split at h <;> simp_all

/-- Once there was no line, there will be none, and the count stands. -/
theorem LineReader.next_of_noLine {reader : LineReader}
    (h : ∀ line, reader.next.line ≠ .ok (some line)) :
    reader.next.reader = ⟨.ended, reader.linesRead⟩ := by
  obtain ⟨phase, count⟩ := reader
  cases phase with
  | ended => rfl
  | failing => rfl
  | reading source =>
    simp only [next] at h ⊢
    split at h <;> simp_all

theorem LineReader.linesLeft_ended (count : Nat) : (LineReader.mk .ended count).linesLeft = [] :=
  linesLeft_of_noLine (by simp [next])

def LineEnd.bytes : LineEnd → Bytes
  | .found line _ => line
  | .inputEnded tail => tail
  | .inputFailed tail _ => tail

theorem lineFeed_notMem_cutLine {gathered bytes : Bytes} (h : lineFeed ∉ gathered) :
    lineFeed ∉ (cutLine gathered bytes).1 := by
  fun_induction cutLine gathered bytes with
  | case1 => exact h
  | case2 => exact h
  | case3 gathered b rest hb ih =>
    apply ih
    intro hm
    rcases List.mem_cons.mp hm with he | hm
    · exact hb he.symm
    · exact h hm

theorem lineFeed_notMem_lineOfGathered {gathered : Bytes} (h : lineFeed ∉ gathered) :
    lineFeed ∉ lineOfGathered gathered := by
  unfold lineOfGathered
  split
  next rest => exact fun hm => h (List.mem_cons_of_mem _ (List.mem_reverse.mp hm))
  next => exact fun hm => h (List.mem_reverse.mp hm)

theorem lineFeed_notMem_gatherLine {gathered : Bytes} {source : Source}
    (h : lineFeed ∉ gathered) : lineFeed ∉ (gatherLine gathered source).bytes := by
  have hr : lineFeed ∉ gathered.reverse := fun hm => h (List.mem_reverse.mp hm)
  fun_induction gatherLine gathered source with
  | case1 => exact hr
  | case2 _ _ ih => exact ih h hr
  | case3 => exact hr
  | case4 => exact hr
  | case5 gathered b bytes source gathered' rest hcut =>
    have hc : lineFeed ∉ (cutLine gathered (b :: bytes)).1 := lineFeed_notMem_cutLine h
    rw [hcut] at hc
    exact lineFeed_notMem_lineOfGathered hc
  | case6 gathered b bytes source gathered' hcut ih =>
    have hc : lineFeed ∉ (cutLine gathered (b :: bytes)).1 := lineFeed_notMem_cutLine h
    rw [hcut] at hc
    exact ih hc (fun hm => hc (List.mem_reverse.mp hm))

theorem LineReader.lineFeed_notMem_next {reader : LineReader} {line : Bytes}
    (h : reader.next.line = .ok (some line)) : lineFeed ∉ line := by
  obtain ⟨phase, count⟩ := reader
  cases phase with
  | ended => simp [next] at h
  | failing => simp [next] at h
  | reading source =>
    have hg : lineFeed ∉ (gatherLine [] source).bytes := lineFeed_notMem_gatherLine List.not_mem_nil
    simp only [next] at h
    split at h <;> simp_all [LineEnd.bytes]

end SqlScript
