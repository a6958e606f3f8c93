import SqlScript.Bytes

namespace SqlScript

/-- The quotes in which a delimiter is not looked for. -/
inductive Quote
  | single
  | double
  | backtick
  deriving DecidableEq, Repr

def Quote.byte : Quote → UInt8
  | .single => 0x27
  | .double => 0x22
  | .backtick => 0x60

def Quote.ofByte? (b : UInt8) : Option Quote :=
  if b = 0x27 then some .single
  else if b = 0x22 then some .double
  else if b = 0x60 then some .backtick
  else none

theorem Quote.ofByte?_eq_some_iff {b : UInt8} {quote : Quote} :
    Quote.ofByte? b = some quote ↔ b = quote.byte := by
  constructor
  · intro h
    simp only [ofByte?] at h
    split at h
    · next hb => cases h; exact hb
    · split at h
      · next hb => cases h; exact hb
      · split at h
        · next hb => cases h; exact hb
        · simp at h
  · rintro rfl
    cases quote <;> rfl

/-- What the bytes at some place of a script stand in; in a quote an escape may stand right before.
-/
inductive Context
  | code
  | quoted (quote : Quote) (escaped : Bool)
  | comment
  deriving DecidableEq, Repr

/-- With a star after it, a slash opens a block comment. -/
@[match_pattern] abbrev slash : UInt8 := 0x2F

/-- With a slash after it, a star closes a block comment. -/
@[match_pattern] abbrev star : UInt8 := 0x2A

/-- Two dashes open a comment up to the end of the line. -/
@[match_pattern] abbrev dash : UInt8 := 0x2D

/-- A hash opens a comment up to the end of the line. -/
@[match_pattern] abbrev hash : UInt8 := 0x23

/-- The bytes after a delimiter, if they begin with it; an empty one is nowhere. -/
def afterDelimiter? (delimiter bytes : Bytes) : Option Bytes :=
  if delimiter.isEmpty then none else delimiter.isPrefixOf? bytes

/-- Where a scan stopped, with the bytes scanned, last one first. -/
inductive ScanEnd
  | delimiter (scanned rest : Bytes)
  | lineEnd (scanned : Bytes) (context : Context)

/-- What a byte inside a quote makes of the quote. -/
def quotedNext (escape : UInt8) (quote : Quote) (escaped : Bool) (b : UInt8) : Context :=
  if escaped then .quoted quote false
  else if b = escape then .quoted quote true
  else if b = quote.byte then .code
  else .quoted quote false

/-- Scans a line for the delimiter, which counts in bare SQL only. -/
def scan (escape : UInt8) (delimiter scanned : Bytes) : Context → Bytes → ScanEnd
  | context, [] => .lineEnd scanned context
  | .quoted quote escaped, b :: rest =>
    scan escape delimiter (b :: scanned) (quotedNext escape quote escaped b) rest
  | .comment, star :: slash :: rest =>
    scan escape delimiter (slash :: star :: scanned) .code rest
  | .comment, b :: rest => scan escape delimiter (b :: scanned) .comment rest
  | .code, slash :: star :: rest =>
    scan escape delimiter (star :: slash :: scanned) .comment rest
  | .code, dash :: dash :: rest => .lineEnd (rest.reverseAux (dash :: dash :: scanned)) .code
  | .code, hash :: rest => .lineEnd (rest.reverseAux (hash :: scanned)) .code
  | .code, b :: rest =>
    match Quote.ofByte? b with
    | some quote => scan escape delimiter (b :: scanned) (.quoted quote false) rest
    | none =>
      match afterDelimiter? delimiter (b :: rest) with
      | some after => .delimiter (delimiter.reverseAux scanned) after
      | none => scan escape delimiter (b :: scanned) .code rest

theorem isPrefixOf?_eq_some {a b rest : Bytes} (h : a.isPrefixOf? b = some rest) :
    b = a ++ rest := by
  induction a generalizing b with
  | nil => exact Option.some.inj h
  | cons x a ih =>
    cases b with
    | nil => cases h
    | cons y b =>
      change (if x == y then a.isPrefixOf? b else none) = some rest at h
      split at h
      · next hxy => rw [eq_of_beq hxy, ih h]; rfl
      · simp at h

theorem afterDelimiter?_eq_some {delimiter bytes rest : Bytes}
    (h : afterDelimiter? delimiter bytes = some rest) :
    delimiter ≠ [] ∧ bytes = delimiter ++ rest := by
  unfold afterDelimiter? at h
  split at h
  · simp at h
  · next hd => exact ⟨by simpa using hd, isPrefixOf?_eq_some h⟩

/-- A scan keeps every byte in its place. -/
theorem scan_delimiter {escape : UInt8} {delimiter scanned line scanned' rest : Bytes}
    {context : Context}
    (h : scan escape delimiter scanned context line = .delimiter scanned' rest) :
    scanned'.reverse ++ rest = scanned.reverse ++ line ∧ rest.length < line.length := by
  fun_induction scan escape delimiter scanned context line with
  | case1 => simp at h
  | case2 _ _ _ _ _ ih | case3 _ _ ih | case4 _ _ _ _ ih | case5 _ _ ih
  | case8 _ _ _ _ _ _ _ _ ih | case10 _ _ _ _ _ _ _ _ ih =>
    obtain ⟨h1, h2⟩ := ih h
    refine ⟨by simpa using h1, ?_⟩
    simp only [List.length_cons]
    omega
  | case6 => simp at h
  | case7 => simp at h
  | case9 scanned b rest' _ _ _ _ after hafter =>
    cases h
    obtain ⟨hne, heq⟩ := afterDelimiter?_eq_some hafter
    have hl := congrArg List.length heq
    have hpos := List.length_pos_iff.mpr hne
    simp only [List.length_append] at hl
    refine ⟨by simp [heq], by omega⟩

theorem scan_lineEnd {escape : UInt8} {delimiter scanned line scanned' : Bytes}
    {context context' : Context}
    (h : scan escape delimiter scanned context line = .lineEnd scanned' context') :
    scanned'.reverse = scanned.reverse ++ line := by
  fun_induction scan escape delimiter scanned context line with
  | case1 => cases h; simp
  | case2 _ _ _ _ _ ih | case3 _ _ ih | case4 _ _ _ _ ih | case5 _ _ ih
  | case8 _ _ _ _ _ _ _ _ ih | case10 _ _ _ _ _ _ _ _ ih => simpa using ih h
  | case6 => cases h; simp
  | case7 => cases h; simp
  | case9 => simp at h

end SqlScript
