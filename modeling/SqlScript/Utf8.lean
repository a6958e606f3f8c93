import SqlScript.Bytes

namespace SqlScript

/-- A stretch of bytes read as UTF-8: a character, or a run that begins one and is broken off. -/
inductive Segment
  | char (c : Char)
  | invalid (length : Nat)
  | truncated (length : Nat)
  deriving DecidableEq, Repr

/-- The character a segment shows as; a run that is no character shows as one U+FFFD. -/
def Segment.shown : Segment → Char
  | .char c => c
  | .invalid _ => '\uFFFD'
  | .truncated _ => '\uFFFD'

def Segment.length : Segment → Nat
  | .char c => c.utf8Size
  | .invalid n => n
  | .truncated n => n

/-- The bytes from `low` to `high`, both included. -/
structure ByteRange where
  low : UInt8
  high : UInt8

def ByteRange.contains (range : ByteRange) (b : UInt8) : Bool := range.low ≤ b && b ≤ range.high

def continuation : ByteRange := ⟨0x80, 0xBF⟩

/-- The bits that the first byte of a character holds, and the ranges of the bytes after it. -/
def lead? (b : UInt8) : Option (Nat × List ByteRange) :=
  if b < 0x80 then some (b.toNat, [])
  else if b < 0xC2 then none
  else if b < 0xE0 then some (b.toNat - 0xC0, [continuation])
  else if b = 0xE0 then some (0x0, [⟨0xA0, 0xBF⟩, continuation])
  else if b = 0xED then some (0xD, [⟨0x80, 0x9F⟩, continuation])
  else if b < 0xF0 then some (b.toNat - 0xE0, [continuation, continuation])
  else if b = 0xF0 then some (0x0, [⟨0x90, 0xBF⟩, continuation, continuation])
  else if b < 0xF4 then some (b.toNat - 0xF0, [continuation, continuation, continuation])
  else if b = 0xF4 then some (0x4, [⟨0x80, 0x8F⟩, continuation, continuation])
  else none

/-- Reads on in a character of which `length` bytes with these bits have been read. -/
def readCharacter (bits length : Nat) : List ByteRange → Bytes → Segment × Bytes
  | [], rest => (.char (Char.ofNat bits), rest)
  | _ :: _, [] => (.truncated length, [])
  | range :: ranges, b :: rest =>
    if range.contains b then readCharacter (bits * 64 + (b.toNat - 0x80)) (length + 1) ranges rest
    else (.invalid length, b :: rest)

/-- The segment that begins with the byte `b`, and the bytes after it. -/
def readSegment (b : UInt8) (rest : Bytes) : Segment × Bytes :=
  match lead? b with
  | none => (.invalid 1, rest)
  | some (bits, ranges) => readCharacter bits 1 ranges rest

theorem readCharacter_length (bits length : Nat) (ranges : List ByteRange) (rest : Bytes) :
    (readCharacter bits length ranges rest).2.length ≤ rest.length := by
  fun_induction readCharacter bits length ranges rest with
  | case1 => simp
  | case2 => simp
  | case3 _ _ _ _ _ _ _ ih => simp only [List.length_cons]; omega
  | case4 => simp

theorem readSegment_length (b : UInt8) (rest : Bytes) :
    (readSegment b rest).2.length ≤ rest.length := by
  unfold readSegment
  split
  · simp
  · exact readCharacter_length ..

/-- The segments of a byte string after those already read, which come last one first. -/
def segmentsAfter (read : List Segment) : Bytes → List Segment
  | [] => read.reverse
  | b :: rest => segmentsAfter ((readSegment b rest).1 :: read) (readSegment b rest).2
termination_by bytes => bytes.length
decreasing_by
  have := readSegment_length b rest
  simp only [List.length_cons]
  omega

/-- A byte string as the segments that it is made of. -/
def segments (bytes : Bytes) : List Segment := segmentsAfter [] bytes

theorem segmentsAfter_eq (read : List Segment) (bytes : Bytes) :
    segmentsAfter read bytes = read.reverse ++ segments bytes := by
  unfold segments
  induction h : bytes.length using Nat.strongRecOn generalizing read bytes with
  | ind n ih =>
    cases bytes with
    | nil => simp [segmentsAfter]
    | cons b rest =>
      have hlen := readSegment_length b rest
      simp only [List.length_cons] at h
      rw [segmentsAfter, segmentsAfter, ih _ (by omega) _ _ rfl,
        ih _ (by omega) [(readSegment b rest).1] _ rfl]
      simp

@[simp] theorem segments_nil : segments [] = [] := by simp [segments, segmentsAfter]

theorem segments_cons (b : UInt8) (rest : Bytes) :
    segments (b :: rest) = (readSegment b rest).1 :: segments (readSegment b rest).2 := by
  rw [segments, segmentsAfter, segmentsAfter_eq]
  rfl

/-- Where bytes stop being UTF-8, and how many of them there are no character; `none` if they end
inside one. -/
structure Utf8Fault where
  validUpTo : Nat
  length : Option Nat
  deriving DecidableEq, Repr

def Utf8Fault.message (fault : Utf8Fault) : String :=
  match fault.length with
  | some n => s!"invalid utf-8 sequence of {n} bytes from index {fault.validUpTo}"
  | none => s!"incomplete utf-8 byte sequence from index {fault.validUpTo}"

/-- The first segment that is no character, counting bytes from `index`. -/
def firstFault? (index : Nat) : List Segment → Option Utf8Fault
  | [] => none
  | .char c :: rest => firstFault? (index + c.utf8Size) rest
  | .invalid n :: _ => some ⟨index, some n⟩
  | .truncated _ :: _ => some ⟨index, none⟩

/-- The text of a byte string, with U+FFFD in place of each run of bytes that is no character. -/
def lossyText (bytes : Bytes) : String := String.ofList ((segments bytes).map Segment.shown)

/-- The text of a byte string that is UTF-8 throughout. -/
def utf8Text (bytes : Bytes) : Except Utf8Fault String :=
  match firstFault? 0 (segments bytes) with
  | none => .ok (lossyText bytes)
  | some fault => .error fault

theorem lossyText_of_utf8Text {bytes : Bytes} {text : String} (h : utf8Text bytes = .ok text) :
    lossyText bytes = text := by
  unfold utf8Text at h
  split at h
  · exact Except.ok.inj h
  · simp at h

end SqlScript
