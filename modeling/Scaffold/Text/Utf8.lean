/-
# Scaffold.Text.Utf8 -- texts as bytes

A text is stored as UTF-8. Reading bytes back either gives a text or names the first place where
they are no UTF-8: a byte that begins no character, a byte that does not continue the character
begun before it, or the end of the bytes inside a character. The range of bytes at fault reaches
from the first byte of the character to the last that was still right; at the end of the bytes it
takes in all that is left.
-/

import Scaffold.Text.Quoted

namespace Scaffold

/-- The content of a file. -/
abbrev Bytes := List UInt8

namespace Text

/-! ## Writing -/

/-- The bytes of a code point. Those of a character are its UTF-8; a surrogate has none of its own
and stands, in the name of a file, for the byte with its last eight bits. -/
def octets : CodePoint → Bytes
  | chr c => String.utf8EncodeChar c
  | .surrogate n => [UInt8.ofNat n]

/-- The number of bytes that a text takes up. -/
def byteLength (s : Text) : Nat := total (s.map fun c => (octets c).length)

/-- A place where a text cannot be encoded: surrogates in a row. -/
structure EncodeError where
  /-- The position of the first of them. -/
  start : Nat
  /-- The number of the first of them. -/
  code : Nat
  /-- How many they are. -/
  count : Nat
  deriving DecidableEq, Repr

/-- What is said of a text that cannot be encoded. A single surrogate is shown, several are given by
their positions. -/
def EncodeError.message (e : EncodeError) : Text :=
  "'utf-8' codec can't encode character".text ++
    (if e.count ≤ 1 then
      " '\\u".text ++ hexDigits 4 e.code ++ "' in position ".text ++ ofNat e.start
    else
      "s in position ".text ++ ofNat e.start ++ chr '-' :: ofNat (e.start + e.count - 1)) ++
    ": surrogates not allowed".text

/-- The first place where a text that stands at the given position has a code point that is not
admitted. -/
def encodeErrorFrom (isAdmitted : CodePoint → Bool) (position : Nat) : Text → Option EncodeError
  | [] => none
  | c :: s =>
    if isAdmitted c then encodeErrorFrom isAdmitted (position + 1) s
    else some ⟨position, c.toNat, 1 + (s.takeWhile CodePoint.isSurrogate).length⟩

/-- The first place where a text has no UTF-8. -/
def encodeError? (s : Text) : Option EncodeError := encodeErrorFrom (!·.isSurrogate) 0 s

theorem encodeErrorFrom_eq_none_iff {isAdmitted : CodePoint → Bool} {position : Nat} {s : Text} :
    encodeErrorFrom isAdmitted position s = none ↔ ∀ c ∈ s, isAdmitted c = true := by
  induction s generalizing position with
  | nil => simp [encodeErrorFrom]
  | cons c s ih =>
      unfold encodeErrorFrom
      split
      · rename_i hc
        rw [ih, List.forall_mem_cons]
        exact (and_iff_right hc).symm
      · rename_i hc
        exact iff_of_false (by simp) fun h => hc (h c List.mem_cons_self)

/-- The texts that have UTF-8 are those of characters only. -/
theorem encodeError?_eq_none_iff {s : Text} : encodeError? s = none ↔ s.isUnicode = true := by
  rw [encodeError?, encodeErrorFrom_eq_none_iff, isUnicode, List.all_eq_true]

/-- A text as UTF-8. Where it has none, nothing of it is written. -/
def utf8 (s : Text) : Bytes :=
  match encodeError? s with
  | none => s.flatMap octets
  | some _ => []

/-! ## Names of files -/

/-- Whether a code point stands in the name of a file for a byte that is no UTF-8. -/
def isEscapedByte (c : CodePoint) : Bool := inRanges [(0xDC80, 0xDCFF)] c.toNat

/-- The first place where a text cannot be in the name of a file. -/
def nameError? (s : Text) : Option EncodeError :=
  encodeErrorFrom (fun c => !c.isSurrogate || isEscapedByte c) 0 s

/-- Where a text can be in the name of a file its beginnings can. -/
theorem nameError?_of_prefix {s t : Text} (h : nameError? t = none) (hbefore : s <+: t) :
    nameError? s = none := by
  rw [nameError?, encodeErrorFrom_eq_none_iff] at h ⊢
  exact fun c hc => h c (hbefore.subset hc)

/-! ## Reading -/

/-- What is wrong with bytes that are no UTF-8. -/
inductive Utf8Fault where
  | invalidStart
  | invalidContinuation
  | unexpectedEnd
  deriving DecidableEq, Repr

/-- A place where bytes are no UTF-8. -/
structure Utf8Error where
  fault : Utf8Fault
  /-- The position of the first byte at fault. -/
  start : Nat
  /-- The first byte at fault. -/
  byte : UInt8
  /-- How many bytes are at fault. -/
  count : Nat
  deriving DecidableEq, Repr

/-- What is said of a fault. -/
def Utf8Fault.text : Utf8Fault → Text
  | invalidStart => "invalid start byte".text
  | invalidContinuation => "invalid continuation byte".text
  | unexpectedEnd => "unexpected end of data".text

/-- What is said of an error. A single byte is shown, several are given by their positions. -/
def Utf8Error.message (e : Utf8Error) : Text :=
  "'utf-8' codec can't decode byte".text ++
    (if e.count ≤ 1 then
      " 0x".text ++ hexDigits 2 e.byte.toNat ++ " in position ".text ++ ofNat e.start
    else
      "s in position ".text ++ ofNat e.start ++ chr '-' :: ofNat (e.start + e.count - 1)) ++
    ": ".text ++ e.fault.text

/-- Whether a byte continues a character. -/
def isContinuation (b : UInt8) : Bool := 0x80 ≤ b && b ≤ 0xBF

/-- Whether a byte may follow the given first byte of a character. Apart from the general range,
over-long forms, surrogates and codes past the last character are ruled out here. -/
def isSecond (first b : UInt8) : Bool :=
  if first = 0xE0 then 0xA0 ≤ b && b ≤ 0xBF
  else if first = 0xED then 0x80 ≤ b && b ≤ 0x9F
  else if first = 0xF0 then 0x90 ≤ b && b ≤ 0xBF
  else if first = 0xF4 then 0x80 ≤ b && b ≤ 0x8F
  else isContinuation b

/-- The lowest six bits of a byte. -/
def sixBits (b : UInt8) : Nat := b.toNat % 64

/-- The characters of bytes that stand at the given position. -/
def ofUtf8From (position : Nat) : Bytes → Except Utf8Error (List Char)
  | [] => .ok []
  | a :: rest =>
    if a < 0x80 then (Char.ofNat a.toNat :: ·) <$> ofUtf8From (position + 1) rest
    else if a < 0xC2 then .error ⟨.invalidStart, position, a, 1⟩
    else if a < 0xE0 then
      match rest with
      | [] => .error ⟨.unexpectedEnd, position, a, 1⟩
      | b :: rest =>
        if isSecond a b then
          (Char.ofNat (a.toNat % 32 * 64 + sixBits b) :: ·) <$> ofUtf8From (position + 2) rest
        else .error ⟨.invalidContinuation, position, a, 1⟩
    else if a < 0xF0 then
      match rest with
      | [] => .error ⟨.unexpectedEnd, position, a, 1⟩
      | [b] =>
        if isSecond a b then .error ⟨.unexpectedEnd, position, a, 2⟩
        else .error ⟨.invalidContinuation, position, a, 1⟩
      | b :: c :: rest =>
        if isSecond a b then
          if isContinuation c then
            (Char.ofNat ((a.toNat % 16 * 64 + sixBits b) * 64 + sixBits c) :: ·) <$>
              ofUtf8From (position + 3) rest
          else .error ⟨.invalidContinuation, position, a, 2⟩
        else .error ⟨.invalidContinuation, position, a, 1⟩
    else if a < 0xF5 then
      match rest with
      | [] => .error ⟨.unexpectedEnd, position, a, 1⟩
      | [b] =>
        if isSecond a b then .error ⟨.unexpectedEnd, position, a, 2⟩
        else .error ⟨.invalidContinuation, position, a, 1⟩
      | [b, c] =>
        if isSecond a b then
          if isContinuation c then .error ⟨.unexpectedEnd, position, a, 3⟩
          else .error ⟨.invalidContinuation, position, a, 2⟩
        else .error ⟨.invalidContinuation, position, a, 1⟩
      | b :: c :: d :: rest =>
        if isSecond a b then
          if isContinuation c then
            if isContinuation d then
              (Char.ofNat
                (((a.toNat % 8 * 64 + sixBits b) * 64 + sixBits c) * 64 + sixBits d) :: ·) <$>
                ofUtf8From (position + 4) rest
            else .error ⟨.invalidContinuation, position, a, 3⟩
          else .error ⟨.invalidContinuation, position, a, 2⟩
        else .error ⟨.invalidContinuation, position, a, 1⟩
    else .error ⟨.invalidStart, position, a, 1⟩

/-- Reads bytes as UTF-8. -/
def ofUtf8 (bytes : Bytes) : Except Utf8Error Text := (ofUtf8From 0 bytes).map (List.map chr)

/-! ## Line ends -/

/-- A text with every line end written as a line feed: a carriage return, alone or before a line
feed, counts as one line end. -/
def unifyLineEnds : Text → Text
  | [] => []
  | chr '\r' :: chr '\n' :: s => chr '\n' :: unifyLineEnds s
  | chr '\r' :: s => chr '\n' :: unifyLineEnds s
  | c :: s => c :: unifyLineEnds s

end Text

end Scaffold
