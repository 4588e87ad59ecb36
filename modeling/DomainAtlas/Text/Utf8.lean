/-!
# Reading bytes as text

A file is a sequence of bytes; most of them are UTF-8. This module classifies the front of a byte
sequence (`front`), reads it strictly with the exact reason of the first failure (`decode`), and
reads it forgivingly, with one U+FFFD for every maximal ill-formed piece (`decodeLossy`).

A piece that cannot be completed is as long as the longest initial part of it that could still
have become a character, and at least one byte.
-/
namespace DomainAtlas.Text

/-- Why a byte sequence is not UTF-8 at some place. -/
inductive Utf8Fault where
  | badStart
  | badContinuation
  | endOfData
  deriving DecidableEq, Repr

def Utf8Fault.message : Utf8Fault → String
  | .badStart => "invalid start byte"
  | .badContinuation => "invalid continuation byte"
  | .endOfData => "unexpected end of data"

/-- What stands at the front of a byte sequence: a character of a given width, or an ill-formed
piece of a given width. -/
inductive Front where
  | char (c : Char) (width : Nat)
  | bad (width : Nat) (fault : Utf8Fault)
  deriving DecidableEq, Repr

/-- The bytes a lead byte still needs, as the bounds of each, together with its payload bits. -/
def leadByte (b : Nat) : Option (Nat × List (Nat × Nat)) :=
  let tail := (0x80, 0xBF)
  if b < 0x80 then some (b, [])
  else if b < 0xC2 then none
  else if b < 0xE0 then some (b - 0xC0, [tail])
  else if b = 0xE0 then some (0, [(0xA0, 0xBF), tail])
  else if b = 0xED then some (0xD, [(0x80, 0x9F), tail])
  else if b < 0xF0 then some (b - 0xE0, [tail, tail])
  else if b = 0xF0 then some (0, [(0x90, 0xBF), tail, tail])
  else if b < 0xF4 then some (b - 0xF0, [tail, tail, tail])
  else if b = 0xF4 then some (4, [(0x80, 0x8F), tail, tail])
  else none

/-- Completes a character whose lead byte has been read, `width` bytes so far. -/
def completeChar : Nat → Nat → List (Nat × Nat) → List UInt8 → Front
  | code, width, [], _ => .char (Char.ofNat code) width
  | _, width, _ :: _, [] => .bad width .endOfData
  | code, width, (lo, hi) :: need, b :: rest =>
    if lo ≤ b.toNat ∧ b.toNat ≤ hi then
      completeChar (code * 64 + (b.toNat - 0x80)) (width + 1) need rest
    else .bad width .badContinuation

/-- Classifies the front of a non-empty byte sequence. -/
def front (b : UInt8) (rest : List UInt8) : Front :=
  match leadByte b.toNat with
  | none => .bad 1 .badStart
  | some (code, need) => completeChar code 1 need rest

/-- The number of bytes the front piece takes. -/
def Front.width : Front → Nat
  | .char _ w => w
  | .bad w _ => w

theorem le_completeChar_width (code width : Nat) (need : List (Nat × Nat)) (bs : List UInt8) :
    width ≤ (completeChar code width need bs).width := by
  induction need generalizing code width bs with
  | nil => simp [completeChar, Front.width]
  | cons n need ih =>
    cases bs with
    | nil => simp [completeChar, Front.width]
    | cons b rest =>
      rw [completeChar]
      split
      · exact Nat.le_of_succ_le (ih _ _ rest)
      · simp [Front.width]

theorem front_width_pos (b : UInt8) (rest : List UInt8) : 0 < (front b rest).width := by
  unfold front
  split
  · simp [Front.width]
  · exact le_completeChar_width _ 1 _ rest

/-- A byte sequence cut into its pieces, each with the offset of its first byte. -/
def pieces (offset : Nat) (bytes : List UInt8) : List (Nat × Front) :=
  match bytes with
  | [] => []
  | b :: rest =>
    let f := front b rest
    (offset, f) :: pieces (offset + f.width) ((b :: rest).drop f.width)
termination_by bytes.length
decreasing_by
  have := front_width_pos b rest
  simp only [List.length_drop, List.length_cons]
  omega

/-- The first place where a byte sequence stops being UTF-8. -/
structure DecodeFault where
  /-- Offset of the first byte of the piece. -/
  offset : Nat
  /-- Bytes of the piece. -/
  bytes : List UInt8
  fault : Utf8Fault
  deriving Repr

/-- Two hexadecimal digits of a byte. -/
def hexByte (b : UInt8) : String :=
  let ds := Nat.toDigits 16 b.toNat
  String.ofList (if ds.length < 2 then '0' :: ds else ds)

/-- The wording of a decoding failure: one byte is shown by value, several by their range. -/
def DecodeFault.message (e : DecodeFault) : String :=
  match e.bytes with
  | [b] => s!"'utf-8' codec can't decode byte 0x{hexByte b} in position {e.offset}: "
      ++ e.fault.message
  | bs => s!"'utf-8' codec can't decode bytes in position {e.offset}-{e.offset + bs.length - 1}: "
      ++ e.fault.message

/-- The first ill-formed piece, if there is one. -/
def firstFault (bytes : List UInt8) : Option DecodeFault :=
  (pieces 0 bytes).findSome? fun
    | (_, .char _ _) => none
    | (offset, .bad w fault) => some ⟨offset, (bytes.drop offset).take w, fault⟩

/-- Reads bytes as UTF-8, or reports the first place where they are not. -/
def decode (bytes : ByteArray) : Except DecodeFault String :=
  match String.fromUTF8? bytes with
  | some s => .ok s
  | none => .error ((firstFault bytes.toList).getD ⟨0, [], .badStart⟩)

/-- Reads bytes as UTF-8 with U+FFFD for every ill-formed piece. -/
def decodeLossyList (bytes : List UInt8) : String :=
  String.ofList <| (pieces 0 bytes).map fun
    | (_, .char c _) => c
    | (_, .bad _ _) => '\ufffd'

/-- Reads bytes as UTF-8 with U+FFFD for every ill-formed piece. -/
def decodeLossy (bytes : ByteArray) : String :=
  match String.fromUTF8? bytes with
  | some s => s
  | none => decodeLossyList bytes.toList

def encode (s : String) : ByteArray := s.toUTF8

end DomainAtlas.Text
