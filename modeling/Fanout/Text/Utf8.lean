/-! Texts from bytes. A sequence of bytes that is no character leaves its bytes as they are. -/

namespace Fanout.Text

/-- A piece of a text that was read from bytes. -/
inductive Piece
  | char (c : Char)
  /-- A byte that is no part of a character. -/
  | stray (b : UInt8)
  deriving DecidableEq, Repr

/-- The six bits that a continuation byte carries. -/
def continuation? (b : UInt8) : Option Nat :=
  if 0x80 ≤ b && b < 0xC0 then some (b.toNat - 0x80) else none

/-- The character of a code point that is not below `least`, below which a shorter form exists. -/
def codePoint? (least code : Nat) : Option Char :=
  if least ≤ code && code.isValidChar then some (Char.ofNat code) else none

def twoBytes? (a b : UInt8) : Option Char :=
  if 0xC0 ≤ a && a < 0xE0 then do
    codePoint? 0x80 ((a.toNat - 0xC0) * 64 + (← continuation? b))
  else none

def threeBytes? (a b c : UInt8) : Option Char :=
  if 0xE0 ≤ a && a < 0xF0 then do
    codePoint? 0x800 (((a.toNat - 0xE0) * 64 + (← continuation? b)) * 64 + (← continuation? c))
  else none

def fourBytes? (a b c d : UInt8) : Option Char :=
  if 0xF0 ≤ a && a < 0xF8 then do
    codePoint? 0x10000
      ((((a.toNat - 0xF0) * 64 + (← continuation? b)) * 64 + (← continuation? c)) * 64
        + (← continuation? d))
  else none

/-- Reads bytes as characters where they are some. -/
def pieces : List UInt8 → List Piece
  | [] => []
  | a :: rest =>
    if a < 0x80 then .char (Char.ofNat a.toNat) :: pieces rest
    else match rest with
      | b :: c :: d :: rest4 =>
        match twoBytes? a b, threeBytes? a b c, fourBytes? a b c d with
        | some x, _, _ => .char x :: pieces (c :: d :: rest4)
        | _, some x, _ => .char x :: pieces (d :: rest4)
        | _, _, some x => .char x :: pieces rest4
        | _, _, _ => .stray a :: pieces (b :: c :: d :: rest4)
      | [b, c] =>
        match twoBytes? a b, threeBytes? a b c with
        | some x, _ => .char x :: pieces [c]
        | _, some x => [.char x]
        | _, _ => .stray a :: pieces [b, c]
      | [b] =>
        match twoBytes? a b with
        | some x => [.char x]
        | none => .stray a :: pieces [b]
      | [] => [.stray a]

/-- The text of bytes that are characters throughout. -/
def ofUtf8? (bytes : List UInt8) : Option String :=
  ((pieces bytes).mapM fun p => match p with
    | Piece.char c => some c
    | Piece.stray _ => none).map String.ofList

end Fanout.Text
