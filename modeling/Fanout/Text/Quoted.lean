import Fanout.Text.Hidden
import Fanout.Text.Utf8

/-! A text in quotes, with escapes for quotes, backslashes and characters that are not shown. -/

namespace Fanout.Text

/-- A code point between `\u{` and `}`. -/
def codeEscape (c : Char) : List Char :=
  ['\\', 'u', '\x7b'] ++ Nat.toDigits 16 c.toNat ++ ['\x7d']

/-- How a character is written within quotes. -/
def quotedChar (c : Char) : List Char :=
  if c = '\x00' then ['\\', '0']
  else if c = '\t' then ['\\', 't']
  else if c = '\n' then ['\\', 'n']
  else if c = '\r' then ['\\', 'r']
  else if c = '"' then ['\\', '"']
  else if c = '\\' then ['\\', '\\']
  else if isHidden c then codeEscape c
  else [c]

def quoted (s : String) : String :=
  String.ofList ('"' :: (s.toList.flatMap quotedChar ++ ['"']))

/-- A piece of a text from bytes within quotes. Here single quotes are escaped as well. -/
def quotedPiece : Piece → List Char
  | .char c => if c = '\'' then ['\\', '\''] else quotedChar c
  | .stray b =>
    '\\' :: 'x' :: (Nat.toDigits 16 (b.toNat / 16) ++ Nat.toDigits 16 (b.toNat % 16)).map Char.toUpper

/-- Bytes in quotes. -/
def quotedBytes (bytes : List UInt8) : String :=
  String.ofList ('"' :: ((pieces bytes).flatMap quotedPiece ++ ['"']))

end Fanout.Text
