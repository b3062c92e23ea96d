/-! JSON values and their compact text. -/

namespace Fanout

inductive Json
  | null
  | bool (b : Bool)
  | integer (n : Int)
  | float (x : Float)
  | string (s : String)
  | array (items : List Json)
  | object (members : List (String × Json))
  deriving Inhabited

namespace Json

/-- A natural number as a value. -/
def nat (n : Nat) : Json :=
  .integer n

/-- The value of a member, the last one where a name is repeated. -/
def member? (name : String) : Json → Option Json
  | .object members => (members.reverse.find? (·.1 == name)).map (·.2)
  | _ => none

/-- The two lower-case hexadecimal digits of a control character. -/
def controlDigits (c : Char) : List Char :=
  [Nat.digitChar (c.toNat / 16), Nat.digitChar (c.toNat % 16)]

/-- How a character is written within a string. -/
def escapeChar (c : Char) : List Char :=
  if c = '"' then ['\\', '"']
  else if c = '\\' then ['\\', '\\']
  else if c = '\n' then ['\\', 'n']
  else if c = '\r' then ['\\', 'r']
  else if c = '\t' then ['\\', 't']
  else if c = '\x08' then ['\\', 'b']
  else if c = '\x0c' then ['\\', 'f']
  else if c < ' ' then '\\' :: 'u' :: '0' :: '0' :: controlDigits c
  else [c]

/-- A string in quotes. -/
def quote (s : String) : List Char :=
  '"' :: (s.toList.flatMap escapeChar ++ ['"'])

mutual

/-- The compact text of a value: members in their order, no blanks. A float has no text here. -/
def chars : Json → List Char
  | .null => ['n', 'u', 'l', 'l']
  | .bool true => ['t', 'r', 'u', 'e']
  | .bool false => ['f', 'a', 'l', 's', 'e']
  | .integer n => (toString n).toList
  | .float _ => ['n', 'u', 'l', 'l']
  | .string s => quote s
  | .array [] => ['[', ']']
  | .array (x :: xs) => '[' :: (chars x ++ itemChars xs)
  | .object [] => ['\x7b', '\x7d']
  | .object ((name, x) :: ms) => '\x7b' :: (quote name ++ ':' :: (chars x ++ memberChars ms))

/-- The rest of an array after its first item. -/
def itemChars : List Json → List Char
  | [] => [']']
  | x :: xs => ',' :: (chars x ++ itemChars xs)

/-- The rest of an object after its first member. -/
def memberChars : List (String × Json) → List Char
  | [] => ['\x7d']
  | (name, x) :: ms => ',' :: (quote name ++ ':' :: (chars x ++ memberChars ms))

end

/-- The compact text of a value. -/
def compact (v : Json) : String :=
  String.ofList v.chars

end Json

end Fanout
