import Fanout.Number.Digits

/-! Socket addresses: an IPv4 or IPv6 address with a port. Several texts name the same address; an
address is written in one canonical form. -/

namespace Fanout

inductive SocketAddress
  | v4 (octets : List Nat) (port : Nat)
  /-- Eight groups of sixteen bits, and the number of a zone or zero. -/
  | v6 (groups : List Nat) (zone port : Nat)
  deriving DecidableEq, Repr

namespace SocketAddress

/-- The length of the digits at the front of a text, in a base of at most sixteen. -/
def spanDigits (base : Nat) (text : List Char) : List Char × List Char :=
  text.span fun c => (Number.hexValue? c).any (· < base)

/-- Reads a number of at most `most` digits that does not exceed `bound`. -/
def scanNumeral (base : Nat) (most : Option Nat) (bound : Nat) (text : List Char) :
    Option (Nat × List Char) :=
  let (digits, rest) := spanDigits base text
  if most.all (digits.length ≤ ·) then
    match Number.ofDigits? base digits with
    | some n => if n ≤ bound then some (n, rest) else none
    | none => none
  else none

def scanChar (c : Char) : List Char → Option (List Char)
  | d :: rest => if c = d then some rest else none
  | [] => none

/-- One part of an IPv4 address: no zeros in front. -/
def scanOctet (text : List Char) : Option (Nat × List Char) :=
  match text with
  | '0' :: c :: _ => if c.isDigit then none else scanNumeral 10 (some 3) 255 text
  | _ => scanNumeral 10 (some 3) 255 text

def scanV4 (text : List Char) : Option (List Nat × List Char) := do
  let (a, text) ← scanOctet text
  let (b, text) ← scanOctet (← scanChar '.' text)
  let (c, text) ← scanOctet (← scanChar '.' text)
  let (d, text) ← scanOctet (← scanChar '.' text)
  some ([a, b, c, d], text)

def scanGroup (text : List Char) : Option (Nat × List Char) :=
  scanNumeral 16 (some 4) 0xFFFF text

/-- Groups that were read, whether the last two came from an IPv4 address, and what follows. -/
structure Groups where
  groups : List Nat
  endsInV4 : Bool
  rest : List Char

/-- Reads at most `limit` groups with colons between them; an IPv4 address may stand for the last
two. -/
def scanGroups (first : Bool) : Nat → List Char → Groups
  | 0, text => ⟨[], false, text⟩
  | limit + 1, text =>
    let start := if first then some text else scanChar ':' text
    let embedded := if 0 < limit then start.bind scanV4 else none
    match embedded with
    | some ([a, b, c, d], rest) => ⟨[256 * a + b, 256 * c + d], true, rest⟩
    | _ =>
      match start.bind scanGroup with
      | some (g, rest) =>
        let more := scanGroups false limit rest
        { more with groups := g :: more.groups }
      | none => ⟨[], false, text⟩

/-- Reads an IPv6 address; one double colon stands for at least one group of zeros. -/
def scanV6 (text : List Char) : Option (List Nat × List Char) :=
  let front := scanGroups true 8 text
  if front.groups.length = 8 then some (front.groups, front.rest)
  else if front.endsInV4 then none
  else do
    let rest ← scanChar ':' (← scanChar ':' front.rest)
    let back := scanGroups true (8 - (front.groups.length + 1)) rest
    let zeros := List.replicate (8 - front.groups.length - back.groups.length) 0
    some (front.groups ++ zeros ++ back.groups, back.rest)

/-- Reads a colon and a port. -/
def scanPort (text : List Char) : Option (Nat × List Char) := do
  scanNumeral 10 none 0xFFFF (← scanChar ':' text)

/-- Reads a percent sign and the number of a zone; zero where there is none. -/
def scanZone (text : List Char) : Option (Nat × List Char) :=
  match text with
  | '%' :: rest => scanNumeral 10 none 0xFFFFFFFF rest
  | _ => some (0, text)

def scanV4Address (text : List Char) : Option (SocketAddress × List Char) := do
  let (octets, text) ← scanV4 text
  let (port, text) ← scanPort text
  some (.v4 octets port, text)

def scanV6Address (text : List Char) : Option (SocketAddress × List Char) := do
  let (groups, text) ← scanV6 (← scanChar '[' text)
  let (zone, text) ← scanZone text
  let (port, text) ← scanPort (← scanChar ']' text)
  some (.v6 groups zone port, text)

/-- Reads an address that makes up the whole text. -/
def parse? (text : String) : Option SocketAddress :=
  match (scanV4Address text.toList).or (scanV6Address text.toList) with
  | some (address, []) => some address
  | _ => none

/-- What is said about a text that is no address. -/
def parseErrorMessage : String := "invalid socket address syntax"

/-! The canonical text. -/

def hexText (n : Nat) : String := String.ofList (Nat.toDigits 16 n)

def dotted (octets : List Nat) : String :=
  ".".intercalate (octets.map toString)

def colons (groups : List Nat) : String :=
  ":".intercalate (groups.map hexText)

/-- The length of the run of zeros at the front. -/
def zerosAtFront (groups : List Nat) : Nat :=
  (groups.takeWhile (· == 0)).length

/-- The first of the longest runs of zeros: where it begins and how long it is. -/
def longestZeros (groups : List Nat) : Nat × Nat :=
  (List.range groups.length).foldl (fun (start, length) i =>
    let here := zerosAtFront (groups.drop i)
    if length < here then (i, here) else (start, length)) (0, 0)

/-- The text of eight groups: an embedded IPv4 address is shown as such, and the longest run of at
least two zeros is left out. -/
def groupsText (groups : List Nat) : String :=
  match groups with
  | [0, 0, 0, 0, 0, 0xFFFF, a, b] =>
    "::ffff:" ++ dotted [a / 256, a % 256, b / 256, b % 256]
  | _ =>
    let (start, length) := longestZeros groups
    if 1 < length then colons (groups.take start) ++ "::" ++ colons (groups.drop (start + length))
    else colons groups

def display : SocketAddress → String
  | .v4 octets port => dotted octets ++ ":" ++ toString port
  | .v6 groups zone port =>
    "[" ++ groupsText groups ++ (if zone = 0 then "" else "%" ++ toString zone) ++ "]:"
      ++ toString port

end SocketAddress

end Fanout
