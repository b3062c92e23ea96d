import Fanout.Text.Blank
import Fanout.Text.Lines

/-! Failures of a run: single ones with a kind, a description and perhaps a detail and a cause, and
aggregates of several. Two failures are the same when their trees have the same shape and the same
kinds; descriptions, details, causes and the places where they were raised are not compared. -/

namespace Fanout

inductive FailureKind
  | configuration
  | invalidState
  | workerPanic
  | runtime
  | unknown
  deriving DecidableEq, Repr

/-- The name under which a kind is reported. -/
def FailureKind.label : FailureKind → String
  | .configuration => "ConfigError"
  | .invalidState => "InvalidState"
  | .workerPanic => "WorkerPanic"
  | .runtime => "RuntimeError"
  | .unknown => "Unknown"

/-- Where a failure was raised. -/
structure Origin where
  /-- The file and the line. -/
  place : String
  /-- The calls that led there, as they were recorded. -/
  backtrace : String
  deriving DecidableEq, Repr, Inhabited

/-- A single failure with its origin, or several with the place where they were put together. -/
inductive Failure
  | single (kind : FailureKind) (description : String) (detail : Option String)
      (cause : Option String) (origin : Origin)
  | many (parts : List Failure) (place : String)
  deriving Repr, Inhabited

namespace Failure

/-- Aggregates failures; a list of one stands for that one failure. -/
def ofList (parts : List Failure) (place : String) : Failure :=
  match parts with
  | [f] => f
  | fs => .many fs place

/-- Sets the cause of a single failure; an aggregate has none of its own. -/
def withCause (cause : String) : Failure → Failure
  | .single k d detail _ origin => .single k d detail (some cause) origin
  | .many parts place => .many parts place

mutual

/-- The kind that stands for the whole failure. -/
def kind : Failure → FailureKind
  | .single k _ _ _ _ => k
  | .many parts _ => kindOfFirst parts

def kindOfFirst : List Failure → FailureKind
  | [] => .unknown
  | f :: _ => kind f

end

mutual

/-- The kinds of all single failures, from left to right. -/
def kinds : Failure → List FailureKind
  | .single k _ _ _ _ => [k]
  | .many parts _ => kindsOfAll parts

def kindsOfAll : List Failure → List FailureKind
  | [] => []
  | f :: rest => kinds f ++ kindsOfAll rest

end

mutual

/-- The first detail found from left to right. -/
def detail? : Failure → Option String
  | .single _ _ d _ _ => d
  | .many parts _ => firstDetail parts

def firstDetail : List Failure → Option String
  | [] => none
  | f :: rest => (detail? f).or (firstDetail rest)

end

/-- Only a single failure records how it came about. -/
def hasBacktrace : Failure → Bool
  | .single .. => true
  | .many .. => false

mutual

/-- Same shape and same kinds at corresponding places. -/
def same : Failure → Failure → Bool
  | .single k _ _ _ _, .single k' _ _ _ _ => k = k'
  | .many parts _, .many parts' _ => sameAll parts parts'
  | _, _ => false

def sameAll : List Failure → List Failure → Bool
  | [], [] => true
  | f :: fs, g :: gs => same f g && sameAll fs gs
  | _, _ => false

end

/-- Each line on a line of its own, with `indent` before it. -/
def indented (indent : String) (ls : List String) : String :=
  String.join (ls.map fun line => "\n" ++ indent ++ line)

/-- A text below a header of its own. -/
def block (header text : String) : String :=
  "\n  " ++ header ++ ":" ++ indented "    " (Text.lines text)

/-- One numbered entry of an aggregate. -/
def entry (number : Nat) (ls : List String) : String :=
  "\n  " ++ toString number ++ ". " ++ ls.headD "" ++ indented "     " ls.tail

mutual

/-- The text of a failure. -/
def display : Failure → String
  | .single k description detail _ origin =>
    "[" ++ k.label ++ "] " ++ description ++ " @ " ++ origin.place
      ++ detail.elim "" (block "Detail")
      ++ (if Text.trim origin.backtrace = "" then "" else block "Backtrace" origin.backtrace)
  | .many parts place =>
    "[Many] " ++ toString parts.length ++ " error" ++ (if parts.length = 1 then "" else "s")
      ++ " aggregated @ " ++ place ++ displayEntries 1 parts

def displayEntries (number : Nat) : List Failure → String
  | [] => ""
  | f :: rest => entry number (Text.lines (display f)) ++ displayEntries (number + 1) rest

end

mutual

/-- The texts met by following the cause again and again; the cause of an aggregate is its first
part. -/
def causes : Failure → List String
  | .single _ _ _ cause _ => cause.toList
  | .many parts _ => causesOfFirst parts

def causesOfFirst : List Failure → List String
  | [] => []
  | f :: _ => display f :: causes f

end

end Failure

end Fanout
