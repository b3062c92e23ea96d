import Mathlib.Data.List.DropRight
import Mathlib.Tactic.SplitIfs
import Fanout.Json.Skip
import Fanout.Proofs.Json.Written

/-!
The grammar of JSON texts, and what the scanners make of them. A value may be spelled in many ways, with
blanks between its tokens and with escapes in its strings. A string is read as what its escapes stand for
(`scanString_of_spells`), and passing over a value leaves what follows it, however deep its brackets nest
(`skipValue_of_value`).
-/

namespace Fanout.Json

variable {rest : List Char}

/-! ### Blanks -/

def AreBlanks (text : List Char) : Prop :=
  ∀ c ∈ text, isBlank c = true

theorem areBlanks_nil : AreBlanks [] :=
  List.forall_mem_nil _

theorem skipBlanks_append {blanks : List Char} (h : AreBlanks blanks) (text : List Char) :
    skipBlanks (blanks ++ text) = skipBlanks text :=
  List.dropWhile_append_of_pos h

theorem skipBlanks_idem (text : List Char) : skipBlanks (skipBlanks text) = skipBlanks text :=
  List.dropWhile_idempotent isBlank text

/-- Blanks in front of what may follow a value may follow it as well. -/
theorem Ends.blanks_append {blanks : List Char} (h : AreBlanks blanks) (hrest : Ends rest) :
    Ends (blanks ++ rest) := by
  cases blanks with
  | nil => exact hrest
  | cons c blanks => exact ends_cons (.inr (.inr (.inr (h c List.mem_cons_self)))) _

/-- A text that begins with a token, and not with one that separates values or ends an array. -/
def Begins (text : List Char) : Prop :=
  ∃ c tail, text = c :: tail ∧ isBlank c = false ∧ c ≠ ',' ∧ c ≠ ']'

theorem Begins.skipBlanks_append {text : List Char} (h : Begins text) (rest : List Char) :
    skipBlanks (text ++ rest) = text ++ rest := by
  obtain ⟨c, tail, rfl, hc, -, -⟩ := h
  exact skipBlanks_cons hc _

/-! ### Strings -/

/-- Four hexadecimal digits and their value. -/
inductive FourDigits : List Char → Nat → Prop
  | mk {a b c d : Char} {i j k l : Nat} (ha : Number.hexValue? a = some i)
    (hb : Number.hexValue? b = some j) (hc : Number.hexValue? c = some k)
    (hd : Number.hexValue? d = some l) :
    FourDigits [a, b, c, d] (16 * (16 * (16 * i + j) + k) + l)

/-- The inside of a string as it is written. Escapes are those of one letter and those of four digits. -/
inductive IsRaw : List Char → Prop
  | nil : IsRaw []
  | plain {c : Char} {raw : List Char} (hquote : c ≠ '"') (hescape : c ≠ '\\') (hcontrol : ¬ c < ' ')
    (h : IsRaw raw) : IsRaw (c :: raw)
  | escape {e c : Char} {raw : List Char} (hc : simpleEscape e = some c) (h : IsRaw raw) :
    IsRaw ('\\' :: e :: raw)
  | unicode {digits raw : List Char} {n : Nat} (hdigits : FourDigits digits n) (h : IsRaw raw) :
    IsRaw ('\\' :: 'u' :: (digits ++ raw))

/-- The inside of a string spells a text. The halves of a pair spell one character together. -/
inductive Spells : List Char → List Char → Prop
  | nil : Spells [] []
  | plain {c : Char} {raw s : List Char} (hquote : c ≠ '"') (hescape : c ≠ '\\') (hcontrol : ¬ c < ' ')
    (h : Spells raw s) : Spells (c :: raw) (c :: s)
  | escape {e c : Char} {raw s : List Char} (hc : simpleEscape e = some c) (h : Spells raw s) :
    Spells ('\\' :: e :: raw) (c :: s)
  | unicode {digits raw s : List Char} {n : Nat} (hdigits : FourDigits digits n)
    (hhigh : isHigh n = false) (hlow : isLow n = false) (h : Spells raw s) :
    Spells ('\\' :: 'u' :: (digits ++ raw)) (Char.ofNat n :: s)
  | pair {digits digits' raw s : List Char} {n m : Nat} (hdigits : FourDigits digits n)
    (hhigh : isHigh n = true) (hdigits' : FourDigits digits' m) (hlow : isLow m = true)
    (h : Spells raw s) :
    Spells ('\\' :: 'u' :: (digits ++ '\\' :: 'u' :: (digits' ++ raw)))
      (Char.ofNat (0x10000 + (n - 0xD800) * 0x400 + (m - 0xDC00)) :: s)

theorem Spells.isRaw {raw s : List Char} (h : Spells raw s) : IsRaw raw := by
  induction h with
  | nil => exact .nil
  | plain hquote hescape hcontrol _ ih => exact .plain hquote hescape hcontrol ih
  | escape hc _ ih => exact .escape hc ih
  | unicode hdigits _ _ _ ih => exact .unicode hdigits ih
  | pair hdigits _ hdigits' _ _ ih => exact .unicode hdigits (.unicode hdigits' ih)

/-- A text without quotes, backslashes and control characters spells itself. -/
theorem spells_self {s : List Char} (h : ∀ c ∈ s, c ≠ '"' ∧ c ≠ '\\' ∧ ¬ c < ' ') : Spells s s := by
  induction s with
  | nil => exact .nil
  | cons c s ih =>
    obtain ⟨hquote, hescape, hcontrol⟩ := h c List.mem_cons_self
    exact .plain hquote hescape hcontrol (ih fun d hd => h d (List.mem_cons_of_mem _ hd))

/-- No letter of a short escape begins a long one. -/
theorem simpleEscape_u : simpleEscape 'u' = none := rfl

theorem FourDigits.skip {digits : List Char} {n : Nat} (h : FourDigits digits n) (rest : List Char) :
    skipString (.hex 3) (digits ++ rest) = skipString .plain rest := by
  cases h with
  | mk ha hb hc hd => simp [skipString, ha, hb, hc, hd]

theorem FourDigits.scan {digits : List Char} {n : Nat} (h : FourDigits digits n) (rest : List Char) :
    scanString (.hex none 3 0) (digits ++ rest) =
      if isHigh n then scanString (.pairBackslash n) rest
      else if isLow n then none
      else (scanString .plain rest).map fun (s, r) => (Char.ofNat n :: s, r) := by
  cases h with
  | mk ha hb hc hd => simp [scanString, ha, hb, hc, hd]

theorem FourDigits.scan_second {digits : List Char} {n : Nat} (h : FourDigits digits n) (high : Nat)
    (rest : List Char) :
    scanString (.hex (some high) 3 0) (digits ++ rest) =
      if isLow n then
        (scanString .plain rest).map fun (s, r) =>
          (Char.ofNat (0x10000 + (high - 0xD800) * 0x400 + (n - 0xDC00)) :: s, r)
      else none := by
  cases h with
  | mk ha hb hc hd => simp [scanString, ha, hb, hc, hd]

theorem skipString_of_raw {raw : List Char} (h : IsRaw raw) (rest : List Char) :
    skipString .plain (raw ++ '"' :: rest) = some rest := by
  induction h with
  | nil => rfl
  | plain hquote hescape hcontrol _ ih => simpa [skipString, hquote, hescape, hcontrol] using ih
  | escape hc _ ih => simpa [skipString, hc] using ih
  | unicode hdigits _ ih => simpa [skipString, simpleEscape_u, hdigits.skip] using ih

theorem scanString_of_spells {raw s : List Char} (h : Spells raw s) (rest : List Char) :
    scanString .plain (raw ++ '"' :: rest) = some (s, rest) := by
  induction h with
  | nil => rfl
  | plain hquote hescape hcontrol _ ih => simp [scanString, hquote, hescape, hcontrol, ih]
  | escape hc _ ih => simp [scanString, hc, ih]
  | unicode hdigits hhigh hlow _ ih =>
    simp [scanString, simpleEscape_u, hdigits.scan, hhigh, hlow, ih]
  | pair hdigits hhigh hdigits' hlow _ ih =>
    simp [scanString, simpleEscape_u, hdigits.scan, hhigh, hdigits'.scan_second, hlow, ih]

/-! ### Numbers -/

def AreDigits (text : List Char) : Prop :=
  ∀ c ∈ text, c.isDigit = true

/-- The whole part of a number: one zero, or digits of which the first is another one. -/
inductive IsWhole : List Char → Prop
  | zero : IsWhole ['0']
  | digits {c : Char} {digits : List Char} (hc : c.isDigit = true) (hzero : c ≠ '0')
    (hdigits : AreDigits digits) : IsWhole (c :: digits)

/-- A fraction with its point, where there is one. -/
inductive IsFraction : List Char → Prop
  | none : IsFraction []
  | digits {digits : List Char} (hne : digits ≠ []) (hdigits : AreDigits digits) :
    IsFraction ('.' :: digits)

/-- An exponent with its letter and sign, where there is one. -/
inductive IsExponent : List Char → Prop
  | none : IsExponent []
  | digits {e : Char} {sign digits : List Char} (he : e = 'e' ∨ e = 'E')
    (hsign : sign = [] ∨ sign = ['+'] ∨ sign = ['-']) (hne : digits ≠ []) (hdigits : AreDigits digits) :
    IsExponent (e :: (sign ++ digits))

/-- A number as it is written, of whatever size. -/
def IsNumber (text : List Char) : Prop :=
  ∃ sign whole fraction exponent, (sign = [] ∨ sign = ['-']) ∧ IsWhole whole ∧ IsFraction fraction ∧
    IsExponent exponent ∧ text = sign ++ (whole ++ (fraction ++ exponent))

theorem AreDigits.digitsOf_append {digits : List Char} (h : AreDigits digits)
    (hrest : ∀ c ∈ rest.head?, c.isDigit = false) : digitsOf (digits ++ rest) = (digits, rest) := by
  refine Json.digitsOf_append h ?_
  cases rest with
  | nil => rfl
  | cons c rest => simp [hrest c rfl]

theorem scanExponent_of_exponent {exponent : List Char} (h : IsExponent exponent) (hrest : Ends rest) :
    ∃ found, scanExponent (exponent ++ rest) = some (found, rest) := by
  cases h with
  | none => exact ⟨none, scanExponent_of_ends hrest⟩
  | @digits e sign digits he hsign hne hdigits =>
    have hsplit : digitsOf (digits ++ rest) = (digits, rest) := digitsOf_append hdigits hrest.not_isDigit
    obtain ⟨d, digits, rfl⟩ := List.exists_cons_of_ne_nil hne
    have hd := hdigits d List.mem_cons_self
    have hplus : d ≠ '+' := by
      rintro rfl
      cases hd
    have hminus : d ≠ '-' := by
      rintro rfl
      cases hd
    rw [List.cons_append] at hsplit
    rcases hsign with rfl | rfl | rfl <;> simp [scanExponent, he, hplus, hminus, hsplit]

theorem scanFraction_of_fraction {fraction : List Char} (h : IsFraction fraction)
    (hdigit : ∀ c ∈ rest.head?, c.isDigit = false) (hpoint : ∀ c ∈ rest.head?, c ≠ '.') :
    ∃ found, scanFraction (fraction ++ rest) = some (found, rest) := by
  cases h with
  | none =>
    cases rest with
    | nil => exact ⟨none, rfl⟩
    | cons c rest => exact ⟨none, by simp [scanFraction, hpoint c rfl]⟩
  | digits hne hdigits =>
    have hsplit := hdigits.digitsOf_append hdigit
    obtain ⟨d, digits, rfl⟩ := List.exists_cons_of_ne_nil hne
    rw [List.cons_append] at hsplit
    exact ⟨some (d :: digits), by simp [scanFraction, hsplit]⟩

theorem scanWhole_of_whole {whole : List Char} (h : IsWhole whole)
    (hrest : ∀ c ∈ rest.head?, c.isDigit = false) :
    scanWhole (whole ++ rest) = some (whole, rest) := by
  cases h with
  | zero =>
    have hzero : AreDigits ['0'] := List.forall_mem_singleton.mpr rfl
    rw [scanWhole, hzero.digitsOf_append hrest]
    rfl
  | @digits c digits hc hzero hdigits =>
    have hall : AreDigits (c :: digits) := List.forall_mem_cons.mpr ⟨hc, hdigits⟩
    rw [scanWhole, hall.digitsOf_append hrest]
    split
    next hnil => cases hnil
    next hsame => cases hsame; exact absurd rfl hzero
    next hsame => cases hsame; exact absurd rfl hzero
    next hother => cases hother; rfl

theorem Ends.head? (h : Ends rest) : ∀ c ∈ rest.head?, c.isDigit = false ∧ c ≠ '.' := by
  rcases h.cases with rfl | ⟨c, tail, rfl, rfl | rfl | rfl | rfl | rfl | rfl | rfl⟩ <;> simp

/-- Neither a digit nor a point follows a fraction. -/
theorem IsExponent.head? {exponent : List Char} (h : IsExponent exponent) (hrest : Ends rest) :
    ∀ c ∈ (exponent ++ rest).head?, c.isDigit = false ∧ c ≠ '.' := by
  cases h with
  | none => exact hrest.head?
  | digits he => rcases he with rfl | rfl <;> simp

/-- No digit follows the whole part of a number. -/
theorem IsFraction.head? {fraction : List Char} (h : IsFraction fraction)
    (hrest : ∀ c ∈ rest.head?, c.isDigit = false) :
    ∀ c ∈ (fraction ++ rest).head?, c.isDigit = false := by
  cases h with
  | none => exact hrest
  | digits => simp

theorem IsWhole.head {whole : List Char} (h : IsWhole whole) :
    ∃ c tail, whole = c :: tail ∧ c.isDigit = true := by
  cases h with
  | zero => exact ⟨_, _, rfl, rfl⟩
  | digits hc => exact ⟨_, _, rfl, hc⟩

theorem scanNumber_of_number {number : List Char} (h : IsNumber number) (hrest : Ends rest) :
    ∃ written, scanNumber (number ++ rest) = some (written, rest) := by
  obtain ⟨sign, whole, fraction, exponent, hsign, hwhole, hfraction, hexponent, rfl⟩ := h
  have hafter := hexponent.head? hrest
  obtain ⟨places, hplaces⟩ := scanFraction_of_fraction hfraction (fun c hc => (hafter c hc).1)
    fun c hc => (hafter c hc).2
  obtain ⟨power, hpower⟩ := scanExponent_of_exponent hexponent hrest
  have hdigits := scanWhole_of_whole hwhole (hfraction.head? fun c hc => (hafter c hc).1)
  obtain ⟨c, tail, rfl, hc⟩ := hwhole.head
  have hminus : c ≠ '-' := by
    rintro rfl
    cases hc
  rw [List.cons_append] at hdigits
  rcases hsign with rfl | rfl <;>
    simp [scanNumber, hminus, hdigits, hplaces, hpower]

/-- A number begins with a minus sign or a digit. -/
theorem IsNumber.head {number : List Char} (h : IsNumber number) :
    ∃ c tail, number = c :: tail ∧ (c = '-' ∨ c.isDigit = true) := by
  obtain ⟨sign, whole, _, _, hsign, hwhole, -, -, rfl⟩ := h
  rcases hsign with rfl | rfl
  · obtain ⟨c, tail, rfl, hc⟩ := hwhole.head
    exact ⟨c, _, rfl, .inr hc⟩
  · exact ⟨'-', _, rfl, .inl rfl⟩

/-! ### Brackets -/

/-- What stands before a value within brackets: nothing in an array, a name and a colon in an object. -/
def IsLabel : Bool → List Char → Prop
  | false, label => label = []
  | true, label => ∃ raw blanks, IsRaw raw ∧ AreBlanks blanks ∧
    label = '"' :: (raw ++ '"' :: (blanks ++ [':']))

/-- A value within brackets, with blanks around it and around its label. -/
structure Part (isObject : Bool) where
  before : List Char
  label : List Char
  between : List Char
  value : List Char
  after : List Char
  before_blanks : AreBlanks before
  isLabel : IsLabel isObject label
  between_blanks : AreBlanks between
  after_blanks : AreBlanks after

variable {isObject : Bool}

def Part.text (p : Part isObject) : List Char :=
  p.before ++ (p.label ++ (p.between ++ (p.value ++ p.after)))

/-- What separates a value from the one before it. -/
def separator (isFirst : Bool) : List Char :=
  if isFirst then [] else [',']

/-- Values within brackets, one after the other. -/
def partsText : Bool → List (Part isObject) → List Char
  | _, [] => []
  | isFirst, p :: parts => separator isFirst ++ (p.text ++ partsText false parts)

def opening (isObject : Bool) : Char :=
  if isObject then '\x7b' else '['

def closing (isObject : Bool) : Char :=
  if isObject then '\x7d' else ']'

/-- An array or an object as it is written. -/
structure Bracketed (isObject : Bool) where
  parts : List (Part isObject)
  /-- Blanks before the closing bracket, which alone stand between the brackets if there is no value. -/
  gap : List Char
  gap_blanks : AreBlanks gap

def Bracketed.text (b : Bracketed isObject) : List Char :=
  opening isObject :: (partsText true b.parts ++ (b.gap ++ [closing isObject]))

/-- The text of a value, of whatever kind. -/
inductive IsValue : List Char → Prop
  | word {word : List Char}
    (h : word = ['n', 'u', 'l', 'l'] ∨ word = ['t', 'r', 'u', 'e'] ∨ word = ['f', 'a', 'l', 's', 'e']) :
    IsValue word
  | number {number : List Char} (h : IsNumber number) : IsValue number
  | string {raw : List Char} (h : IsRaw raw) : IsValue ('"' :: (raw ++ ['"']))
  | bracketed {isObject : Bool} (b : Bracketed isObject) (h : ∀ p ∈ b.parts, IsValue p.value) :
    IsValue b.text

/-! ### Passing over a value -/

theorem skipAtom_number {c : Char} (hc : c = '-' ∨ c.isDigit = true) (tail : List Char) :
    skipAtom (c :: tail) = (scanNumber (c :: tail)).map (·.2) := by
  unfold skipAtom
  split
  next heq => cases heq; simp at hc
  next heq => cases heq; simp at hc
  next heq => cases heq; simp at hc
  next heq => cases heq; simp at hc
  next => rfl

/-- A text that is passed over like a value, in at most two rounds for each of its characters. -/
structure IsPassed (text : List Char) : Prop where
  begins : Begins text
  skips : ∃ rounds ≤ 2 * text.length, ∀ {fuel pending rest}, Ends rest →
    skipWithin (fuel + rounds) .value pending (text ++ rest) = skipWithin fuel .commaOrClose pending rest

theorem isPassed_of_atom {c : Char} {tail : List Char} (hblank : isBlank c = false)
    (hcomma : c ≠ ',') (hclose : c ≠ ']') (harray : c ≠ '[') (hobject : c ≠ '\x7b')
    (h : ∀ {rest}, Ends rest → skipAtom (c :: tail ++ rest) = some rest) : IsPassed (c :: tail) where
  begins := ⟨c, tail, rfl, hblank, hcomma, hclose⟩
  skips := by
    refine ⟨1, by simp; omega, fun {fuel pending rest} hrest => ?_⟩
    have hatom := h hrest
    rw [List.cons_append] at hatom ⊢
    rw [skipWithin, skipBlanks_cons hblank]
    split
    next heq => cases heq; exact absurd rfl harray
    next heq => cases heq; exact absurd rfl hobject
    next => rw [hatom, Option.bind_some]

/-- What is expected where a value within brackets or the closing bracket may stand. -/
def nextTask (isFirst : Bool) : SkipTask :=
  if isFirst then .valueOrClose else .commaOrClose

theorem skipWithin_skipBlanks (fuel : Nat) (pending : List Bool) (text : List Char) :
    skipWithin fuel .value pending (skipBlanks text) = skipWithin fuel .value pending text := by
  cases fuel with
  | zero => rfl
  | succ fuel => rw [skipWithin, skipWithin, skipBlanks_idem]

theorem skipWithin_commaOrClose {blanks : List Char} (h : AreBlanks blanks) (fuel : Nat)
    (pending : List Bool) (text : List Char) :
    skipWithin fuel .commaOrClose (isObject :: pending) (blanks ++ text) =
      skipWithin fuel .commaOrClose (isObject :: pending) text := by
  cases fuel with
  | zero => rfl
  | succ fuel => rw [skipWithin, skipWithin, skipBlanks_append h]

theorem skipName_skipBlanks (text : List Char) : skipName (skipBlanks text) = skipName text := by
  rw [skipName, skipName, skipBlanks_idem]

theorem Part.skipBlanks_array (p : Part false) (hvalue : Begins p.value) (rest : List Char) :
    skipBlanks (p.text ++ rest) = p.value ++ (p.after ++ rest) := by
  have hlabel : p.label = [] := p.isLabel
  simp only [Part.text, hlabel, List.nil_append, List.append_assoc, skipBlanks_append p.before_blanks,
    skipBlanks_append p.between_blanks, hvalue.skipBlanks_append]

theorem Part.skipBlanks_object (p : Part true) (rest : List Char) :
    ∃ tail, skipBlanks (p.text ++ rest) = '"' :: tail := by
  obtain ⟨raw, blanks, -, -, hlabel⟩ := p.isLabel
  exact ⟨_, by rw [Part.text, hlabel, List.append_assoc, skipBlanks_append p.before_blanks]; rfl⟩

theorem Part.skipName (p : Part true) (rest : List Char) :
    skipName (p.text ++ rest) = some (p.between ++ (p.value ++ (p.after ++ rest))) := by
  obtain ⟨raw, blanks, hraw, hblanks, hlabel⟩ := p.isLabel
  have hstring := skipString_of_raw hraw (blanks ++ ':' :: (p.between ++ (p.value ++ (p.after ++ rest))))
  simp only [Json.skipName, Part.text, hlabel, List.append_assoc, List.cons_append, List.nil_append,
    skipBlanks_append p.before_blanks, skipBlanks_cons (c := '"') rfl, hstring, Option.map_some,
    skipBlanks_append hblanks, skipBlanks_cons (c := ':') rfl]

theorem Part.skipBlanks_between (p : Part isObject) (hvalue : Begins p.value) (rest : List Char) :
    skipBlanks (p.between ++ (p.value ++ rest)) = p.value ++ rest := by
  rw [skipBlanks_append p.between_blanks, hvalue.skipBlanks_append]

theorem Part.skipWithin_array (p : Part false) (hvalue : Begins p.value) (isFirst : Bool) (fuel : Nat)
    (pending : List Bool) (rest : List Char) :
    skipWithin (fuel + 1) (nextTask isFirst) (false :: pending) (separator isFirst ++ (p.text ++ rest)) =
      skipWithin fuel .value (false :: pending) (p.value ++ (p.after ++ rest)) := by
  have hskip := p.skipBlanks_array hvalue rest
  cases isFirst with
  | false =>
    change Json.skipWithin (fuel + 1) .commaOrClose _ (',' :: (p.text ++ rest)) = _
    rw [Json.skipWithin, skipBlanks_cons rfl, ← hskip, skipWithin_skipBlanks]
    rfl
  | true =>
    change Json.skipWithin (fuel + 1) .valueOrClose _ (p.text ++ rest) = _
    obtain ⟨c, tail, hhead, -, -, hclose⟩ := hvalue
    conv_lhs => unfold Json.skipWithin
    rw [hskip, hhead]
    split
    next hpending _ => cases hpending
    next hpending _ => cases hpending
    next heq => cases heq; exact absurd rfl hclose
    next => rfl

theorem Part.skipWithin_object (p : Part true) (hvalue : Begins p.value) (isFirst : Bool) (fuel : Nat)
    (pending : List Bool) (rest : List Char) :
    skipWithin (fuel + 1) (nextTask isFirst) (true :: pending) (separator isFirst ++ (p.text ++ rest)) =
      skipWithin fuel .value (true :: pending) (p.value ++ (p.after ++ rest)) := by
  have hname := p.skipName rest
  have hbetween := p.skipBlanks_between hvalue (p.after ++ rest)
  cases isFirst with
  | false =>
    change Json.skipWithin (fuel + 1) .commaOrClose _ (',' :: (p.text ++ rest)) = _
    rw [Json.skipWithin, skipBlanks_cons rfl]
    simp only [if_true]
    rw [hname, Option.bind_some, ← skipWithin_skipBlanks, hbetween]
  | true =>
    change Json.skipWithin (fuel + 1) .valueOrClose _ (p.text ++ rest) = _
    obtain ⟨tail, hhead⟩ := p.skipBlanks_object rest
    rw [← skipName_skipBlanks, hhead] at hname
    conv_lhs => unfold Json.skipWithin
    rw [hhead]
    change (Json.skipName ('"' :: tail)).bind _ = _
    rw [hname, Option.bind_some, ← skipWithin_skipBlanks, hbetween]

/-- The way to a value within brackets takes one round. -/
theorem Part.skipWithin (p : Part isObject) (hvalue : Begins p.value) (isFirst : Bool) (fuel : Nat)
    (pending : List Bool) (rest : List Char) :
    skipWithin (fuel + 1) (nextTask isFirst) (isObject :: pending)
        (separator isFirst ++ (p.text ++ rest)) =
      skipWithin fuel .value (isObject :: pending) (p.value ++ (p.after ++ rest)) := by
  cases isObject with
  | false => exact p.skipWithin_array hvalue isFirst fuel pending rest
  | true => exact p.skipWithin_object hvalue isFirst fuel pending rest

/-- The closing bracket takes one round, with the blanks before it. -/
theorem skipWithin_closing {gap : List Char} (hgap : AreBlanks gap) (isFirst : Bool) (fuel : Nat)
    (pending : List Bool) (rest : List Char) :
    skipWithin (fuel + 1) (nextTask isFirst) (isObject :: pending) (gap ++ closing isObject :: rest) =
      skipWithin fuel .commaOrClose pending rest := by
  have hskip : skipBlanks (gap ++ closing isObject :: rest) = closing isObject :: rest := by
    rw [skipBlanks_append hgap]
    exact skipBlanks_cons (by cases isObject <;> rfl) rest
  cases isFirst <;> cases isObject <;>
    (simp only [nextTask, Bool.false_eq_true, if_false, if_true, skipWithin, hskip]; rfl)

theorem partsText_cons_append (isFirst : Bool) (p : Part isObject) (parts : List (Part isObject))
    (rest : List Char) :
    partsText isFirst (p :: parts) ++ rest =
      separator isFirst ++ (p.text ++ (partsText false parts ++ rest)) := by
  simp [partsText]

theorem ends_partsText (parts : List (Part isObject)) (hrest : Ends rest) :
    Ends (partsText false parts ++ rest) := by
  cases parts with
  | nil => exact hrest
  | cons p parts => exact ends_cons (.inl rfl) _

theorem ends_closing (isObject : Bool) {gap : List Char} (hgap : AreBlanks gap) (rest : List Char) :
    Ends (gap ++ closing isObject :: rest) :=
  Ends.blanks_append hgap (ends_cons (by cases isObject <;> simp [closing]) rest)

/-- The values within brackets are passed over one after the other, and the closing bracket after them. -/
theorem skipWithin_parts {parts : List (Part isObject)} (hparts : ∀ p ∈ parts, IsPassed p.value)
    {gap : List Char} (hgap : AreBlanks gap) (isFirst : Bool) :
    ∃ rounds ≤ 2 * (partsText isFirst parts).length + isFirst.toNat + 1, ∀ fuel pending rest,
      skipWithin (fuel + rounds) (nextTask isFirst) (isObject :: pending)
          (partsText isFirst parts ++ (gap ++ closing isObject :: rest)) =
        skipWithin fuel .commaOrClose pending rest := by
  induction parts generalizing isFirst with
  | nil => exact ⟨1, by omega, fun fuel pending rest => skipWithin_closing hgap isFirst fuel pending rest⟩
  | cons p parts ih =>
    obtain ⟨hbegins, value, hvalue, hskips⟩ := hparts p List.mem_cons_self
    obtain ⟨later, hlater, hothers⟩ := ih (fun q hq => hparts q (List.mem_cons_of_mem _ hq)) false
    refine ⟨later + value + 1, ?_, fun fuel pending rest => ?_⟩
    · cases isFirst <;>
        simp only [partsText, separator, Part.text, List.length_append, Bool.toNat_false,
          Bool.toNat_true, List.length_cons, List.length_nil, Bool.false_eq_true, if_false, if_true]
          at hlater ⊢ <;>
        omega
    · have hends : Ends (p.after ++ (partsText false parts ++ (gap ++ closing isObject :: rest))) :=
        Ends.blanks_append p.after_blanks (ends_partsText parts (ends_closing isObject hgap rest))
      have hrounds : fuel + (later + value + 1) = fuel + later + value + 1 := by omega
      calc
        _ = skipWithin (fuel + later + value) .value (isObject :: pending)
            (p.value ++ (p.after ++ (partsText false parts ++ (gap ++ closing isObject :: rest)))) := by
          rw [hrounds, partsText_cons_append, p.skipWithin hbegins]
        _ = skipWithin (fuel + later) .commaOrClose (isObject :: pending)
            (p.after ++ (partsText false parts ++ (gap ++ closing isObject :: rest))) := hskips hends
        _ = skipWithin (fuel + later) .commaOrClose (isObject :: pending)
            (partsText false parts ++ (gap ++ closing isObject :: rest)) :=
          skipWithin_commaOrClose p.after_blanks ..
        _ = skipWithin fuel .commaOrClose pending rest := hothers fuel pending rest

theorem isPassed_bracketed (b : Bracketed isObject) (h : ∀ p ∈ b.parts, IsPassed p.value) :
    IsPassed b.text where
  begins := ⟨opening isObject, _, rfl, by cases isObject <;> decide⟩
  skips := by
    obtain ⟨rounds, hrounds, hskips⟩ := skipWithin_parts h b.gap_blanks true
    refine ⟨rounds + 1, ?_, fun {fuel pending rest} _ => ?_⟩
    · simp only [Bracketed.text, List.length_cons, List.length_append, Bool.toNat_true] at hrounds ⊢
      omega
    · have hopen : skipBlanks (b.text ++ rest) = opening isObject ::
          (partsText true b.parts ++ (b.gap ++ closing isObject :: rest)) := by
        rw [Bracketed.text, List.cons_append, skipBlanks_cons (by cases isObject <;> rfl)]
        simp
      rw [← hskips fuel pending rest, ← Nat.add_assoc, skipWithin, hopen]
      cases isObject <;> rfl

/-- Every value is passed over, by induction on its brackets. -/
theorem IsValue.isPassed {text : List Char} (h : IsValue text) : IsPassed text := by
  induction h with
  | word h =>
    rcases h with rfl | rfl | rfl <;>
      exact isPassed_of_atom (by decide) (by decide) (by decide) (by decide) (by decide) fun _ => rfl
  | number h =>
    obtain ⟨c, tail, rfl, hc⟩ := h.head
    have hother : ∀ d : Char, (d ≠ '-' ∧ d.isDigit = false) → c ≠ d := by
      rintro d ⟨hminus, hdigit⟩ rfl
      rcases hc with rfl | hc
      · exact hminus rfl
      · exact Bool.false_ne_true (hdigit.symm.trans hc)
    have hblank : isBlank c = false := Bool.eq_false_iff.mpr fun hblank => by
      rcases isBlank_iff.mp hblank with rfl | rfl | rfl | rfl <;> exact hother _ (by decide) rfl
    refine isPassed_of_atom hblank (hother _ (by decide)) (hother _ (by decide)) (hother _ (by decide))
      (hother _ (by decide)) fun hrest => ?_
    obtain ⟨written, hwritten⟩ := scanNumber_of_number h hrest
    rw [List.cons_append] at hwritten ⊢
    rw [skipAtom_number hc, hwritten]
    rfl
  | string h =>
    refine isPassed_of_atom (by decide) (by decide) (by decide) (by decide) (by decide) fun {rest} _ => ?_
    have hstring := skipString_of_raw h rest
    simpa [skipAtom] using hstring
  | bracketed b _ ih => exact isPassed_bracketed b ih

/-- Passing over a value leaves what follows it. -/
theorem skipValue_of_value {blanks text : List Char} (hblanks : AreBlanks blanks) (h : IsValue text)
    (hrest : Ends rest) : skipValue (blanks ++ (text ++ rest)) = some rest := by
  obtain ⟨-, rounds, hrounds, hskips⟩ := h.isPassed
  obtain ⟨fuel, hfuel⟩ : ∃ fuel, 2 * (blanks ++ (text ++ rest)).length + 2 = fuel + 1 + rounds :=
    ⟨2 * (blanks ++ (text ++ rest)).length + 1 - rounds, by simp only [List.length_append]; omega⟩
  rw [skipValue, hfuel, ← skipWithin_skipBlanks, skipBlanks_append hblanks, skipWithin_skipBlanks,
    hskips hrest]
  rfl

end Fanout.Json
