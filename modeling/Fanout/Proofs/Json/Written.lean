import Mathlib.Tactic.SplitIfs
import Fanout.Json.Reader
import Fanout.Proofs.Number.Digits

/-!
What a value is written as can be scanned. A number, a string and the names of an object are found
again in front of whatever follows them in a compact text, so that a value whose parts can be scanned
can be scanned itself (`scanValue_object`).
-/

namespace Fanout.Json

/-- What may follow a value: nothing, a comma, a closing bracket or a blank. -/
def Ends (rest : List Char) : Prop :=
  ∀ c ∈ rest.head?, c = ',' ∨ c = ']' ∨ c = '\x7d' ∨ isBlank c = true

theorem ends_nil : Ends [] := by
  intro c hc
  cases hc

theorem ends_cons {c : Char} (hc : c = ',' ∨ c = ']' ∨ c = '\x7d' ∨ isBlank c = true)
    (rest : List Char) : Ends (c :: rest) := by
  intro d hd
  cases hd
  exact hc

theorem isBlank_iff {c : Char} : isBlank c = true ↔ c = ' ' ∨ c = '\n' ∨ c = '\t' ∨ c = '\r' := by
  simp [isBlank, or_assoc]

theorem Ends.cases {rest : List Char} (h : Ends rest) :
    rest = [] ∨ ∃ c tail, rest = c :: tail ∧
      (c = ',' ∨ c = ']' ∨ c = '\x7d' ∨ c = ' ' ∨ c = '\n' ∨ c = '\t' ∨ c = '\r') := by
  cases rest with
  | nil => exact .inl rfl
  | cons c tail =>
    have hc := h c rfl
    rw [isBlank_iff] at hc
    exact .inr ⟨c, tail, rfl, hc⟩

/-! ### Numbers -/

section Digits

variable {n : Nat} {rest : List Char}

theorem isDigit_of_mem_toDigits {c : Char} (h : c ∈ Nat.toDigits 10 n) : c.isDigit = true :=
  Nat.isDigit_of_mem_toDigits (by decide) (by decide) h

theorem Ends.not_isDigit (h : Ends rest) : rest.takeWhile Char.isDigit = [] := by
  rcases h.cases with rfl | ⟨c, tail, rfl, rfl | rfl | rfl | rfl | rfl | rfl | rfl⟩ <;> rfl

/-- Digits are split off in front of what does not begin with one. -/
theorem digitsOf_append {digits : List Char} (hdigits : ∀ c ∈ digits, c.isDigit = true)
    (h : rest.takeWhile Char.isDigit = []) : digitsOf (digits ++ rest) = (digits, rest) := by
  have hdrop : rest.dropWhile Char.isDigit = rest := by
    have hsplit := List.takeWhile_append_dropWhile (p := Char.isDigit) (l := rest)
    rwa [h] at hsplit
  rw [digitsOf, List.takeWhile_append_of_pos hdigits, List.dropWhile_append_of_pos hdigits, h, hdrop,
    List.append_nil]

theorem scanWhole_toDigits (h : Ends rest) :
    scanWhole (Nat.toDigits 10 n ++ rest) = some (Nat.toDigits 10 n, rest) := by
  rw [scanWhole, digitsOf_append (fun c => isDigit_of_mem_toDigits) h.not_isDigit]
  rcases Number.toDigits_zero_or_head (show 1 < 10 by decide) n with rfl | ⟨c, digits, heq, hc⟩
  · rfl
  · rw [heq]
    split
    next hnil => cases hnil
    next hzero => cases hzero; rfl
    next hzero => cases hzero; exact absurd rfl hc
    next hother => cases hother; rfl

theorem scanFraction_of_ends (h : Ends rest) : scanFraction rest = some (none, rest) := by
  rcases h.cases with rfl | ⟨c, tail, rfl, rfl | rfl | rfl | rfl | rfl | rfl | rfl⟩ <;> rfl

theorem scanExponent_of_ends (h : Ends rest) : scanExponent rest = some (none, rest) := by
  rcases h.cases with rfl | ⟨c, tail, rfl, rfl | rfl | rfl | rfl | rfl | rfl | rfl⟩ <;> rfl

theorem toDigits_eq_cons (n : Nat) :
    ∃ c digits, Nat.toDigits 10 n = c :: digits ∧ c.isDigit = true := by
  obtain ⟨c, digits, heq⟩ := List.exists_cons_of_ne_nil (Nat.toDigits_ne_nil (b := 10) (n := n))
  exact ⟨c, digits, heq, isDigit_of_mem_toDigits (by rw [heq]; exact List.mem_cons_self)⟩

theorem scanNumber_toDigits (h : Ends rest) :
    scanNumber (Nat.toDigits 10 n ++ rest) =
      some (⟨false, Nat.toDigits 10 n, [], true, false, []⟩, rest) := by
  obtain ⟨c, digits, heq, hc⟩ := toDigits_eq_cons n
  have hwhole := scanWhole_toDigits (n := n) h
  have hminus : c ≠ '-' := by
    rintro rfl
    cases hc
  rw [heq, List.cons_append] at hwhole ⊢
  simp [scanNumber, hminus, hwhole, scanFraction_of_ends h, scanExponent_of_ends h]

/-- A number of 64 bits is read exactly. -/
theorem scanNumberValue_toDigits (hn : n ≤ Number.maxWord) (h : Ends rest) :
    scanNumberValue (Nat.toDigits 10 n ++ rest) = some (.integer n, rest) := by
  simp [scanNumberValue, scanNumber_toDigits h, NumberText.value, Number.ofDigits_toDigits, hn]

end Digits

/-! ### Strings -/

/-- A control character is found again behind its four hexadecimal digits. -/
theorem scanString_controlDigits {c : Char} (hc : c < ' ') (text : List Char) :
    scanString .plain ('\\' :: 'u' :: '0' :: '0' :: (controlDigits c ++ text)) =
      (scanString .plain text).map fun (s, r) => (c :: s, r) := by
  have hsmall : c.toNat < 32 := hc
  have hzero : Number.hexValue? '0' = some 0 := rfl
  have hhigh := Number.hexValue?_digitChar (d := c.toNat / 16) (by omega)
  have hlow := Number.hexValue?_digitChar (d := c.toNat % 16) (by omega)
  have hsame : 16 * (c.toNat / 16) + c.toNat % 16 = c.toNat := Nat.div_add_mod _ _
  have hpair : isHigh c.toNat = false ∧ isLow c.toNat = false := by
    simp only [isHigh, isLow, Bool.and_eq_false_iff, decide_eq_false_iff_not]
    omega
  simp [scanString, simpleEscape, controlDigits, hzero, hhigh, hlow, hsame, hpair]

theorem scanString_escapeChar (c : Char) (text : List Char) :
    scanString .plain (escapeChar c ++ text) =
      (scanString .plain text).map fun (s, r) => (c :: s, r) := by
  unfold escapeChar
  split_ifs with h1 h2 h3 h4 h5 h6 h7 h8
  · subst h1; simp [scanString, simpleEscape]
  · subst h2; simp [scanString, simpleEscape]
  · subst h3; simp [scanString, simpleEscape]
  · subst h4; simp [scanString, simpleEscape]
  · subst h5; simp [scanString, simpleEscape]
  · subst h6; simp [scanString, simpleEscape]
  · subst h7; simp [scanString, simpleEscape]
  · exact scanString_controlDigits h8 text
  · simp [scanString, h1, h2, h8]

theorem scanString_escaped (s rest : List Char) :
    scanString .plain (s.flatMap escapeChar ++ '"' :: rest) = some (s, rest) := by
  induction s with
  | nil => rfl
  | cons c s ih =>
      rw [List.flatMap_cons, List.append_assoc, scanString_escapeChar, ih]
      rfl

theorem quote_append (s : String) (rest : List Char) :
    quote s ++ rest = '"' :: (s.toList.flatMap escapeChar ++ '"' :: rest) := by
  simp [quote]

/-- Every text is found again behind its opening quote. -/
theorem scanQuoted_quote (s : String) (rest : List Char) :
    scanQuoted (quote s ++ rest) = some (s, rest) := by
  rw [quote_append, scanQuoted, scanString_escaped]
  simp

/-! ### Values -/

/-- A value that is found again in front of anything that may follow it, within so many brackets. -/
def Scans (depth : Nat) (v : Json) : Prop :=
  ∀ rest, Ends rest → scanValue depth (v.chars ++ rest) = some (v, rest)

variable {depth : Nat}

theorem scans_null : Scans depth .null := by
  intro rest _
  unfold scanValue
  rfl

theorem scans_bool (b : Bool) : Scans depth (.bool b) := by
  intro rest _
  unfold scanValue
  cases b <;> rfl

theorem scans_string (s : String) : Scans depth (.string s) := by
  intro rest _
  unfold scanValue
  rw [chars, quote_append]
  simp [scanString_escaped]

theorem scans_nat {n : Nat} (hn : n ≤ Number.maxWord) : Scans depth (nat n) := by
  intro rest hrest
  have hchars : (nat n).chars = Nat.toDigits 10 n := Nat.toList_repr
  obtain ⟨c, digits, heq, hc⟩ := toDigits_eq_cons n
  have hvalue := scanNumberValue_toDigits hn hrest
  rw [hchars]
  rw [heq, List.cons_append] at hvalue ⊢
  unfold scanValue
  split
  next h => cases h; cases hc
  next h => cases h; cases hc
  next h => cases h; cases hc
  next h => cases h; cases hc
  next h => cases h; cases hc
  next h => cases h; cases hc
  next => exact hvalue

/-! ### Objects -/

theorem skipBlanks_cons {c : Char} (h : isBlank c = false) (rest : List Char) :
    skipBlanks (c :: rest) = c :: rest := by
  simp [skipBlanks, h]

theorem scanNumberValue_blank {c : Char} (hc : isBlank c = true) (tail : List Char) :
    scanNumberValue (c :: tail) = none := by
  rcases isBlank_iff.mp hc with rfl | rfl | rfl | rfl <;> rfl

/-- What can be scanned does not begin with a blank. -/
theorem skipBlanks_of_scanValue {text rest : List Char} {v : Json}
    (h : scanValue depth text = some (v, rest)) : skipBlanks text = text := by
  cases text with
  | nil => rfl
  | cons c tail =>
    cases hc : isBlank c with
    | false => exact skipBlanks_cons hc tail
    | true =>
      unfold scanValue at h
      split at h
      next heq => cases heq; cases hc
      next heq => cases heq; cases hc
      next heq => cases heq; cases hc
      next heq => cases heq; cases hc
      next heq => cases heq; cases hc
      next heq => cases heq; cases hc
      next => rw [scanNumberValue_blank hc] at h; cases h

/-- A member is found again in front of anything that may follow it. -/
theorem scanMember_chars {v : Json} (h : Scans depth v) (name : String) {rest : List Char}
    (hrest : Ends rest) :
    scanMember (scanValue depth) (quote name ++ ':' :: (v.chars ++ rest)) =
      some ((name, v), rest) := by
  have hvalue := h rest hrest
  rw [scanMember, scanQuoted_quote]
  simp [skipBlanks_cons (c := ':') rfl, skipBlanks_of_scanValue hvalue, hvalue]

theorem skipBlanks_quote (s : String) (rest : List Char) :
    skipBlanks (quote s ++ rest) = quote s ++ rest := by
  rw [quote_append]
  exact skipBlanks_cons rfl _

theorem ends_memberChars (ms : List (String × Json)) (rest : List Char) :
    Ends (memberChars ms ++ rest) := by
  rcases ms with _ | ⟨⟨name, v⟩, ms⟩
  · exact ends_cons (.inr (.inr (.inl rfl))) _
  · exact ends_cons (.inl rfl) _

/-- The members of an object are found again, one after the other. -/
theorem scanItems_members {ms : List (String × Json)} (hms : ∀ m ∈ ms, Scans depth m.2)
    (name : String) {v : Json} (hv : Scans depth v) {fuel : Nat} (hfuel : ms.length < fuel)
    (rest : List Char) :
    scanItems '\x7d' (scanMember (scanValue depth)) fuel
        (quote name ++ ':' :: (v.chars ++ (memberChars ms ++ rest))) =
      some ((name, v) :: ms, rest) := by
  obtain ⟨fuel, rfl⟩ : ∃ k, fuel = k + 1 := ⟨fuel - 1, by omega⟩
  rw [scanItems, scanMember_chars hv name (ends_memberChars ms rest)]
  induction ms generalizing name v fuel with
  | nil => simp [memberChars, skipBlanks_cons (c := '\x7d') rfl]
  | cons m ms ih =>
    obtain ⟨next, x⟩ := m
    have hx : Scans depth x := hms (next, x) List.mem_cons_self
    obtain ⟨fuel, rfl⟩ : ∃ k, fuel = k + 1 := ⟨fuel - 1, by simp at hfuel; omega⟩
    have hlater := ih (fun m hm => hms m (List.mem_cons_of_mem _ hm)) next hx fuel
      (by simpa using hfuel)
    simp [memberChars, skipBlanks_cons (c := ',') rfl, skipBlanks_quote, scanItems,
      scanMember_chars hx next (ends_memberChars ms rest), hlater]

theorem length_lt_memberChars (ms : List (String × Json)) :
    ms.length < (memberChars ms).length := by
  induction ms with
  | nil => simp [memberChars]
  | cons m ms ih =>
    obtain ⟨name, v⟩ := m
    simp only [memberChars, List.length_cons, List.length_append]
    omega

theorem scanSequence_quote {α : Type} (item : List Char → Option (α × List Char)) (name : String)
    (rest : List Char) :
    scanSequence '\x7d' item (quote name ++ rest) =
      scanItems '\x7d' item (quote name ++ rest).length (quote name ++ rest) := by
  rw [quote_append]
  rfl

/-- An object is found again if its values are, one bracket deeper. -/
theorem scans_object {ms : List (String × Json)} (hms : ∀ m ∈ ms, Scans depth m.2) :
    Scans (depth + 1) (.object ms) := by
  intro rest _
  unfold scanValue
  rcases ms with _ | ⟨⟨name, v⟩, ms⟩
  · rfl
  · have hlong := length_lt_memberChars ms
    have hfuel : ms.length <
        (quote name ++ ':' :: (v.chars ++ (memberChars ms ++ rest))).length := by
      simp only [List.length_append, List.length_cons]
      omega
    have hitems := scanItems_members (fun m hm => hms m (List.mem_cons_of_mem _ hm)) name
      (hms (name, v) List.mem_cons_self) hfuel rest
    rw [← scanSequence_quote] at hitems
    simp only [chars, List.cons_append, List.append_assoc, hitems, Option.map_some]

/-- The compact text of a value is read as that value. -/
theorem parse?_compact {v : Json} (h : Scans maxDepth v) : parse? v.compact.toList = some v := by
  have hvalue := h [] ends_nil
  rw [List.append_nil] at hvalue
  rw [parse?, compact, String.toList_ofList, skipBlanks_of_scanValue hvalue, hvalue]
  rfl

end Fanout.Json
