import Fanout.Number.Digits

/-!
The digits of a number read back as the number, in any base of at most sixteen, and none is in front
that need not be there.
-/

namespace Fanout.Number

theorem hexValue?_digitChar {d : Nat} (h : d < 16) : hexValue? d.digitChar = some d := by
  have hall : ∀ e < 16, hexValue? (Nat.digitChar e) = some e := by decide
  exact hall d h

theorem digitValue_digitChar {d : Nat} (h : d < 10) : digitValue d.digitChar = d := by
  have hall : ∀ e < 10, digitValue (Nat.digitChar e) = e := by decide
  exact hall d h

/-- A digit of a base. -/
def isDigitOf (base : Nat) (c : Char) : Bool :=
  (hexValue? c).any (· < base)

theorem isDigitOf_digitChar {base d : Nat} (hbase : base ≤ 16) (h : d < base) :
    isDigitOf base d.digitChar = true := by
  simp [isDigitOf, hexValue?_digitChar (Nat.lt_of_lt_of_le h hbase), h]

theorem isDigitOf_of_mem {base n : Nat} {c : Char} (hpos : 1 < base) (hbase : base ≤ 16)
    (h : c ∈ Nat.toDigits base n) : isDigitOf base c = true := by
  induction n using Nat.strongRecOn with
  | ind n ih =>
    rw [Nat.toDigits_eq_if hpos] at h
    split at h
    next hlt =>
      rw [List.mem_singleton] at h
      exact h ▸ isDigitOf_digitChar hbase hlt
    next hle =>
      rcases List.mem_append.mp h with hfront | hlast
      · exact ih _ (Nat.div_lt_self (by omega) hpos) hfront
      · rw [List.mem_singleton] at hlast
        exact hlast ▸ isDigitOf_digitChar hbase (Nat.mod_lt _ (by omega))

/-- One digit more in `ofDigits?`. -/
def extend? (base : Nat) (n? : Option Nat) (c : Char) : Option Nat :=
  match n?, hexValue? c with
  | some n, some d => if d < base then some (base * n + d) else none
  | _, _ => none

theorem ofDigits?_eq (base : Nat) {digits : List Char} (h : digits ≠ []) :
    ofDigits? base digits = digits.foldl (extend? base) (some 0) := by
  rw [ofDigits?, if_neg h]
  rfl

theorem extend?_digitChar {base n d : Nat} (hbase : base ≤ 16) (h : d < base) :
    extend? base (some n) d.digitChar = some (base * n + d) := by
  simp [extend?, hexValue?_digitChar (Nat.lt_of_lt_of_le h hbase), h]

theorem ofDigits?_toDigits {base : Nat} (hpos : 1 < base) (hbase : base ≤ 16) (n : Nat) :
    ofDigits? base (Nat.toDigits base n) = some n := by
  rw [ofDigits?_eq base Nat.toDigits_ne_nil]
  induction n using Nat.strongRecOn with
  | ind n ih =>
    rw [Nat.toDigits_eq_if hpos]
    split
    next hlt => simp [extend?_digitChar hbase hlt]
    next hle =>
      rw [List.foldl_append, ih _ (Nat.div_lt_self (by omega) hpos), List.foldl_cons, List.foldl_nil,
        extend?_digitChar hbase (Nat.mod_lt _ (by omega)), Nat.div_add_mod]

theorem ofDigits_toDigits (n : Nat) : ofDigits (Nat.toDigits 10 n) = n := by
  unfold ofDigits
  induction n using Nat.strongRecOn with
  | ind n ih =>
    rw [Nat.toDigits_eq_if (by decide)]
    split
    next hlt => simp [digitValue_digitChar hlt]
    next hle =>
      rw [List.foldl_append, ih _ (Nat.div_lt_self (by omega) (by decide)), List.foldl_cons,
        List.foldl_nil, digitValue_digitChar (Nat.mod_lt _ (by decide)), Nat.div_add_mod]

/-- Only zero begins with a zero. -/
theorem toDigits_zero_or_head {base : Nat} (hpos : 1 < base) (n : Nat) :
    n = 0 ∨ ∃ c rest, Nat.toDigits base n = c :: rest ∧ c ≠ '0' := by
  induction n using Nat.strongRecOn with
  | ind n ih =>
    rw [Nat.toDigits_eq_if hpos]
    split
    next hlt =>
      by_cases hzero : n = 0
      · exact .inl hzero
      · exact .inr ⟨_, [], rfl, by simpa using hzero⟩
    next hle =>
      rcases ih _ (Nat.div_lt_self (by omega) hpos) with hzero | ⟨c, rest, heq, hc⟩
      · rcases Nat.div_eq_zero_iff.mp hzero with h | h <;> omega
      · exact .inr ⟨c, rest ++ [(n % base).digitChar], by rw [heq]; rfl, hc⟩

end Fanout.Number
