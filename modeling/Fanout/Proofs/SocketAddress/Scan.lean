import Mathlib.Data.List.TakeDrop
import Mathlib.Data.List.TakeWhile
import Fanout.SocketAddress
import Fanout.Proofs.Number.Digits

/-!
The parts of an address text are read as they are written. A numeral ends where its digits end, an
octet is never taken for the beginning of a group, and groups are read up to a double colon or to the
end of the address (`scanGroups_colons`).
-/

namespace Fanout.SocketAddress

open Number (isDigitOf)

/-! ### Numerals -/

theorem spanDigits_eq (base : Nat) (text : List Char) :
    spanDigits base text = (text.takeWhile (isDigitOf base), text.dropWhile (isDigitOf base)) :=
  List.span_eq_takeWhile_dropWhile _ text

/-- A text that does not go on with a digit. -/
def NoDigit (base : Nat) (text : List Char) : Prop :=
  ∀ c ∈ text.head?, isDigitOf base c = false

theorem noDigit_nil (base : Nat) : NoDigit base [] := by
  intro c hc
  cases hc

theorem noDigit_cons {base : Nat} {c : Char} (h : isDigitOf base c = false) (text : List Char) :
    NoDigit base (c :: text) := by
  intro d hd
  cases hd
  exact h

theorem NoDigit.takeWhile {base : Nat} {text : List Char} (h : NoDigit base text) :
    text.takeWhile (isDigitOf base) = [] := by
  cases text with
  | nil => rfl
  | cons c text => simp [h c rfl]

theorem NoDigit.dropWhile {base : Nat} {text : List Char} (h : NoDigit base text) :
    text.dropWhile (isDigitOf base) = text := by
  cases text with
  | nil => rfl
  | cons c text => simp [h c rfl]

section Numeral

variable {base n bound : Nat} {most : Option Nat} {rest : List Char}

/-- A numeral is read up to the end of its digits. -/
theorem scanNumeral_toDigits (hpos : 1 < base) (hbase : base ≤ 16) (hn : n ≤ bound)
    (hmost : ∀ m ∈ most, (Nat.toDigits base n).length ≤ m) (hrest : NoDigit base rest) :
    scanNumeral base most bound (Nat.toDigits base n ++ rest) = some (n, rest) := by
  have hdigits : ∀ c ∈ Nat.toDigits base n, isDigitOf base c = true :=
    fun c hc => Number.isDigitOf_of_mem hpos hbase hc
  have hlength : (most.all fun m => decide ((Nat.toDigits base n).length ≤ m)) = true := by
    cases most with
    | none => rfl
    | some m => simpa using hmost m rfl
  rw [scanNumeral, spanDigits_eq, List.takeWhile_append_of_pos hdigits,
    List.dropWhile_append_of_pos hdigits, hrest.takeWhile, hrest.dropWhile, List.append_nil]
  simp [hlength, Number.ofDigits?_toDigits hpos hbase, hn]

theorem scanNumeral_of_noDigit {text : List Char} (h : NoDigit base text) :
    scanNumeral base most bound text = none := by
  rw [scanNumeral, spanDigits_eq, h.takeWhile]
  simp [Number.ofDigits?]

/-- A number that was read is within its bound, and all its digits were read. -/
theorem of_scanNumeral {text : List Char} (h : scanNumeral base most bound text = some (n, rest)) :
    n ≤ bound ∧ rest = text.dropWhile (isDigitOf base) := by
  rw [scanNumeral, spanDigits_eq] at h
  dsimp only at h
  split at h
  · split at h
    · split at h
      · cases h
        exact ⟨by assumption, rfl⟩
      · cases h
    · cases h
  · cases h

end Numeral

/-! ### IPv4 addresses -/

theorem isDigitOf_of_isDigit {c : Char} (h : isDigitOf 10 c = false) : c.isDigit = false := by
  by_contra hdigit
  rw [Bool.not_eq_false] at hdigit
  have hvalue : c.toNat - '0'.toNat < 10 := by
    have hle : c.toNat ≤ '9'.toNat := by
      simp only [Char.isDigit, Bool.and_eq_true, decide_eq_true_eq] at hdigit
      exact hdigit.2
    have hnine : '9'.toNat = '0'.toNat + 9 := rfl
    omega
  rw [isDigitOf, Number.hexValue?, if_pos hdigit] at h
  exact of_decide_eq_false h hvalue

theorem scanOctet_toDigits {n : Nat} (hn : n ≤ 255) {rest : List Char} (hrest : NoDigit 10 rest) :
    scanOctet (Nat.toDigits 10 n ++ rest) = some (n, rest) := by
  have hlength : ∀ m ∈ some 3, (Nat.toDigits 10 n).length ≤ m := by
    intro m hm
    cases hm
    exact (Nat.length_toDigits_le_iff (by decide) (by decide)).mpr (by omega)
  have hnumeral := scanNumeral_toDigits (by decide) (by decide) hn hlength hrest
  unfold scanOctet
  rcases Number.toDigits_zero_or_head (show 1 < 10 by decide) n with rfl | ⟨c, digits, heq, hc⟩
  · -- A zero stands alone: what follows it is no digit.
    have hzero : Nat.toDigits 10 0 = ['0'] := rfl
    rw [hzero] at hnumeral ⊢
    split
    next d tail htext =>
      cases htext
      rw [if_neg (by simp [isDigitOf_of_isDigit (hrest d rfl)])]
      exact hnumeral
    next => exact hnumeral
  · rw [heq] at hnumeral ⊢
    split
    next htext => exact absurd (List.cons.inj htext).1 hc
    next => exact hnumeral

theorem scanOctet_of_noDigit {text : List Char} (h : NoDigit 10 text) : scanOctet text = none := by
  unfold scanOctet
  split
  next => exact absurd (h '0' rfl) (by decide)
  next => exact scanNumeral_of_noDigit h

theorem of_scanOctet {text rest : List Char} {n : Nat} (h : scanOctet text = some (n, rest)) :
    n ≤ 255 ∧ rest = text.dropWhile (isDigitOf 10) := by
  unfold scanOctet at h
  split at h
  · split at h
    · cases h
    · exact of_scanNumeral h
  · exact of_scanNumeral h

theorem scanChar_self (c : Char) (rest : List Char) : scanChar c (c :: rest) = some rest := by
  simp [scanChar]

theorem scanChar_of_ne {c d : Char} (h : c ≠ d) (rest : List Char) :
    scanChar c (d :: rest) = none := by
  simp [scanChar, h]

section Octets

variable {a b c d : Nat}

/-- The text of four octets. -/
theorem toList_dotted (a b c d : Nat) :
    (dotted [a, b, c, d]).toList =
      Nat.toDigits 10 a ++ '.' :: (Nat.toDigits 10 b ++ '.' ::
        (Nat.toDigits 10 c ++ '.' :: Nat.toDigits 10 d)) := by
  simp [dotted]

theorem scanV4_dotted (ha : a ≤ 255) (hb : b ≤ 255) (hc : c ≤ 255) (hd : d ≤ 255)
    {rest : List Char} (hrest : NoDigit 10 rest) :
    scanV4 ((dotted [a, b, c, d]).toList ++ rest) = some ([a, b, c, d], rest) := by
  have hdot : ∀ text, NoDigit 10 ('.' :: text) := noDigit_cons rfl
  simp [toList_dotted, scanV4, scanOctet_toDigits, ha, hb, hc, hd, hdot, hrest, scanChar_self]

/-- Four octets that were read. -/
theorem of_scanV4 {text rest : List Char} {octets : List Nat}
    (h : scanV4 text = some (octets, rest)) :
    ∃ a b c d, octets = [a, b, c, d] ∧ a ≤ 255 ∧ b ≤ 255 ∧ c ≤ 255 ∧ d ≤ 255 := by
  simp only [scanV4, Option.bind_eq_bind, Option.bind_eq_some_iff, Prod.exists] at h
  obtain ⟨a, _, ha, _, -, b, _, hb, _, -, c, _, hc, _, -, d, _, hd, hall⟩ := h
  cases hall
  exact ⟨a, b, c, d, rfl, (of_scanOctet ha).1, (of_scanOctet hb).1, (of_scanOctet hc).1,
    (of_scanOctet hd).1⟩

/-- An IPv4 address begins with digits up to a point. -/
theorem scanV4_eq_none {text : List Char} (h : text.find? (! isDigitOf 10 ·) ≠ some '.') :
    scanV4 text = none := by
  cases hoctet : scanOctet text with
  | none => simp [scanV4, hoctet]
  | some found =>
    obtain ⟨n, rest⟩ := found
    have hrest := (of_scanOctet hoctet).2
    have hdot : scanChar '.' rest = none := by
      rw [List.find?_not_eq_head?_dropWhile, ← hrest] at h
      cases rest with
      | nil => rfl
      | cons c rest => exact scanChar_of_ne (fun hc => h (congrArg some hc.symm)) rest
    simp [scanV4, hoctet, hdot]

end Octets

/-! ### Groups -/

section Groups

variable {g limit : Nat} {gs : List Nat} {rest : List Char}

/-- What stands behind the groups of an address: a double colon, a zone or the closing bracket. -/
def AfterGroups (text : List Char) : Prop :=
  (∃ tail, text = ':' :: ':' :: tail) ∨ (∃ tail, text = '%' :: tail) ∨ ∃ tail, text = ']' :: tail

theorem AfterGroups.noDigit (h : AfterGroups rest) (base : Nat) : NoDigit base rest := by
  rcases h with ⟨tail, rfl⟩ | ⟨tail, rfl⟩ | ⟨tail, rfl⟩ <;> exact noDigit_cons rfl _

theorem scanGroup_toDigits (hg : g ≤ 0xFFFF) (hrest : NoDigit 16 rest) :
    scanGroup (Nat.toDigits 16 g ++ rest) = some (g, rest) := by
  refine scanNumeral_toDigits (by decide) (by decide) hg (fun m hm => ?_) hrest
  cases hm
  exact (Nat.length_toDigits_le_iff (by decide) (by decide)).mpr (by omega)

/-- A group is no IPv4 address unless a point follows it. -/
theorem scanV4_toDigits (h : rest.head? ≠ some '.') (hrest : NoDigit 10 rest) :
    scanV4 (Nat.toDigits 16 g ++ rest) = none := by
  refine scanV4_eq_none fun hfound => ?_
  rw [List.find?_append, Option.or_eq_some_iff] at hfound
  rcases hfound with hpoint | ⟨-, hpoint⟩
  · have hdigit := Number.isDigitOf_of_mem (by decide) (by decide) (List.mem_of_find?_eq_some hpoint)
    cases hdigit
  · rw [List.find?_not_eq_head?_dropWhile, hrest.dropWhile] at hpoint
    exact h hpoint

/-- Where the next group may begin: the first at once, any other behind a colon. -/
def opening? (first : Bool) (text : List Char) : Option (List Char) :=
  if first then some text else scanChar ':' text

theorem scanGroups_of_none {first : Bool} {text : List Char}
    (hv4 : (opening? first text).bind scanV4 = none)
    (hgroup : (opening? first text).bind scanGroup = none) :
    scanGroups first limit text = ⟨[], false, text⟩ := by
  cases limit with
  | zero => rfl
  | succ limit =>
    rw [opening?] at hv4 hgroup
    simp [scanGroups, hv4, hgroup]

theorem scanGroups_of_group {first : Bool} {text front : List Char}
    (hfront : opening? first text = some front) (hv4 : scanV4 front = none)
    (hgroup : scanGroup front = some (g, rest)) :
    scanGroups first (limit + 1) text =
      { scanGroups false limit rest with groups := g :: (scanGroups false limit rest).groups } := by
  rw [opening?] at hfront
  simp [scanGroups, hfront, hv4, hgroup]

theorem scanGroups_of_v4 {first : Bool} {text front : List Char} {a b c d : Nat}
    (hlimit : 0 < limit) (hfront : opening? first text = some front)
    (hv4 : scanV4 front = some ([a, b, c, d], rest)) :
    scanGroups first (limit + 1) text = ⟨[256 * a + b, 256 * c + d], true, rest⟩ := by
  rw [opening?] at hfront
  simp [scanGroups, hlimit, hfront, hv4]

theorem scanV4_of_noDigit {text : List Char} (h : NoDigit 10 text) : scanV4 text = none := by
  simp [scanV4, scanOctet_of_noDigit h]

/-- Behind the groups there is nothing more to read, be it as the first group or as a further one. -/
theorem scanGroups_after (first : Bool) (hrest : AfterGroups rest) :
    scanGroups first limit rest = ⟨[], false, rest⟩ := by
  suffices h : ∀ front, opening? first rest = some front → NoDigit 10 front ∧ NoDigit 16 front by
    cases hfront : opening? first rest with
    | none => exact scanGroups_of_none (by rw [hfront]; rfl) (by rw [hfront]; rfl)
    | some front =>
      obtain ⟨hv4, hgroup⟩ := h front hfront
      exact scanGroups_of_none (by rw [hfront]; exact scanV4_of_noDigit hv4)
        (by rw [hfront]; exact scanNumeral_of_noDigit hgroup)
  intro front hfront
  cases first with
  | true =>
    cases hfront
    exact ⟨hrest.noDigit 10, hrest.noDigit 16⟩
  | false =>
    rcases hrest with ⟨tail, rfl⟩ | ⟨tail, rfl⟩ | ⟨tail, rfl⟩
    · cases hfront
      exact ⟨noDigit_cons rfl tail, noDigit_cons rfl tail⟩
    · cases hfront
    · cases hfront

/-- Groups after the first, each behind a colon. -/
def laterGroups (gs : List Nat) : List Char :=
  gs.flatMap fun g => ':' :: Nat.toDigits 16 g

theorem toList_colons_cons (g : Nat) (gs : List Nat) :
    (colons (g :: gs)).toList = Nat.toDigits 16 g ++ laterGroups gs := by
  induction gs generalizing g with
  | nil => simp [colons, hexText, laterGroups]
  | cons h gs ih =>
    have hlater := ih h
    simp only [colons, String.toList_intercalate, List.map_cons, hexText, String.toList_ofList,
      List.intercalate_cons_cons] at hlater ⊢
    rw [hlater]
    simp [laterGroups]

theorem head?_laterGroups (gs : List Nat) (hrest : AfterGroups rest) :
    (laterGroups gs ++ rest).head? ≠ some '.' ∧ ∀ base, NoDigit base (laterGroups gs ++ rest) := by
  cases gs with
  | nil =>
    refine ⟨fun h => ?_, hrest.noDigit⟩
    rcases hrest with ⟨tail, rfl⟩ | ⟨tail, rfl⟩ | ⟨tail, rfl⟩ <;> cases h
  | cons g gs => exact ⟨(nomatch ·), fun base => noDigit_cons rfl _⟩

/-- One group and what follows it. -/
theorem scanGroups_step {first : Bool} {text : List Char} (hg : g ≤ 0xFFFF)
    (hfront : opening? first text = some (Nat.toDigits 16 g ++ (laterGroups gs ++ rest)))
    (hrest : AfterGroups rest)
    (hlater : scanGroups false limit (laterGroups gs ++ rest) = ⟨gs, false, rest⟩) :
    scanGroups first (limit + 1) text = ⟨g :: gs, false, rest⟩ := by
  obtain ⟨hdot, hdigit⟩ := head?_laterGroups gs hrest
  rw [scanGroups_of_group hfront (scanV4_toDigits hdot (hdigit 10))
    (scanGroup_toDigits hg (hdigit 16)), hlater]

theorem scanGroups_laterGroups (hgs : ∀ g ∈ gs, g ≤ 0xFFFF) (hlimit : gs.length ≤ limit)
    (hrest : AfterGroups rest) :
    scanGroups false limit (laterGroups gs ++ rest) = ⟨gs, false, rest⟩ := by
  induction gs generalizing limit with
  | nil => exact scanGroups_after false hrest
  | cons g gs ih =>
    obtain ⟨limit, rfl⟩ : ∃ n, limit = n + 1 := ⟨limit - 1, by simp at hlimit; omega⟩
    refine scanGroups_step (hgs g List.mem_cons_self) ?_ hrest
      (ih (fun h hh => hgs h (List.mem_cons_of_mem _ hh)) (by simpa using hlimit))
    simp [opening?, laterGroups, scanChar_self]

/-- Groups with colons between them are read as they are. -/
theorem scanGroups_colons (hgs : ∀ g ∈ gs, g ≤ 0xFFFF) (hlimit : gs.length ≤ limit)
    (hrest : AfterGroups rest) :
    scanGroups true limit ((colons gs).toList ++ rest) = ⟨gs, false, rest⟩ := by
  cases gs with
  | nil => exact scanGroups_after true hrest
  | cons g gs =>
    obtain ⟨limit, rfl⟩ : ∃ n, limit = n + 1 := ⟨limit - 1, by simp at hlimit; omega⟩
    refine scanGroups_step (hgs g List.mem_cons_self) ?_ hrest
      (scanGroups_laterGroups (fun h hh => hgs h (List.mem_cons_of_mem _ hh))
        (by simpa using hlimit) hrest)
    simp [opening?, toList_colons_cons]

/-- The groups that were read are no more than the limit, and of sixteen bits each. -/
theorem scanGroups_bounded (first : Bool) (limit : Nat) (text : List Char) :
    (scanGroups first limit text).groups.length ≤ limit ∧
      ∀ g ∈ (scanGroups first limit text).groups, g ≤ 0xFFFF := by
  induction limit generalizing first text with
  | zero => simp [scanGroups]
  | succ limit ih =>
    unfold scanGroups
    dsimp only
    split
    next a b c d tail hv4 =>
      split at hv4
      next hlimit =>
        obtain ⟨front, -, hoctets⟩ := Option.bind_eq_some_iff.mp hv4
        obtain ⟨_, _, _, _, heq, ha, hb, hc, hd⟩ := of_scanV4 hoctets
        cases heq
        simp only [List.length_cons, List.length_nil, List.forall_mem_cons]
        exact ⟨by omega, by omega, by omega, by simp⟩
      next => cases hv4
    next =>
      split
      next h tail hgroup =>
        obtain ⟨front, -, hgroup⟩ := Option.bind_eq_some_iff.mp hgroup
        obtain ⟨hlength, hall⟩ := ih false tail
        exact ⟨Nat.succ_le_succ hlength, List.forall_mem_cons.mpr ⟨(of_scanNumeral hgroup).1, hall⟩⟩
      next => simp

end Groups

end Fanout.SocketAddress
