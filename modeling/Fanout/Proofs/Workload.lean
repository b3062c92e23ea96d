import Mathlib.Data.List.Forall2
import Fanout.Workload

/-!
What times a workload draws from a stream of random words. A draw passes over words until it comes to one
that it takes, so that the stream falls into blocks, one for each task; every time lies in the range, and
no word is looked at twice (`workload_draws_in_range`). Which words are taken, and what is made of them, is
said in the arithmetic of 64-bit words, in which the size of the range of all words is zero.
-/

namespace Fanout

namespace Draw

/-! ### Arithmetic of words -/

/-- The size of a range. There is one more word than a word can say, and its size wraps to zero. -/
def wordSize (low high : BitVec 64) : BitVec 64 :=
  high - low + 1

/-- The size with its zero bits in front shifted away, less one. -/
def wordZone (size : BitVec 64) : BitVec 64 :=
  (size <<< size.clz) - 1

/-- The product of two words, in two words. -/
def wideProduct (w size : BitVec 64) : BitVec 128 :=
  w.setWidth 128 * size.setWidth 128

def lowWord (p : BitVec 128) : BitVec 64 :=
  p.extractLsb' 0 64

def highWord (p : BitVec 128) : BitVec 64 :=
  p.extractLsb' 64 64

/-- A draw takes the word; it passes over the others. -/
def IsTaken (low high w : BitVec 64) : Prop :=
  wordSize low high = 0 ∨
    lowWord (wideProduct w (wordSize low high)) ≤ wordZone (wordSize low high)

instance (low high w : BitVec 64) : Decidable (IsTaken low high w) :=
  inferInstanceAs (Decidable (_ ∨ _))

/-- What is drawn with a word. -/
def drawn (low high w : BitVec 64) : BitVec 64 :=
  if wordSize low high = 0 then w else low + highWord (wideProduct w (wordSize low high))

variable {low high w size : BitVec 64}

theorem toNat_eq_zero_iff : w.toNat = 0 ↔ w = 0 :=
  ⟨fun h => BitVec.eq_of_toNat_eq h, fun h => congrArg BitVec.toNat h⟩

theorem toNat_wordSize (h : low ≤ high) :
    (wordSize low high).toNat = (high.toNat - low.toNat + 1) % modulus := by
  have hle : low.toNat ≤ high.toNat := h
  have hdifference : (high - low).toNat = high.toNat - low.toNat := BitVec.toNat_sub_of_le h
  rw [wordSize, BitVec.toNat_add, hdifference]
  rfl

theorem toNat_wideProduct : (wideProduct w size).toNat = w.toNat * size.toNat := by
  have hw := w.isLt
  have hsize := size.isLt
  have hlt : w.toNat * size.toNat < 2 ^ 128 :=
    Nat.lt_of_lt_of_le (Nat.mul_lt_mul'' hw hsize) (by decide)
  rw [wideProduct, BitVec.toNat_mul, BitVec.toNat_setWidth_of_le (by decide),
    BitVec.toNat_setWidth_of_le (by decide), Nat.mod_eq_of_lt hlt]

theorem toNat_lowWord : (lowWord (wideProduct w size)).toNat = w.toNat * size.toNat % modulus := by
  rw [lowWord, BitVec.extractLsb'_toNat, toNat_wideProduct, Nat.shiftRight_zero]
  rfl

theorem toNat_highWord : (highWord (wideProduct w size)).toNat = w.toNat * size.toNat / modulus := by
  have hw := w.isLt
  have hlt : w.toNat * size.toNat / 2 ^ 64 < 2 ^ 64 :=
    Nat.div_lt_of_lt_mul (Nat.mul_lt_mul'' hw size.isLt)
  rw [highWord, BitVec.extractLsb'_toNat, toNat_wideProduct, Nat.shiftRight_eq_div_pow,
    Nat.mod_eq_of_lt hlt]
  rfl

theorem toNat_clz (h : size ≠ 0) : size.clz.toNat = leadingZeros size.toNat := by
  have hne : size.toNat ≠ 0 := mt toNat_eq_zero_iff.mp h
  -- The highest bit that is set stands right behind the zeros in front.
  have hlow := BitVec.two_pow_sub_clz_le_toNat_of_ne_zero (by decide) h
  have hhigh := BitVec.toNat_lt_two_pow_sub_clz (x := size)
  have hclz : size.clz.toNat < 64 := BitVec.lt_def.mp (BitVec.clz_lt_iff_ne_zero.mpr h)
  have hlog : size.toNat.log2 = 63 - size.clz.toNat :=
    (Nat.log2_eq_iff hne).mpr ⟨hlow, by rwa [show 63 - size.clz.toNat + 1 = 64 - size.clz.toNat by omega]⟩
  rw [leadingZeros, if_neg hne, hlog]
  omega

/-- Nothing is lost by shifting the zeros in front away. -/
theorem toNat_wordZone (h : size ≠ 0) : (wordZone size).toNat = zone size.toNat := by
  have hpos : 0 < size.toNat := Nat.pos_of_ne_zero (mt toNat_eq_zero_iff.mp h)
  have hclz : size.clz.toNat < 64 := BitVec.lt_def.mp (BitVec.clz_lt_iff_ne_zero.mpr h)
  have hfits : size.toNat * 2 ^ size.clz.toNat < 2 ^ 64 := by
    calc size.toNat * 2 ^ size.clz.toNat
        < 2 ^ (64 - size.clz.toNat) * 2 ^ size.clz.toNat :=
          Nat.mul_lt_mul_of_pos_right BitVec.toNat_lt_two_pow_sub_clz (Nat.two_pow_pos _)
      _ = 2 ^ 64 := by rw [← Nat.pow_add, Nat.sub_add_cancel (by omega)]
  have hshifted : (size <<< size.clz).toNat = size.toNat * 2 ^ size.clz.toNat := by
    rw [BitVec.shiftLeft_eq', BitVec.toNat_shiftLeft, Nat.shiftLeft_eq, Nat.mod_eq_of_lt hfits]
  have hone : (1 : BitVec 64) ≤ size <<< size.clz := by
    rw [BitVec.le_def, hshifted]
    exact Nat.mul_pos hpos (Nat.two_pow_pos _)
  rw [wordZone, BitVec.toNat_sub_of_le hone, hshifted, toNat_clz h]
  rfl

/-- Only a range of all words has a size that is zero. -/
theorem eq_of_wordSize_eq_zero (h : low ≤ high) (hzero : wordSize low high = 0) :
    low.toNat = 0 ∧ high.toNat = modulus - 1 := by
  have hle : low.toNat ≤ high.toNat := h
  have hhigh : high.toNat < modulus := high.isLt
  have hwraps : (high.toNat - low.toNat + 1) % modulus = 0 := by
    rw [← toNat_wordSize h, toNat_eq_zero_iff]
    exact hzero
  have hall := Nat.le_of_dvd (Nat.succ_pos _) (Nat.dvd_of_mod_eq_zero hwraps)
  omega

/-- The high word of a product is less than the size. -/
theorem add_highWord_le (h : low ≤ high) (hne : wordSize low high ≠ 0) (w : BitVec 64) :
    low.toNat + (highWord (wideProduct w (wordSize low high))).toNat ≤ high.toNat := by
  have hle : low.toNat ≤ high.toNat := h
  have hpos := Nat.pos_of_ne_zero (mt toNat_eq_zero_iff.mp hne)
  have hoffset : (highWord (wideProduct w (wordSize low high))).toNat < (wordSize low high).toNat := by
    rw [toNat_highWord]
    exact Nat.div_lt_of_lt_mul (Nat.mul_lt_mul_of_pos_right w.isLt hpos)
  have hsize : (wordSize low high).toNat ≤ high.toNat - low.toNat + 1 := by
    rw [toNat_wordSize h]
    exact Nat.mod_le _ _
  omega

theorem toNat_drawn (h : low ≤ high) (hne : wordSize low high ≠ 0) :
    (drawn low high w).toNat = low.toNat + w.toNat * (wordSize low high).toNat / modulus := by
  have hsum := Nat.lt_of_le_of_lt (add_highWord_le h hne w) high.isLt
  rw [drawn, if_neg hne, BitVec.toNat_add, Nat.mod_eq_of_lt hsum, toNat_highWord]

/-- Whatever the word is, nothing that is drawn leaves the range. -/
theorem drawn_mem (h : low ≤ high) (w : BitVec 64) : low ≤ drawn low high w ∧ drawn low high w ≤ high := by
  simp only [BitVec.le_def]
  by_cases hzero : wordSize low high = 0
  · obtain ⟨hlow, hhigh⟩ := eq_of_wordSize_eq_zero h hzero
    -- There is no word outside the range of all words.
    rw [hlow, hhigh]
    exact ⟨Nat.zero_le _, Nat.le_sub_one_of_lt (drawn low high w).isLt⟩
  · have hle := add_highWord_le h hzero w
    rw [toNat_highWord] at hle
    rw [toNat_drawn h hzero]
    exact ⟨Nat.le_add_right _ _, hle⟩

/-! ### One draw -/

/-- Words that are passed over, and behind them the one that is taken, with what is drawn by it. -/
inductive IsBlock (low high : BitVec 64) : List (BitVec 64) → BitVec 64 → Prop
  | intro {passed : List (BitVec 64)} {w : BitVec 64} (hpassed : ∀ v ∈ passed, ¬ IsTaken low high v)
    (hw : IsTaken low high w) : IsBlock low high (passed ++ [w]) (drawn low high w)

variable {words block : List (BitVec 64)} {x : BitVec 64}

theorem IsBlock.ne_nil (h : IsBlock low high block x) : block ≠ [] := by
  cases h with
  | intro => exact List.append_ne_nil_of_right_ne_nil _ (List.cons_ne_nil _ _)

theorem IsBlock.mem (h : IsBlock low high block x) (hle : low ≤ high) : low ≤ x ∧ x ≤ high := by
  cases h with
  | intro => exact drawn_mem hle _

/-- A draw looks at one word: it takes it, or goes on behind it. -/
theorem range_cons (hle : low ≤ high) (w : BitVec 64) (words : List (BitVec 64)) :
    range low.toNat high.toNat ((w :: words).map BitVec.toNat) =
      if IsTaken low high w then .ok ((drawn low high w).toNat, words.map BitVec.toNat)
      else range low.toNat high.toNat (words.map BitVec.toNat) := by
  have hnot : ¬ high.toNat < low.toNat := Nat.not_lt.mpr hle
  have hsize := toNat_wordSize hle
  by_cases hzero : wordSize low high = 0
  · rw [toNat_eq_zero_iff.mpr hzero] at hsize
    rw [if_pos (.inl hzero), drawn, if_pos hzero]
    simp only [range, if_neg hnot, ← hsize, if_true, List.map_cons]
  · have hne := mt toNat_eq_zero_iff.mp hzero
    have htaken : IsTaken low high w ↔
        w.toNat * (wordSize low high).toNat % modulus ≤ zone (wordSize low high).toNat := by
      rw [IsTaken, or_iff_right hzero, BitVec.le_def, toNat_lowWord, toNat_wordZone hzero]
    simp only [range, if_neg hnot, ← hsize, if_neg hne, List.map_cons, within, htaken,
      toNat_drawn hle hzero]

theorem range_of_block (hle : low ≤ high) (h : IsBlock low high block x) (rest : List (BitVec 64)) :
    range low.toNat high.toNat ((block ++ rest).map BitVec.toNat) =
      .ok (x.toNat, rest.map BitVec.toNat) := by
  cases h with
  | @intro passed w hpassed hw =>
    -- By induction on the words that are passed over.
    induction passed with
    | nil => exact (range_cons hle w rest).trans (if_pos hw)
    | cons v passed ih =>
      obtain ⟨hv, hpassed⟩ := List.forall_mem_cons.mp hpassed
      exact (range_cons hle v _).trans ((if_neg hv).trans (ih hpassed))

/-- A draw that takes none of the words runs out of them. -/
theorem range_of_none (hle : low ≤ high) (h : ∀ w ∈ words, ¬ IsTaken low high w) :
    range low.toNat high.toNat (words.map BitVec.toNat) = .error .wordsExhausted := by
  induction words with
  | nil =>
    have hnot : ¬ high.toNat < low.toNat := Nat.not_lt.mpr hle
    simp only [range, if_neg hnot, List.map_nil, within, ite_self]
  | cons w words ih =>
    obtain ⟨hw, hwords⟩ := List.forall_mem_cons.mp h
    exact (range_cons hle w words).trans ((if_neg hw).trans (ih hwords))

/-- The words up to the first one that is taken are a block. -/
theorem exists_block (h : ¬ ∀ w ∈ words, ¬ IsTaken low high w) :
    ∃ block x rest, words = block ++ rest ∧ IsBlock low high block x ∧
      words.countP (IsTaken low high ·) = rest.countP (IsTaken low high ·) + 1 := by
  induction words with
  | nil => exact absurd (fun w hw => nomatch hw) h
  | cons w words ih =>
    by_cases hw : IsTaken low high w
    · have hblock : IsBlock low high ([] ++ [w]) (drawn low high w) := .intro nofun hw
      exact ⟨[w], _, words, rfl, hblock, List.countP_cons_of_pos (decide_eq_true hw)⟩
    · have hlater : ¬ ∀ w ∈ words, ¬ IsTaken low high w :=
        fun hnone => h (List.forall_mem_cons.mpr ⟨hw, hnone⟩)
      obtain ⟨block, x, rest, rfl, hblock, hcount⟩ := ih hlater
      refine ⟨w :: block, x, rest, rfl, ?_, ?_⟩
      · cases hblock with
        | intro hpassed htaken =>
          exact .intro (List.forall_mem_cons.mpr ⟨hw, hpassed⟩) htaken
      · rw [List.countP_cons_of_neg (by simpa using hw), hcount]

/-! ### Draw after draw -/

theorem times_of_range {low high x count : Nat} {words rest : List Nat}
    (h : range low high words = .ok (x, rest)) :
    times low high (count + 1) words =
      (times low high count rest).map fun drawn => (x :: drawn.1, drawn.2) := by
  rw [times, h]
  change (times low high count rest >>= fun drawn => .ok (x :: drawn.1, drawn.2)) = _
  cases times low high count rest <;> rfl

theorem times_of_fault {low high count : Nat} {words : List Nat} {fault : DrawFault}
    (h : range low high words = .error fault) :
    times low high (count + 1) words = .error fault := by
  rw [times, h]
  rfl

variable {blocks : List (List (BitVec 64))} {xs : List (BitVec 64)} {count : Nat}

theorem times_of_blocks (hle : low ≤ high) (h : List.Forall₂ (IsBlock low high) blocks xs)
    (rest : List (BitVec 64)) :
    times low.toNat high.toNat xs.length ((blocks.flatten ++ rest).map BitVec.toNat) =
      .ok (xs.map BitVec.toNat, rest.map BitVec.toNat) := by
  induction h with
  | nil => rfl
  | @cons block x blocks xs hblock _ ih =>
    rw [List.flatten_cons, List.append_assoc, List.length_cons,
      times_of_range (range_of_block hle hblock _), ih]
    rfl

theorem mem_of_blocks (hle : low ≤ high) (h : List.Forall₂ (IsBlock low high) blocks xs) :
    (∀ block ∈ blocks, block ≠ []) ∧ ∀ x ∈ xs, low ≤ x ∧ x ≤ high := by
  induction h with
  | nil => exact ⟨nofun, nofun⟩
  | cons hblock _ ih =>
    exact ⟨List.forall_mem_cons.mpr ⟨hblock.ne_nil, ih.1⟩,
      List.forall_mem_cons.mpr ⟨hblock.mem hle, ih.2⟩⟩

/-- As many blocks as there are words that can be taken. -/
theorem exists_blocks (h : count ≤ words.countP (IsTaken low high ·)) :
    ∃ blocks xs rest, words = blocks.flatten ++ rest ∧ List.Forall₂ (IsBlock low high) blocks xs ∧
      xs.length = count := by
  induction count generalizing words with
  | zero => exact ⟨[], [], words, rfl, .nil, rfl⟩
  | succ count ih =>
    have hsome : ¬ ∀ w ∈ words, ¬ IsTaken low high w := fun hnone => by
      have hzero : words.countP (IsTaken low high ·) = 0 := by simpa using hnone
      omega
    obtain ⟨block, x, later, rfl, hblock, hcount⟩ := exists_block hsome
    have hlater : count ≤ later.countP (IsTaken low high ·) := by omega
    obtain ⟨blocks, xs, rest, rfl, hblocks, hlength⟩ := ih hlater
    exact ⟨block :: blocks, x :: xs, rest, by simp, .cons hblock hblocks, by simpa using hlength⟩

theorem times_of_few (hle : low ≤ high) (h : words.countP (IsTaken low high ·) < count) :
    times low.toNat high.toNat count (words.map BitVec.toNat) = .error .wordsExhausted := by
  induction count generalizing words with
  | zero => exact absurd h (Nat.not_lt_zero _)
  | succ count ih =>
    by_cases hnone : ∀ w ∈ words, ¬ IsTaken low high w
    · exact times_of_fault (range_of_none hle hnone)
    · obtain ⟨block, x, later, rfl, hblock, hcount⟩ := exists_block hnone
      rw [times_of_range (range_of_block hle hblock later), ih (by omega)]
      rfl

/-! ### Empty ranges -/

theorem within_ne_emptyRange (low size : Nat) (words : List Nat) :
    within low size words ≠ .error .emptyRange := by
  induction words with
  | nil => exact nofun
  | cons w words ih =>
    unfold within
    split
    · exact nofun
    · exact ih

theorem range_eq_emptyRange_iff {low high : Nat} {words : List Nat} :
    range low high words = .error .emptyRange ↔ high < low := by
  constructor
  · intro h
    unfold range at h
    split at h
    next hlt => exact hlt
    next =>
      dsimp only at h
      split at h
      · split at h <;> cases h
      · exact absurd h (within_ne_emptyRange _ _ _)
  · intro h
    simp only [range, if_pos h]

theorem times_eq_emptyRange_iff {low high count : Nat} {words : List Nat} :
    times low high count words = .error .emptyRange ↔ high < low ∧ 0 < count := by
  induction count generalizing words with
  | zero => exact iff_of_false nofun fun h => absurd h.2 (Nat.lt_irrefl 0)
  | succ count ih =>
    rw [and_iff_left (Nat.succ_pos count), ← @range_eq_emptyRange_iff low high words]
    cases hrange : range low high words with
    | error fault => rw [times_of_fault hrange, Except.error.injEq, Except.error.injEq]
    | ok drawn =>
      have hnot : ¬ high < low := fun hlt => by
        rw [range_eq_emptyRange_iff.mpr hlt] at hrange
        cases hrange
      rw [times_of_range hrange]
      refine iff_of_false (fun h => ?_) nofun
      cases hlater : times low high count drawn.2 with
      | error fault =>
        rw [hlater] at h
        cases h
        exact hnot (ih.mp hlater).1
      | ok later =>
        rw [hlater] at h
        cases h

end Draw

/-- Drawing panics for want of a number exactly when the range is empty and there is a task. -/
theorem WorkloadConfig.draw_eq_emptyRange_iff {c : WorkloadConfig} {words : List Nat} :
    c.draw words = .error .emptyRange ↔ c.maxTaskMs < c.minTaskMs ∧ 0 < c.taskCount :=
  Draw.times_eq_emptyRange_iff

/-- Of a range that is not empty, be it that of all words, as many times are drawn as there are tasks, if
the stream has so many words that can be taken, and only then; otherwise the words run out. Each time lies
in the range and comes from a block of words of its own, right behind the block before it, so that fewer
tasks get the first of these times and leave the other blocks. In an empty range nothing can be drawn,
which is found out if there is a task. -/
theorem workload_draws_in_range (low high : BitVec 64) (words : List (BitVec 64)) (count : Nat) :
    let draw (count : Nat) :=
      WorkloadConfig.draw ⟨count, low.toNat, high.toNat⟩ (words.map BitVec.toNat)
    (low ≤ high →
      (draw count = .error .wordsExhausted ↔ words.countP (Draw.IsTaken low high ·) < count) ∧
      (count ≤ words.countP (Draw.IsTaken low high ·) →
        ∃ (blocks : List (List (BitVec 64))) (times rest : List (BitVec 64)),
          draw count = .ok (times.map BitVec.toNat, rest.map BitVec.toNat) ∧
          times.length = count ∧ (∀ t ∈ times, low ≤ t ∧ t ≤ high) ∧
          words = blocks.flatten ++ rest ∧ (∀ block ∈ blocks, block ≠ []) ∧
          List.Forall₂ (Draw.IsBlock low high) blocks times ∧
          ∀ j ≤ count, draw j =
            .ok ((times.take j).map BitVec.toNat,
              ((blocks.drop j).flatten ++ rest).map BitVec.toNat))) ∧
    (high < low →
      (draw count = .error .emptyRange ↔ 0 < count) ∧ draw 0 = .ok ([], words.map BitVec.toNat)) := by
  intro draw
  refine ⟨fun hle => ⟨⟨fun hdraw => ?_, Draw.times_of_few hle⟩, fun henough => ?_⟩, fun hempty => ⟨?_, rfl⟩⟩
  · refine Nat.lt_of_not_le fun henough => ?_
    obtain ⟨blocks, times, rest, rfl, hblocks, rfl⟩ := Draw.exists_blocks henough
    cases hdraw.symm.trans (Draw.times_of_blocks hle hblocks rest)
  · obtain ⟨blocks, times, rest, rfl, hblocks, hlength⟩ := Draw.exists_blocks henough
    -- Fewer draws stop where the first so many blocks end.
    have hprefix : ∀ j ≤ count, draw j =
        .ok ((times.take j).map BitVec.toNat,
          ((blocks.drop j).flatten ++ rest).map BitVec.toNat) := by
      intro j hj
      have htaken : (times.take j).length = j := by
        rw [List.length_take, Nat.min_eq_left (hlength ▸ hj)]
      have hfirst := Draw.times_of_blocks hle (List.forall₂_take j hblocks) ((blocks.drop j).flatten ++ rest)
      rw [← List.append_assoc, ← List.flatten_append, List.take_append_drop, htaken] at hfirst
      exact hfirst
    refine ⟨blocks, times, rest, ?_, hlength, ?_, rfl, ?_, hblocks, hprefix⟩
    · rw [← hlength]
      exact Draw.times_of_blocks hle hblocks rest
    · exact (Draw.mem_of_blocks hle hblocks).2
    · exact (Draw.mem_of_blocks hle hblocks).1
  · exact WorkloadConfig.draw_eq_emptyRange_iff.trans (and_iff_right hempty)

/-- In the range of all words each word is taken as it is. -/
example : WorkloadConfig.draw ⟨2, 0, Draw.modulus - 1⟩ [7, 0] = .ok ([7, 0], []) := by
  decide

/-- Two of these words lie outside the zone of a range of three and are passed over; there is no third
time in the stream, and none at all between bounds that have changed places. -/
theorem workload_draws_in_range_of_passed_over :
    let words : List (BitVec 64) :=
      [0x5555555555555555, 0x8000000000000000, 0xFFFFFFFFFFFFFFFF, 0xC000000000000000]
    let draw (low high : BitVec 64) (count : Nat) :=
      WorkloadConfig.draw ⟨count, low.toNat, high.toNat⟩ (words.map BitVec.toNat)
    words.map (fun w => decide (Draw.IsTaken 3 5 w)) = [false, true, false, true] ∧
      (∃ times rest : List (BitVec 64),
        draw 3 5 2 = .ok (times.map BitVec.toNat, rest.map BitVec.toNat) ∧ times.length = 2 ∧
          (∀ t ∈ times, 3 ≤ t ∧ t ≤ 5) ∧
          ∃ later, draw 3 5 1 = .ok ((times.take 1).map BitVec.toNat, later)) ∧
      draw 3 5 3 = .error .wordsExhausted ∧ draw 5 3 1 = .error .emptyRange := by
  intro words draw
  obtain ⟨hdraws, -⟩ := workload_draws_in_range 3 5 words 2
  obtain ⟨blocks, times, rest, hdraw, hlength, hmem, -, -, -, hprefix⟩ :=
    (hdraws (by decide)).2 (by decide +kernel)
  have hfew := ((workload_draws_in_range 3 5 words 3).1 (by decide)).1.mpr (by decide +kernel)
  have hempty := ((workload_draws_in_range 5 3 words 1).2 (by decide)).1.mpr (by decide)
  exact ⟨by decide +kernel, ⟨times, rest, hdraw, hlength, hmem, _, hprefix 1 (by decide)⟩, hfew, hempty⟩

end Fanout
