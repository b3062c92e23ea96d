import Mathlib.Tactic.SplitIfs
import Fanout.Text.Utf8

/-!
A text is found again in its bytes (`ofUtf8?_toByteArray`). A character is written as one to four bytes; the
first tells how many there are, and each byte after it carries six bits.
-/

namespace Fanout.Text

/-! ### Bytes of one character -/

section Bytes

variable {n : Nat}

theorem continuation?_ofNat (h : n < 64) : continuation? (UInt8.ofNat (n + 128)) = some n := by
  have hall : ∀ m < 64, continuation? (UInt8.ofNat (m + 128)) = some m := by decide
  exact hall n h

theorem codePoint?_toNat {least : Nat} {c : Char} (h : least ≤ c.toNat) :
    codePoint? least c.toNat = some c := by
  have hvalid : c.toNat.isValidChar := c.valid
  simp [codePoint?, h, hvalid]

theorem le_ofNat {k : UInt8} (h : n < 256) (hk : k.toNat ≤ n) : k ≤ UInt8.ofNat n := by
  rwa [UInt8.le_iff_toNat_le, UInt8.toNat_ofNat_of_lt' h]

theorem ofNat_lt {k : UInt8} (hk : n < k.toNat) : UInt8.ofNat n < k := by
  have hsize : n < 256 := Nat.lt_trans hk k.toNat_lt
  rwa [UInt8.lt_iff_toNat_lt, UInt8.toNat_ofNat_of_lt' hsize]

theorem toNat_ofNat_sub (least : Nat) (h : n + least < 256) :
    (UInt8.ofNat (n + least)).toNat - least = n := by
  rw [UInt8.toNat_ofNat_of_lt' h, Nat.add_sub_cancel]

theorem twoBytes?_ofNat (h : n < 32) (b : UInt8) :
    twoBytes? (UInt8.ofNat (n + 0xC0)) b =
      (continuation? b).bind fun k => codePoint? 0x80 (n * 64 + k) := by
  have hlead : 0xC0 ≤ UInt8.ofNat (n + 0xC0) ∧ UInt8.ofNat (n + 0xC0) < 0xE0 :=
    ⟨le_ofNat (by omega) (Nat.le_add_left _ _), ofNat_lt (Nat.add_lt_add_right h 0xC0)⟩
  have hbits : (UInt8.ofNat (n + 0xC0)).toNat - 0xC0 = n := toNat_ofNat_sub 0xC0 (by omega)
  simp only [twoBytes?, hlead.1, hlead.2, hbits]
  rfl

theorem threeBytes?_ofNat (h : n < 16) (b c : UInt8) :
    threeBytes? (UInt8.ofNat (n + 0xE0)) b c =
      (continuation? b).bind fun k => (continuation? c).bind fun l =>
        codePoint? 0x800 ((n * 64 + k) * 64 + l) := by
  have hlead : 0xE0 ≤ UInt8.ofNat (n + 0xE0) ∧ UInt8.ofNat (n + 0xE0) < 0xF0 :=
    ⟨le_ofNat (by omega) (Nat.le_add_left _ _), ofNat_lt (Nat.add_lt_add_right h 0xE0)⟩
  have hbits : (UInt8.ofNat (n + 0xE0)).toNat - 0xE0 = n := toNat_ofNat_sub 0xE0 (by omega)
  simp only [threeBytes?, hlead.1, hlead.2, hbits]
  rfl

theorem fourBytes?_ofNat (h : n < 8) (b c d : UInt8) :
    fourBytes? (UInt8.ofNat (n + 0xF0)) b c d =
      (continuation? b).bind fun k => (continuation? c).bind fun l => (continuation? d).bind fun m =>
        codePoint? 0x10000 (((n * 64 + k) * 64 + l) * 64 + m) := by
  have hlead : 0xF0 ≤ UInt8.ofNat (n + 0xF0) ∧ UInt8.ofNat (n + 0xF0) < 0xF8 :=
    ⟨le_ofNat (by omega) (Nat.le_add_left _ _), ofNat_lt (Nat.add_lt_add_right h 0xF0)⟩
  have hbits : (UInt8.ofNat (n + 0xF0)).toNat - 0xF0 = n := toNat_ofNat_sub 0xF0 (by omega)
  simp only [fourBytes?, hlead.1, hlead.2, hbits]
  rfl

/-- A byte that begins three or four does not begin two. -/
theorem twoBytes?_eq_none {a : UInt8} (h : 0xE0 ≤ a) (b : UInt8) : twoBytes? a b = none := by
  simp [twoBytes?, UInt8.not_lt.mpr h]

/-- A byte that begins four does not begin three. -/
theorem threeBytes?_eq_none {a : UInt8} (h : 0xF0 ≤ a) (b c : UInt8) : threeBytes? a b c = none := by
  simp [threeBytes?, UInt8.not_lt.mpr h]

end Bytes

/-! ### Pieces -/

section Pieces

variable {a b c d : UInt8} {x : Char}

theorem pieces_one (ha : a < 0x80) (rest : List UInt8) :
    pieces (a :: rest) = .char (Char.ofNat a.toNat) :: pieces rest := by
  rcases rest with _ | ⟨b, _ | ⟨c, _ | ⟨d, rest⟩⟩⟩ <;> simp [pieces, ha]

theorem pieces_two (ha : 0x80 ≤ a) (h : twoBytes? a b = some x) (rest : List UInt8) :
    pieces (a :: b :: rest) = .char x :: pieces rest := by
  have hlong : ¬ a < 0x80 := UInt8.not_lt.mpr ha
  rcases rest with _ | ⟨c, _ | ⟨d, rest⟩⟩ <;> simp [pieces, hlong, h]

theorem pieces_three (ha : 0xE0 ≤ a) (h : threeBytes? a b c = some x) (rest : List UInt8) :
    pieces (a :: b :: c :: rest) = .char x :: pieces rest := by
  have hlong : ¬ a < 0x80 := UInt8.not_lt.mpr (UInt8.le_trans (by decide) ha)
  rcases rest with _ | ⟨d, rest⟩ <;> simp [pieces, hlong, twoBytes?_eq_none ha, h]

theorem pieces_four (ha : 0xF0 ≤ a) (h : fourBytes? a b c d = some x) (rest : List UInt8) :
    pieces (a :: b :: c :: d :: rest) = .char x :: pieces rest := by
  have hlong : ¬ a < 0x80 := UInt8.not_lt.mpr (UInt8.le_trans (by decide) ha)
  have htwo := twoBytes?_eq_none (UInt8.le_trans (by decide) ha) b
  simp [pieces, hlong, htwo, threeBytes?_eq_none ha, h]

/-- A character is found again in front of anything. -/
theorem pieces_utf8EncodeChar (c : Char) (rest : List UInt8) :
    pieces (String.utf8EncodeChar c ++ rest) = .char c :: pieces rest := by
  have hvalid : c.toNat.isValidChar := c.valid
  have hval : c.val.toNat = c.toNat := rfl
  unfold String.utf8EncodeChar
  simp only [hval]
  split_ifs with hone htwo hthree
  · have hsame : (UInt8.ofNat c.toNat).toNat = c.toNat :=
      UInt8.toNat_ofNat_of_lt' (Nat.lt_of_le_of_lt hone (by decide))
    rw [List.singleton_append, pieces_one (ofNat_lt (Nat.lt_succ_of_le hone)), hsame, Char.ofNat_toNat]
  · refine pieces_two (le_ofNat (by omega) (Nat.le_add_left_of_le (by decide))) ?_ rest
    have hcode : c.toNat / 64 % 32 * 64 + c.toNat % 64 = c.toNat := by omega
    rw [twoBytes?_ofNat (by omega), continuation?_ofNat (by omega), Option.bind_some, hcode]
    exact codePoint?_toNat (by omega)
  · have hlead : 0xE0 ≤ UInt8.ofNat (c.toNat / 4096 % 16 + 0xE0) :=
      le_ofNat (by omega) (Nat.le_add_left _ _)
    refine pieces_three hlead ?_ rest
    have hcode : (c.toNat / 4096 % 16 * 64 + c.toNat / 64 % 64) * 64 + c.toNat % 64 = c.toNat := by
      omega
    rw [threeBytes?_ofNat (by omega), continuation?_ofNat (by omega), continuation?_ofNat (by omega),
      Option.bind_some, Option.bind_some, hcode]
    exact codePoint?_toNat (by omega)
  · have hsmall : c.toNat < 0x110000 := by
      unfold Nat.isValidChar at hvalid
      omega
    have hlead : 0xF0 ≤ UInt8.ofNat (c.toNat / 262144 % 8 + 0xF0) :=
      le_ofNat (by omega) (Nat.le_add_left _ _)
    refine pieces_four hlead ?_ rest
    have hcode : ((c.toNat / 262144 % 8 * 64 + c.toNat / 4096 % 64) * 64 + c.toNat / 64 % 64) * 64 +
        c.toNat % 64 = c.toNat := by
      omega
    rw [fourBytes?_ofNat (by omega), continuation?_ofNat (by omega), continuation?_ofNat (by omega),
      continuation?_ofNat (by omega), Option.bind_some, Option.bind_some, Option.bind_some, hcode]
    exact codePoint?_toNat (by omega)

end Pieces

/-- The bytes of a text, character by character. -/
theorem toList_toByteArray (s : String) :
    s.toByteArray.data.toList = s.toList.flatMap String.utf8EncodeChar := by
  rw [← String.utf8Encode_toList, List.utf8Encode, List.toList_data_toByteArray]

/-- Every text is found again in its bytes. -/
theorem ofUtf8?_toByteArray (s : String) : ofUtf8? s.toByteArray.data.toList = some s := by
  have hpieces : ∀ text : List Char,
      pieces (text.flatMap String.utf8EncodeChar) = text.map Piece.char := by
    intro text
    induction text with
    | nil => rfl
    | cons c text ih => rw [List.flatMap_cons, pieces_utf8EncodeChar, ih, List.map_cons]
  have hchars : ∀ text : List Char, text.mapM (fun c => some c) = some text := fun text => by
    simpa using List.mapM_pure (m := Option) (l := text) (f := id)
  rw [ofUtf8?, toList_toByteArray, hpieces, List.mapM_map]
  exact (congrArg (Option.map String.ofList) (hchars s.toList)).trans (by simp)

end Fanout.Text
