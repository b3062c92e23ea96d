import Mathlib.Data.List.Infix
import Fanout.Settings.Sources

/-!
Plain names: lower-case letters, digits and underscores. Lower-casing leaves them alone, they are paths
of one step, and a double underscore between two of them makes a path of two.
-/

namespace Fanout

/-- Characters of a plain name. -/
def isPlainChar (c : Char) : Bool :=
  c.isLower || c.isDigit || c = '_'

/-- A name of plain characters in which nothing separates steps. -/
structure IsPlain (name : String) : Prop where
  nonempty : name.toList ≠ []
  plain : ∀ c ∈ name.toList, isPlainChar c = true
  single : ¬ ['_', '_'] <:+: name.toList

instance (name : String) : Decidable (IsPlain name) :=
  decidable_of_iff (name.toList ≠ [] ∧ name.toList.all isPlainChar = true ∧
    ¬ ['_', '_'] <:+: name.toList)
    ⟨fun ⟨h1, h2, h3⟩ => ⟨h1, List.all_eq_true.mp h2, h3⟩,
      fun ⟨h1, h2, h3⟩ => ⟨h1, List.all_eq_true.mpr h2, h3⟩⟩

/-- A plain character is in ASCII and no capital letter. -/
theorem toNat_of_plain {c : Char} (h : isPlainChar c = true) :
    c.toNat < 128 ∧ (c.toNat < 65 ∨ 90 < c.toNat) := by
  simp only [isPlainChar, Bool.or_eq_true, decide_eq_true_eq] at h
  rcases h with (hlower | hdigit) | rfl
  · obtain ⟨hlow, hhigh⟩ := Bool.and_eq_true_iff.mp hlower
    have hfirst : 97 ≤ c.toNat := UInt32.le_iff_toNat_le.mp (of_decide_eq_true hlow)
    have hlast : c.toNat ≤ 122 := UInt32.le_iff_toNat_le.mp (of_decide_eq_true hhigh)
    omega
  · obtain ⟨-, hhigh⟩ := Bool.and_eq_true_iff.mp hdigit
    have hlast : c.toNat ≤ 57 := UInt32.le_iff_toNat_le.mp (of_decide_eq_true hhigh)
    omega
  · decide

namespace Text

/-- In ASCII only capital letters have another lower case. -/
theorem find?_lowerRuns : ∀ n < 128, (n < 65 ∨ 90 < n) → (lowerRuns.find? fun (first, last, step, _) =>
    first ≤ n && n ≤ last && (n - first) % step == 0) = none := by
  decide +kernel

theorem lowerChar_of_plain {c : Char} (h : isPlainChar c = true) : lowerChar c = c := by
  obtain ⟨hascii, hsmall⟩ := toNat_of_plain h
  simp [lowerChar, find?_lowerRuns c.toNat hascii hsmall]

theorem lowerFrom_of_plain {text : List Char} (h : ∀ c ∈ text, isPlainChar c = true)
    (before : List Char) : lowerFrom before text = text := by
  induction text generalizing before with
  | nil => rfl
  | cons c text ih =>
    have hc := h c List.mem_cons_self
    have hsigma : c ≠ 'Σ' := by
      rintro rfl
      cases hc
    have hdotted : c ≠ 'İ' := by
      rintro rfl
      cases hc
    rw [lowerFrom, ih (fun d hd => h d (List.mem_cons_of_mem _ hd)), if_neg hsigma, if_neg hdotted,
      lowerChar_of_plain hc]
    rfl

theorem lower_of_plain {s : String} (h : IsPlain s) : lower s = s := by
  rw [lower, lowerFrom_of_plain h.plain, String.ofList_toList]

end Text

namespace SettingPath

theorem isNameChar_of_plain {c : Char} (h : isPlainChar c = true) : isNameChar c = true := by
  simp only [isPlainChar, Bool.or_eq_true, decide_eq_true_eq] at h
  rcases h with (h | h) | rfl
  · have hletter : c.isAlpha = true := Bool.or_eq_true_iff.mpr (.inr h)
    simp [isNameChar, Char.isAlphanum, hletter]
  · simp [isNameChar, Char.isAlphanum, h]
  · rfl

/-- The name at the front of a text ends where a point begins the next step, or with the text. -/
theorem span_isNameChar {name : String} (h : IsPlain name) {rest : List Char}
    (hrest : rest = [] ∨ ∃ tail, rest = '.' :: tail) :
    (name.toList ++ rest).span isNameChar = (name.toList, rest) := by
  have hname : ∀ c ∈ name.toList, isNameChar c = true := fun c hc => isNameChar_of_plain (h.plain c hc)
  rw [List.span_eq_takeWhile_dropWhile, List.takeWhile_append_of_pos hname,
    List.dropWhile_append_of_pos hname]
  rcases hrest with rfl | ⟨tail, rfl⟩
  · simp
  · simp [show isNameChar '.' = false from rfl]

/-- A text that begins with a plain name is read step by step from there. -/
theorem parse_of_span {key : String} {name rest : List Char} (hname : name ≠ [])
    (hspan : key.toList.span isNameChar = (name, rest)) :
    parse key = match scanSteps rest.length rest with
      | some steps => ⟨String.ofList name, steps⟩
      | none => ⟨key, []⟩ := by
  unfold parse
  dsimp only
  rw [hspan]
  cases name with
  | nil => exact absurd rfl hname
  | cons c name => rfl

theorem parse_of_plain {name : String} (h : IsPlain name) : parse name = ⟨name, []⟩ := by
  have hspan := span_isNameChar h (.inl rfl)
  rw [List.append_nil] at hspan
  rw [parse_of_span h.nonempty hspan]
  simp [scanSteps]

theorem scanSteps_of_plain {name : String} (h : IsPlain name) (fuel : Nat) :
    scanSteps (fuel + 1) ('.' :: name.toList) = some [.name name] := by
  have hspan := span_isNameChar h (.inl rfl)
  rw [List.append_nil] at hspan
  simp only [scanSteps, hspan]
  split
  next heq => exact absurd (congrArg Prod.fst heq) h.nonempty
  next heq =>
    cases heq
    simp [scanSteps]

/-- A point between two plain names makes a path of two steps. -/
theorem parse_section {outer name : String} (houter : IsPlain outer) (hname : IsPlain name) :
    parse (String.ofList (outer.toList ++ '.' :: name.toList)) = ⟨outer, [.name name]⟩ := by
  have hspan := span_isNameChar houter (.inr ⟨name.toList, rfl⟩)
  rw [parse_of_span houter.nonempty (by rw [String.toList_ofList]; exact hspan)]
  simp [scanSteps_of_plain hname]

end SettingPath

namespace Variable

/-- Without a double underscore there is but one step. -/
theorem pathChars_of_single {name : List Char} (h : ¬ ['_', '_'] <:+: name) :
    pathChars name = name := by
  induction name with
  | nil => rfl
  | cons c name ih =>
    have hlater : ¬ ['_', '_'] <:+: name := fun hin => h (hin.trans (List.infix_cons (List.infix_refl _)))
    unfold pathChars
    split
    next heq =>
      cases heq
      exact absurd ⟨[], _, rfl⟩ h
    next heq =>
      cases heq
      rw [ih hlater]
    next heq => cases heq

end Variable

end Fanout
