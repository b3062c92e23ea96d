import Fanout.Proofs.Config.Faithful
import Fanout.Proofs.Json.Grammar

/-!
Values as they may be spelled in a text. A form understands a spelling if it reads every text that says a
value as that value, whatever blanks and escapes are in it, and stops where a name is repeated that may stand
once. The forms of numbers, truth values, alternatives and addresses understand theirs.
-/

namespace Fanout

open Json (AreBlanks Begins Bracketed Ends IsValue Part Spells skipBlanks)

/-- The texts that say a value. -/
structure Spelling (α : Type) where
  means : α → List Char → Prop
  /-- Texts that break off after a name that is there for the second time. -/
  repeats : String → List Char → Prop := fun _ _ => False

namespace Spelling

variable {α : Type}

/-- The text says some value: it is of the right type, and in range. -/
def Accepts (σ : Spelling α) (text : List Char) : Prop :=
  ∃ x, σ.means x text

/-- The text of a string with its quotes, in which characters may be escaped. -/
def IsQuoted (s : String) (text : List Char) : Prop :=
  ∃ raw, Spells raw s.toList ∧ text = '"' :: (raw ++ ['"'])

end Spelling

/-- A value in an object stands behind this name. -/
def Json.Part.Names (p : Part true) (name : String) : Prop :=
  ∃ raw blanks, Spells raw name.toList ∧ AreBlanks blanks ∧
    p.label = '"' :: (raw ++ '"' :: (blanks ++ [':']))

namespace Spelling

variable {α : Type}

/-- A whole number of 64 bits, in decimal digits. -/
def natural : Spelling Nat where
  means n text := n ≤ Number.maxWord ∧ text = Nat.toDigits 10 n

def boolean : Spelling Bool where
  means b text := text = (Json.bool b).chars

/-- The name of an alternative, or an object with this name and `null`. -/
def choice (label : α → String) (all : List α) : Spelling α where
  means x text := x ∈ all ∧ (IsQuoted (label x) text ∨ ∃ (o : Bracketed true) (p : Part true),
    o.parts = [p] ∧ p.Names (label x) ∧ p.value = Json.null.chars ∧ text = o.text)

/-- A string that is understood, or `null`. -/
def parsed (parse? : String → Option α) : Spelling (Option α) where
  means
    | none, text => text = Json.null.chars
    | some x, text => ∃ s, parse? s = some x ∧ IsQuoted s text

end Spelling

/-- What is said about a name that is there for the second time. -/
def Json.Fault.repeated (name : String) : Json.Fault :=
  .mismatch ("duplicate field `" ++ name ++ "`")

/-- A form reads what a spelling says, and no further than to a name that is repeated. -/
structure Form.Understands {α : Type} (form : Form α) (σ : Spelling α) : Prop where
  blanks : ∀ text, form.shape (skipBlanks text) = form.shape text
  begins : ∀ {x text}, σ.means x text → Begins text
  reads : ∀ {x text rest}, σ.means x text → Ends rest → form.shape (text ++ rest) = .ok (x, rest)
  repeated : ∀ {name text}, σ.repeats name text →
    Begins text ∧ ∀ rest, form.shape (text ++ rest) = .error (.repeated name)

namespace Json

theorem Spells.scanQuoted {raw : List Char} {s : String} (h : Spells raw s.toList) (rest : List Char) :
    scanQuoted ('"' :: (raw ++ '"' :: rest)) = some (s, rest) := by
  rw [Json.scanQuoted, scanString_of_spells h]
  simp

/-- The text of a member from its name to what follows it. -/
theorem Part.Names.text_append {p : Part true} {name : String} (h : p.Names name) :
    ∃ raw blanks, Spells raw name.toList ∧ AreBlanks blanks ∧ ∀ rest, p.text ++ rest =
      p.before ++ '"' :: (raw ++ '"' :: (blanks ++ ':' :: (p.between ++ (p.value ++ (p.after ++ rest))))) := by
  obtain ⟨raw, blanks, hraw, hblanks, hlabel⟩ := h
  exact ⟨raw, blanks, hraw, hblanks, fun rest => by simp [Part.text, hlabel]⟩

namespace Shape

variable {α : Type}

theorem colon_append {blanks : List Char} (h : AreBlanks blanks) (rest : List Char) :
    colon (blanks ++ ':' :: rest) = .ok rest := by
  rw [colon, skipBlanks_append h, skipBlanks_cons rfl]
  rfl

theorem unit_append {blanks : List Char} (h : AreBlanks blanks) (rest : List Char) :
    unit (blanks ++ (null.chars ++ rest)) = .ok rest := by
  rw [unit, skipBlanks_append h]
  rfl

theorem text_append {blanks raw : List Char} {s : String} (hblanks : AreBlanks blanks)
    (hraw : Spells raw s.toList) (expected : String) (rest : List Char) :
    Shape.text expected (blanks ++ '"' :: (raw ++ '"' :: rest)) = .ok (s, rest) := by
  rw [Shape.text, skipBlanks_append hblanks, skipBlanks_cons rfl]
  simp [scanString_of_spells hraw, orMalformed, bind, Except.bind, pure, Except.pure]

section Choice

variable {label : α → String} {all : List α} {x : α} {blanks raw : List Char}

theorem alternative_append (hlabels : (all.map label).Nodup) (hx : x ∈ all) (hblanks : AreBlanks blanks)
    (hraw : Spells raw (label x).toList) (rest : List Char) :
    alternative label all (blanks ++ '"' :: (raw ++ '"' :: rest)) = .ok (x, rest) := by
  simp [alternative, text_append hblanks hraw, find?_label label hlabels hx, bind, Except.bind, pure,
    Except.pure]

/-- An alternative is read from its name. -/
theorem choice_of_quoted (hlabels : (all.map label).Nodup) (hx : x ∈ all) {text : List Char}
    (htext : Spelling.IsQuoted (label x) text) (rest : List Char) :
    choice label all (text ++ rest) = .ok (x, rest) := by
  obtain ⟨raw, hraw, rfl⟩ := htext
  have hname := alternative_append hlabels hx areBlanks_nil hraw rest
  rw [choice, List.cons_append, skipBlanks_cons rfl, List.append_assoc]
  exact hname

/-- An alternative is read from an object with its name. -/
theorem choice_of_object (hlabels : (all.map label).Nodup) (hx : x ∈ all) {o : Bracketed true}
    {p : Part true} (hparts : o.parts = [p]) (hname : p.Names (label x)) (hvalue : p.value = null.chars)
    (rest : List Char) : choice label all (o.text ++ rest) = .ok (x, rest) := by
  obtain ⟨raw, blanks, hraw, hblanks, htext⟩ := hname.text_append
  have hobject : o.text ++ rest = '\x7b' :: (p.text ++ (o.gap ++ '\x7d' :: rest)) := by
    simp [Bracketed.text, hparts, partsText, separator, opening, closing]
  have hend : skipBlanks (p.after ++ (o.gap ++ '\x7d' :: rest)) = '\x7d' :: rest := by
    rw [skipBlanks_append p.after_blanks, skipBlanks_append o.gap_blanks, skipBlanks_cons rfl]
  rw [hobject, choice, skipBlanks_cons rfl, htext, hvalue]
  simp [alternative_append hlabels hx p.before_blanks hraw, colon_append hblanks,
    unit_append p.between_blanks, hend, bind, Except.bind, pure, Except.pure]

end Choice

end Shape

end Json

theorem Spelling.IsQuoted.begins {s : String} {text : List Char} (h : IsQuoted s text) : Begins text := by
  obtain ⟨raw, -, rfl⟩ := h
  exact ⟨'"', _, rfl, by decide⟩

namespace Form

open Json.Shape

variable {α : Type}

theorem understands_natural (expected : String) : (natural expected).Understands .natural where
  blanks := fun text => by
    change Json.Shape.natural expected _ = Json.Shape.natural expected _
    rw [Json.Shape.natural, Json.Shape.natural, Json.skipBlanks_idem]
  begins := by
    rintro n _ ⟨-, rfl⟩
    obtain ⟨c, digits, heq, hc⟩ := Json.toDigits_eq_cons n
    refine ⟨c, digits, heq, Bool.eq_false_iff.mpr fun hblank => ?_, ?_, ?_⟩
    · rcases Json.isBlank_iff.mp hblank with rfl | rfl | rfl | rfl <;> cases hc
    · rintro rfl
      cases hc
    · rintro rfl
      cases hc
  reads := by
    rintro n _ rest ⟨hn, rfl⟩ hrest
    have hchars : (Json.nat n).chars = Nat.toDigits 10 n := Nat.toList_repr
    exact hchars ▸ natural_toDigits hn hrest
  repeated := False.elim

theorem understands_boolean : boolean.Understands .boolean where
  blanks := fun text => by
    change Json.Shape.boolean _ = Json.Shape.boolean _
    rw [Json.Shape.boolean, Json.Shape.boolean, Json.skipBlanks_idem]
  begins := by
    rintro b _ rfl
    cases b <;> exact ⟨_, _, rfl, by decide⟩
  reads := by
    rintro b _ rest rfl _
    exact boolean_chars b rest
  repeated := False.elim

/-- Alternatives with different names. -/
theorem understands_choice (title : String) {label : α → String} {all : List α}
    (hlabels : (all.map label).Nodup) : (choice title label all).Understands (.choice label all) where
  blanks := fun text => by
    change Json.Shape.choice label all _ = Json.Shape.choice label all _
    rw [Json.Shape.choice, Json.Shape.choice, Json.skipBlanks_idem]
  begins := by
    rintro x _ ⟨-, hquoted | ⟨o, -, -, -, -, rfl⟩⟩
    · exact hquoted.begins
    · exact ⟨'\x7b', _, rfl, by decide⟩
  reads := by
    rintro x _ rest ⟨hx, hquoted | ⟨o, p, hparts, hname, hvalue, rfl⟩⟩ _
    · exact choice_of_quoted hlabels hx hquoted rest
    · exact choice_of_object hlabels hx hparts hname hvalue rest
  repeated := False.elim

theorem understands_parsed (expected message : String) (parse? : String → Option α)
    (display : α → String) :
    (parsed expected message parse? display).Understands (.parsed parse?) where
  blanks := fun text => by
    change nullable _ _ = nullable _ _
    rw [nullable, nullable, Json.skipBlanks_idem]
  begins := by
    rintro (_ | x) text hmeans
    · cases hmeans
      exact ⟨'n', _, rfl, by decide⟩
    · obtain ⟨s, -, hquoted⟩ := hmeans
      exact hquoted.begins
  reads := by
    rintro (_ | x) text rest hmeans _
    · cases hmeans
      rfl
    · obtain ⟨s, hs, raw, hraw, rfl⟩ := hmeans
      have htext := text_append Json.areBlanks_nil hraw expected rest
      rw [List.nil_append] at htext
      change nullable (Json.Shape.parsed expected message parse?) ('"' :: (raw ++ ['"']) ++ rest) =
        .ok (some x, rest)
      rw [nullable, List.cons_append, Json.skipBlanks_cons rfl, List.append_assoc]
      simp [Json.Shape.parsed, htext, hs, bind, Except.bind, pure, Except.pure]
  repeated := False.elim

end Form

end Fanout
