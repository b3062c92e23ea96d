import Mathlib.Data.List.Nodup
import Fanout.Proofs.Config.Spelling

/-!
Records read from their entries. The slots of a record say which names are known, what is spelled behind
them and where the value goes. What a record holds after some entries were read depends on these entries
only: each slot has the value of its entry, or what it had before (`members_parts`, `items_parts`). So a
record is understood in the form of an object, with its members in any order and others among them, and in
the form of an array (`Form.understands_record`).
-/

namespace Fanout

open Json (AreBlanks Begins Bracketed Ends IsValue Part Spells closing partsText separator skipBlanks)

/-- A part of a record: its name, the texts of its values, and the value in a record. -/
structure Slot (C : Type) where
  name : String
  Value : Type
  spelling : Spelling Value
  get : C → Value

/-- A name with the text of a value. -/
abbrev Entry := String × List Char

variable {C : Type}

/-- A record has in this slot the value of the entry with its name, and without one the value that
another record has. -/
def Slot.Holds (s : Slot C) (before : C) (entries : List Entry) (c : C) : Prop :=
  (∀ text, (s.name, text) ∈ entries → s.spelling.means (s.get c) text) ∧
    ((∀ text, (s.name, text) ∉ entries) → s.get c = s.get before)

/-- All of a record is what the entries say, and else as it was before. -/
def Describes (slots : List (Slot C)) (before : C) (entries : List Entry) (c : C) : Prop :=
  ∀ s ∈ slots, s.Holds before entries c

/-- Known names stand at most once, with values of their types; what stands behind other names is some
value. -/
structure WellTyped (slots : List (Slot C)) (entries : List Entry) : Prop where
  once : ∀ s ∈ slots, (entries.map Prod.fst).count s.name ≤ 1
  typed : ∀ s ∈ slots, ∀ text, (s.name, text) ∈ entries → s.spelling.Accepts text
  others : ∀ e ∈ entries, (∀ s ∈ slots, s.name ≠ e.1) → IsValue e.2

/-- The members of an object have these names and values. -/
def ListsEntries (parts : List (Part true)) (entries : List Entry) : Prop :=
  List.Forall₂ (fun p e => p.Names e.1 ∧ p.value = e.2) parts entries

/-- The values of an array as entries: each belongs to the slot at its place. -/
def positional (slots : List (Slot C)) (parts : List (Part false)) : List Entry :=
  (slots.map (·.name)).zip (parts.map (·.value))

/-- The texts of a record. -/
inductive RecordMeans (slots : List (Slot C)) (default c : C) : List Char → Prop
  | object {o : Bracketed true} {entries : List Entry} (hlists : ListsEntries o.parts entries)
    (htyped : WellTyped slots entries) (hdescribes : Describes slots default entries c) :
    RecordMeans slots default c o.text
  | array {a : Bracketed false} (hlength : a.parts.length ≤ slots.length)
    (hdescribes : Describes slots default (positional slots a.parts) c) :
    RecordMeans slots default c a.text

/-- Texts of a record that break off after a known name that is there for the second time, or within a
value where this happens. Before that they are in order. -/
inductive RecordRepeats (slots : List (Slot C)) : String → List Char → Prop
  | here {parts : List (Part true)} {entries : List Entry} {s : Slot C} {before raw : List Char}
    (hlists : ListsEntries parts entries) (htyped : WellTyped slots entries) (hs : s ∈ slots)
    (hold : ∃ text, (s.name, text) ∈ entries) (hblanks : AreBlanks before)
    (hraw : Spells raw s.name.toList) :
    RecordRepeats slots s.name
      ('\x7b' :: (partsText true parts ++ ',' :: (before ++ '"' :: (raw ++ ['"']))))
  | member {parts : List (Part true)} {entries : List Entry} {s : Slot C} {p : Part true} {name : String}
    (hlists : ListsEntries parts entries) (htyped : WellTyped slots entries) (hs : s ∈ slots)
    (hnew : ∀ text, (s.name, text) ∉ entries) (hname : p.Names s.name)
    (hrepeats : s.spelling.repeats name p.value) :
    RecordRepeats slots name ('\x7b' :: partsText true (parts ++ [p]))
  | item {parts : List (Part false)} {s : Slot C} {p : Part false} {name : String}
    (htyped : ∀ e ∈ slots.zip parts, e.1.spelling.Accepts e.2.value)
    (hs : slots[parts.length]? = some s) (hrepeats : s.spelling.repeats name p.value) :
    RecordRepeats slots name ('[' :: partsText true (parts ++ [p]))

/-- A record, in the form of an object or of an array. -/
def Spelling.record (slots : List (Slot C)) (default : C) : Spelling C where
  means := RecordMeans slots default
  repeats := RecordRepeats slots

/-- A field reads what its slot says, and leaves the other slots alone. -/
structure Slot.Fits (slots : List (Slot C)) (f : Field C) (s : Slot C) : Prop where
  name : f.name = s.name
  blanks : ∀ text, f.shape (skipBlanks text) = f.shape text
  begins : ∀ {x text}, s.spelling.means x text → Begins text
  reads : ∀ {x text rest}, s.spelling.means x text → Ends rest →
    ∃ update : C → C, f.shape (text ++ rest) = .ok (update, rest) ∧
      ∀ c, s.get (update c) = x ∧ ∀ s' ∈ slots, s'.name ≠ s.name → s'.get (update c) = s'.get c
  repeated : ∀ {name text}, s.spelling.repeats name text →
    Begins text ∧ ∀ rest, f.shape (text ++ rest) = .error (.repeated name)

/-! ### What entries describe -/

section Describes

variable {slots : List (Slot C)} {before c d : C} {entries : List Entry} {e : Entry}

theorem describes_nil : Describes slots c [] c :=
  fun _ _ => ⟨fun _ h => absurd h List.not_mem_nil, fun _ => rfl⟩

theorem WellTyped.tail (h : WellTyped slots (e :: entries)) : WellTyped slots entries where
  once := fun s hs => Nat.le_trans (List.count_le_count_cons ..) (h.once s hs)
  typed := fun s hs text htext => h.typed s hs text (List.mem_cons_of_mem _ htext)
  others := fun e he => h.others e (List.mem_cons_of_mem _ he)

theorem mem_positional {parts : List (Part false)} {pair : Slot C × Part false}
    (h : pair ∈ slots.zip parts) : (pair.1.name, pair.2.value) ∈ positional slots parts := by
  rw [positional, List.zip_map]
  exact List.mem_map_of_mem h

/-- A known name does not come again. -/
theorem WellTyped.fresh {s : Slot C} {text : List Char} (h : WellTyped slots ((s.name, text) :: entries))
    (hs : s ∈ slots) (other : List Char) : (s.name, other) ∉ entries := by
  intro hin
  have hcount := h.once s hs
  rw [List.map_cons, List.count_cons_self] at hcount
  have hpos : 0 < (entries.map Prod.fst).count s.name := List.count_pos_iff.mpr (List.mem_map_of_mem hin)
  omega

/-- An entry with an unknown name says nothing. -/
theorem Describes.cons_other (h : Describes slots before entries c)
    (hother : ∀ s ∈ slots, s.name ≠ e.1) : Describes slots before (e :: entries) c := by
  intro s hs
  have hiff : ∀ text, (s.name, text) ∈ e :: entries ↔ (s.name, text) ∈ entries := by
    intro text
    rw [List.mem_cons, or_iff_right]
    rintro rfl
    exact hother s hs rfl
  simpa only [Slot.Holds, hiff] using h s hs

/-- An entry with a known name says what its slot holds, and nothing about the others. -/
theorem Describes.cons_known {s : Slot C} {text : List Char} (hnames : (slots.map (·.name)).Nodup)
    (hs : s ∈ slots) (hfresh : ∀ other, (s.name, other) ∉ entries)
    (hmeans : s.spelling.means (s.get d) text)
    (hothers : ∀ s' ∈ slots, s'.name ≠ s.name → s'.get d = s'.get before)
    (h : Describes slots d entries c) : Describes slots before ((s.name, text) :: entries) c := by
  intro s' hs'
  by_cases hsame : s'.name = s.name
  · obtain rfl := List.inj_on_of_nodup_map hnames hs' hs hsame
    refine ⟨fun other hother => ?_, fun hnone => absurd List.mem_cons_self (hnone text)⟩
    rcases List.mem_cons.mp hother with heq | hin
    · cases heq
      rw [(h s' hs').2 hfresh]
      exact hmeans
    · exact absurd hin (hfresh other)
  · have hiff : ∀ other, (s'.name, other) ∈ (s.name, text) :: entries ↔ (s'.name, other) ∈ entries := by
      intro other
      rw [List.mem_cons, or_iff_right]
      intro heq
      exact hsame (congrArg Prod.fst heq)
    have hholds := h s' hs'
    simpa only [Slot.Holds, hiff, hothers s' hs' hsame] using hholds

end Describes

theorem Slot.Fits.shape_append {slots : List (Slot C)} {f : Field C} {s : Slot C} (h : s.Fits slots f)
    {blanks : List Char} (hblanks : AreBlanks blanks) (text : List Char) :
    f.shape (blanks ++ text) = f.shape text := by
  rw [← h.blanks, Json.skipBlanks_append hblanks, h.blanks]

/-! ### Members of an object -/

namespace Json

theorem Part.Names.scanQuoted {p : Part true} {name : String} (h : p.Names name) (rest : List Char) :
    ∃ tail, Json.scanQuoted (skipBlanks (p.text ++ rest)) = some (name, tail) ∧
      Shape.colon tail = .ok (p.between ++ (p.value ++ (p.after ++ rest))) := by
  obtain ⟨raw, blanks, hraw, hblanks, htext⟩ := h.text_append
  refine ⟨_, ?_, Shape.colon_append hblanks _⟩
  rw [htext, skipBlanks_append p.before_blanks, skipBlanks_cons rfl, hraw.scanQuoted]

namespace Shape

section Member

variable {shapes : Fields C} {p : Part true} {name : String} {rest : List Char}

/-- A member with an unknown name is passed over. -/
theorem member_other (seen : List String) (c : C) (next : List String → C → Shape C)
    (hname : p.Names name) (hfind : shapes.find? (·.1 == name) = none) (hvalue : IsValue p.value)
    (hrest : Ends (p.after ++ rest)) :
    member shapes seen c next (skipBlanks (p.text ++ rest)) = next seen c (p.after ++ rest) := by
  obtain ⟨tail, hscan, hcolon⟩ := hname.scanQuoted rest
  simp [member, hscan, hfind, hcolon, skipValue_of_value p.between_blanks hvalue hrest, orMalformed, bind,
    Except.bind]

/-- A member with a known name is read into its field. -/
theorem member_known {shape : Shape (C → C)} {seen : List String} (c : C)
    (next : List String → C → Shape C) (hname : p.Names name)
    (hfind : shapes.find? (·.1 == name) = some (name, shape)) (hseen : name ∉ seen) :
    member shapes seen c next (skipBlanks (p.text ++ rest)) =
      (shape (p.between ++ (p.value ++ (p.after ++ rest)))).bind fun (update, rest) =>
        next (name :: seen) (update c) rest := by
  obtain ⟨tail, hscan, hcolon⟩ := hname.scanQuoted rest
  simp [member, hscan, hfind, hcolon, hseen, orMalformed, bind, Except.bind]

/-- A known name that was seen is refused. -/
theorem member_repeated {shape : Shape (C → C)} {seen : List String} (c : C)
    (next : List String → C → Shape C) {raw : List Char} (hraw : Spells raw name.toList)
    (hfind : shapes.find? (·.1 == name) = some (name, shape)) (hseen : name ∈ seen) (rest : List Char) :
    member shapes seen c next ('"' :: (raw ++ '"' :: rest)) = .error (.repeated name) := by
  simp [member, hraw.scanQuoted, hfind, hseen, orMalformed, Fault.repeated, bind, Except.bind]

/-- A member that follows in its place is looked at. -/
theorem members_separator (shapes : Fields C) {text tail : List Char} (htext : skipBlanks text = '"' :: tail)
    (fuel : Nat) (isFirst : Bool) (seen : List String) (c : C) :
    members shapes (fuel + 1) isFirst seen c (separator isFirst ++ text) =
      member shapes seen c (members shapes fuel false) ('"' :: tail) := by
  cases isFirst with
  | false =>
    change members shapes (fuel + 1) false seen c (',' :: text) = _
    rw [members, skipBlanks_cons rfl, ← htext]
    rfl
  | true =>
    change members shapes (fuel + 1) true seen c text = _
    rw [members, htext]
    rfl

theorem members_part (p : Part true) (fuel : Nat) (isFirst : Bool) (seen : List String) (c : C)
    (rest : List Char) :
    members shapes (fuel + 1) isFirst seen c (separator isFirst ++ (p.text ++ rest)) =
      member shapes seen c (members shapes fuel false) (skipBlanks (p.text ++ rest)) := by
  obtain ⟨tail, hquote⟩ := p.skipBlanks_object rest
  rw [members_separator _ hquote, hquote]

theorem members_append {blanks : List Char} (h : AreBlanks blanks) (fuel : Nat) (isFirst : Bool)
    (seen : List String) (c : C) (text : List Char) :
    members shapes fuel isFirst seen c (blanks ++ text) = members shapes fuel isFirst seen c text := by
  cases fuel with
  | zero => rfl
  | succ fuel => rw [members, members, skipBlanks_append h]

theorem members_closing {gap : List Char} (hgap : AreBlanks gap) (fuel : Nat) (isFirst : Bool)
    (seen : List String) (c : C) (rest : List Char) :
    members shapes (fuel + 1) isFirst seen c (gap ++ '\x7d' :: rest) = .ok (c, rest) := by
  rw [members_append hgap, members, skipBlanks_cons rfl]
  rfl

theorem members_cons_other {parts : List (Part true)} (hname : p.Names name)
    (hfind : shapes.find? (·.1 == name) = none) (hvalue : IsValue p.value)
    (hends : Ends (p.after ++ (partsText false parts ++ rest))) (fuel : Nat) (isFirst : Bool)
    (seen : List String) (c : C) :
    members shapes (fuel + (p :: parts).length) isFirst seen c (partsText isFirst (p :: parts) ++ rest) =
      members shapes (fuel + parts.length) false seen c (partsText false parts ++ rest) := by
  rw [partsText_cons_append, List.length_cons, ← Nat.add_assoc, members_part,
    member_other seen c _ hname hfind hvalue hends, members_append p.after_blanks]

theorem members_cons_known {shape : Shape (C → C)} {update : C → C} {parts : List (Part true)}
    {seen : List String} (hname : p.Names name)
    (hfind : shapes.find? (·.1 == name) = some (name, shape)) (hseen : name ∉ seen)
    (hshape : shape (p.between ++ (p.value ++ (p.after ++ (partsText false parts ++ rest)))) =
      .ok (update, p.after ++ (partsText false parts ++ rest))) (fuel : Nat) (isFirst : Bool) (c : C) :
    members shapes (fuel + (p :: parts).length) isFirst seen c (partsText isFirst (p :: parts) ++ rest) =
      members shapes (fuel + parts.length) false (name :: seen) (update c)
        (partsText false parts ++ rest) := by
  rw [partsText_cons_append, List.length_cons, ← Nat.add_assoc, members_part,
    member_known c _ hname hfind hseen, hshape]
  exact members_append p.after_blanks ..

end Member

variable {slots all : List (Slot C)} {fields : List (Field C)} {c : C} {rest : List Char}

/-- A name finds the field of its slot, if there is one. -/
theorem find?_shapes (hfits : List.Forall₂ (Slot.Fits all) fields slots) (name : String) :
    ((∀ s ∈ slots, s.name ≠ name) ∧ (Field.shapes fields).find? (·.1 == name) = none) ∨
      ∃ s ∈ slots, s.name = name ∧ ∃ f, s.Fits all f ∧
        (Field.shapes fields).find? (·.1 == name) = some (name, f.shape) := by
  induction hfits with
  | nil => exact .inl ⟨List.forall_mem_nil _, rfl⟩
  | @cons f s fields slots hf _ ih =>
    by_cases hsame : s.name = name
    · refine .inr ⟨s, List.mem_cons_self, hsame, f, hf, ?_⟩
      simp [Field.shapes, hf.name, hsame]
    · have hfind : (Field.shapes (f :: fields)).find? (·.1 == name) =
          (Field.shapes fields).find? (·.1 == name) := by
        simp [Field.shapes, hf.name, hsame]
      rw [hfind]
      rcases ih with ⟨hnone, hfind⟩ | ⟨s', hs', h⟩
      · exact .inl ⟨List.forall_mem_cons.mpr ⟨hsame, hnone⟩, hfind⟩
      · exact .inr ⟨s', List.mem_cons_of_mem _ hs', h⟩

/-- The members of an object are read one after the other. The record has then what they describe, and the
names that were seen are the known ones among theirs. -/
theorem members_parts (hfits : List.Forall₂ (Slot.Fits slots) fields slots)
    (hnames : (slots.map (·.name)).Nodup) {parts : List (Part true)} {entries : List Entry}
    (hlists : ListsEntries parts entries) (htyped : WellTyped slots entries) (rest : List Char)
    (hrest : parts ≠ [] → Ends rest) (isFirst : Bool) (seen : List String)
    (hseen : ∀ s ∈ slots, ∀ text, (s.name, text) ∈ entries → s.name ∉ seen) (c : C) :
    ∃ c' seen', (∀ fuel, members (Field.shapes fields) (fuel + parts.length) isFirst seen c
        (partsText isFirst parts ++ rest) =
          members (Field.shapes fields) fuel (isFirst && parts.isEmpty) seen' c' rest) ∧
      (∀ s ∈ slots, s.name ∈ seen' ↔ s.name ∈ seen ∨ ∃ text, (s.name, text) ∈ entries) ∧
      Describes slots c entries c' := by
  -- Each name is new to `seen`: names of earlier members are other ones, since known names stand only once.
  induction hlists generalizing isFirst seen c with
  | nil =>
    refine ⟨c, seen, fun fuel => by simp [partsText], fun s hs => ?_, describes_nil⟩
    simp
  | @cons p e parts entries hp _ ih =>
    obtain ⟨hname, hvalue⟩ := hp
    obtain ⟨name, text⟩ := e
    have hends : Ends (p.after ++ (partsText false parts ++ rest)) :=
      Ends.blanks_append p.after_blanks (ends_partsText parts (hrest (List.cons_ne_nil _ _)))
    have hnext := ih htyped.tail (fun _ => hrest (List.cons_ne_nil _ _)) false
    rcases find?_shapes hfits name with ⟨hother, hfind⟩ | ⟨s, hs, rfl, f, hf, hfind⟩
    · obtain ⟨c', seen', hmembers, hnamed, hdescribes⟩ := hnext seen
        (fun s hs other hin => hseen s hs other (List.mem_cons_of_mem _ hin)) c
      have hskipped : IsValue p.value := hvalue ▸ htyped.others _ List.mem_cons_self hother
      refine ⟨c', seen', fun fuel => ?_, fun s hs => ?_, hdescribes.cons_other hother⟩
      · rw [members_cons_other hname hfind hskipped hends, hmembers]
        simp
      · rw [hnamed s hs]
        simp [hother s hs]
    · obtain ⟨x, hmeans⟩ := htyped.typed s hs text List.mem_cons_self
      obtain ⟨update, hreads, hupdate⟩ := hf.reads hmeans hends
      have hshape : f.shape (p.between ++ (p.value ++ (p.after ++ (partsText false parts ++ rest)))) =
          .ok (update, p.after ++ (partsText false parts ++ rest)) := by
        rw [hf.shape_append p.between_blanks, hvalue, hreads]
      have hfresh := htyped.fresh hs
      have hunseen : s.name ∉ seen := hseen s hs text List.mem_cons_self
      obtain ⟨c', seen', hmembers, hnamed, hdescribes⟩ := hnext (s.name :: seen)
        (fun s' hs' other hin hold => by
          rcases List.mem_cons.mp hold with hsame | hold
          · exact hfresh other (hsame ▸ hin)
          · exact hseen s' hs' other (List.mem_cons_of_mem _ hin) hold) (update c)
      refine ⟨c', seen', fun fuel => ?_, fun s' hs' => ?_,
        hdescribes.cons_known hnames hs hfresh ((hupdate c).1 ▸ hmeans) (hupdate c).2⟩
      · rw [members_cons_known hname hfind hunseen hshape, hmembers]
        simp
      · rw [hnamed s' hs']
        simp only [List.mem_cons, Prod.mk.injEq, exists_or, exists_and_left, exists_eq, and_true]
        tauto

/-! ### Items of an array -/

section Item

/-- An item that follows in its place is read into its field. -/
theorem items_part (shapes : Fields C) {p : Part false} (hbegins : Begins p.value) (name : String)
    (shape : Shape (C → C)) (isFirst : Bool) (c : C) (rest : List Char) :
    items ((name, shape) :: shapes) isFirst c (separator isFirst ++ (p.text ++ rest)) =
      (shape (p.value ++ (p.after ++ rest))).bind fun (update, rest) =>
        items shapes false (update c) rest := by
  have hskip := p.skipBlanks_array hbegins rest
  obtain ⟨d, tail, hhead, hblank, hcomma, hclose⟩ := hbegins
  rw [hhead, List.cons_append] at hskip ⊢
  cases isFirst with
  | false =>
    change items ((name, shape) :: shapes) false c (',' :: (p.text ++ rest)) = _
    conv_lhs => unfold items
    rw [skipBlanks_cons rfl]
    simp only [hskip, Bool.false_eq_true, if_false]
    split
    next heq => cases heq; exact absurd rfl hclose
    next heq => cases heq
    next => rfl
  | true =>
    change items ((name, shape) :: shapes) true c (p.text ++ rest) = _
    conv_lhs => unfold items
    simp only [hskip]
    split
    next heq => cases heq; exact absurd rfl hclose
    next heq => cases heq; exact absurd rfl hcomma
    next heq => cases heq
    next => rfl

variable {shapes : Fields C}

theorem items_append {blanks : List Char} (h : AreBlanks blanks) (isFirst : Bool) (c : C)
    (text : List Char) : items shapes isFirst c (blanks ++ text) = items shapes isFirst c text := by
  cases shapes with
  | nil => rw [items, items, skipBlanks_append h]
  | cons field shapes =>
    conv_lhs => unfold items
    conv_rhs => unfold items
    rw [skipBlanks_append h]

theorem items_closing {gap : List Char} (hgap : AreBlanks gap) (isFirst : Bool) (c : C)
    (rest : List Char) : items shapes isFirst c (gap ++ ']' :: rest) = .ok (c, rest) := by
  rw [items_append hgap]
  cases shapes <;> rfl

end Item

/-- The items of an array are read into the fields at their places, and the record has then what they
describe. -/
theorem items_parts (hnames : (slots.map (·.name)).Nodup) {later : List (Slot C)}
    (hfits : List.Forall₂ (Slot.Fits slots) fields later) (hlater : ∀ s ∈ later, s ∈ slots)
    (hdistinct : (later.map (·.name)).Nodup) {parts : List (Part false)}
    (hlength : parts.length ≤ later.length)
    (htyped : ∀ e ∈ later.zip parts, e.1.spelling.Accepts e.2.value) (rest : List Char)
    (hrest : parts ≠ [] → Ends rest) (isFirst : Bool) (c : C) :
    ∃ c', items (Field.shapes fields) isFirst c (partsText isFirst parts ++ rest) =
        items (Field.shapes (fields.drop parts.length)) (isFirst && parts.isEmpty) c' rest ∧
      Describes slots c (positional later parts) c' := by
  induction hfits generalizing parts isFirst c with
  | nil =>
    obtain rfl := List.length_eq_zero_iff.mp (Nat.le_zero.mp hlength)
    exact ⟨c, by simp [partsText], describes_nil⟩
  | @cons f s fields later hf _ ih =>
    cases parts with
    | nil => exact ⟨c, by simp [partsText], by simpa [positional] using describes_nil⟩
    | cons p parts =>
      rw [List.map_cons, List.nodup_cons] at hdistinct
      rw [List.zip_cons_cons] at htyped
      have hends : Ends (p.after ++ (partsText false parts ++ rest)) :=
        Ends.blanks_append p.after_blanks (ends_partsText parts (hrest (List.cons_ne_nil _ _)))
      obtain ⟨x, hmeans⟩ : s.spelling.Accepts p.value := htyped _ List.mem_cons_self
      obtain ⟨update, hshape, hupdate⟩ := hf.reads hmeans hends
      obtain ⟨c', hitems, hdescribes⟩ := ih (fun s hs => hlater s (List.mem_cons_of_mem _ hs)) hdistinct.2
        (Nat.le_of_succ_le_succ hlength) (fun e he => htyped e (List.mem_cons_of_mem _ he))
        (fun _ => hrest (List.cons_ne_nil _ _)) false (update c)
      have hfresh : ∀ other, (s.name, other) ∉ positional later parts := fun other hin =>
        hdistinct.1 (List.of_mem_zip hin).1
      refine ⟨c', ?_, hdescribes.cons_known hnames (hlater s List.mem_cons_self) hfresh
        ((hupdate c).1 ▸ hmeans) (hupdate c).2⟩
      have hpart := items_part (Field.shapes fields) (hf.begins hmeans) f.name f.shape isFirst c
        (partsText false parts ++ rest)
      calc items (Field.shapes (f :: fields)) isFirst c (partsText isFirst (p :: parts) ++ rest)
        _ = (f.shape (p.value ++ (p.after ++ (partsText false parts ++ rest)))).bind _ := by
          rw [partsText_cons_append]
          exact hpart
        _ = items (Field.shapes fields) false (update c) (p.after ++ (partsText false parts ++ rest)) := by
          rw [hshape]
          rfl
        _ = items (Field.shapes fields) false (update c) (partsText false parts ++ rest) :=
          items_append p.after_blanks ..
        _ = _ := by
          rw [hitems]
          simp

end Shape

/-! ### Records -/

theorem partsText_append {isObject : Bool} (isFirst : Bool) (parts more : List (Part isObject)) :
    partsText isFirst (parts ++ more) =
      partsText isFirst parts ++ partsText (isFirst && parts.isEmpty) more := by
  induction parts generalizing isFirst with
  | nil => simp [partsText]
  | cons p parts ih => simp [partsText, ih]

/-- After some parts the next one stands behind a comma. -/
theorem ends_next {isObject : Bool} {parts : List (Part isObject)} (hne : parts ≠ []) (isFirst : Bool)
    (p : Part isObject) (rest : List Char) :
    Ends (partsText (isFirst && parts.isEmpty) [p] ++ rest) := by
  rw [List.isEmpty_eq_false_iff.mpr hne, Bool.and_false]
  exact ends_cons (.inl rfl) _

theorem length_le_partsText (isFirst : Bool) (parts : List (Part true)) :
    parts.length ≤ (partsText isFirst parts).length := by
  induction parts generalizing isFirst with
  | nil => exact Nat.zero_le _
  | cons p parts ih =>
    have hlater := ih false
    obtain ⟨raw, blanks, -, -, hlabel⟩ := p.isLabel
    simp only [partsText, Part.text, hlabel, List.length_append, List.length_cons] at hlater ⊢
    omega

end Json

section Record

open Json Json.Shape

variable {slots : List (Slot C)} {r : RecordForm C} {rest : List Char}

theorem Slot.Fits.unique {f : Field C} {s : Slot C} (h : s.Fits slots f) (c : C) {x y : s.Value}
    {text : List Char} (hx : s.spelling.means x text) (hy : s.spelling.means y text) : x = y := by
  obtain ⟨update, hshape, hupdate⟩ := h.reads hx ends_nil
  obtain ⟨update', hshape', hupdate'⟩ := h.reads hy ends_nil
  cases hshape.symm.trans hshape'
  exact (hupdate c).1.symm.trans (hupdate' c).1

/-- The slots of a record fit its fields, and their values make up the record. -/
structure RecordForm.HasSlots (r : RecordForm C) (slots : List (Slot C)) : Prop where
  fits : List.Forall₂ (Slot.Fits slots) r.fields slots
  names : (slots.map (·.name)).Nodup
  whole : ∀ {c d : C}, (∀ s ∈ slots, s.get c = s.get d) → c = d

/-- The fuel for the members of an object is enough for those at its beginning. -/
theorem RecordForm.shape_object (r : RecordForm C) (parts : List (Part true)) (rest : List Char) :
    ∃ fuel, (Form.record r).shape ('\x7b' :: (partsText true parts ++ rest)) =
      members (Field.shapes r.fields) (fuel + 1 + parts.length) true [] r.default
        (partsText true parts ++ rest) := by
  have hlong := length_le_partsText true parts
  refine ⟨(partsText true parts ++ rest).length - parts.length, ?_⟩
  have hfuel : (partsText true parts ++ rest).length + 1 =
      (partsText true parts ++ rest).length - parts.length + 1 + parts.length := by
    rw [List.length_append]
    omega
  rw [← hfuel]
  exact record_object r.title

theorem RecordForm.shape_array (rest : List Char) :
    (Form.record r).shape ('[' :: rest) = items (Field.shapes r.fields) true r.default rest :=
  rfl

namespace RecordForm.HasSlots

theorem find?_known (h : r.HasSlots slots) {s : Slot C} (hs : s ∈ slots) :
    ∃ f, s.Fits slots f ∧
      (Field.shapes r.fields).find? (·.1 == s.name) = some (s.name, f.shape) := by
  rcases find?_shapes h.fits s.name with ⟨hnone, -⟩ | ⟨s', hs', hsame, f, hf, hfind⟩
  · exact absurd rfl (hnone s hs)
  · obtain rfl := List.inj_on_of_nodup_map h.names hs' hs hsame
    exact ⟨f, hf, hfind⟩

/-- Entries describe one record only. -/
theorem unique (h : r.HasSlots slots) {before c d : C} {entries : List Entry}
    (hc : Describes slots before entries c) (hd : Describes slots before entries d) : c = d := by
  refine h.whole fun s hs => ?_
  by_cases hentry : ∃ text, (s.name, text) ∈ entries
  · obtain ⟨text, htext⟩ := hentry
    obtain ⟨f, hf, -⟩ := h.find?_known hs
    exact hf.unique c ((hc s hs).1 text htext) ((hd s hs).1 text htext)
  · have hnone := not_exists.mp hentry
    rw [(hc s hs).2 hnone, (hd s hs).2 hnone]

/-- An object is read as the record that its members describe. -/
theorem reads_object (h : r.HasSlots slots) {o : Bracketed true} {entries : List Entry}
    (hlists : ListsEntries o.parts entries) (htyped : WellTyped slots entries) (rest : List Char) :
    ∃ c, (Form.record r).shape (o.text ++ rest) = .ok (c, rest) ∧
      Describes slots r.default entries c := by
  obtain ⟨c, seen, hmembers, -, hdescribes⟩ := members_parts h.fits h.names hlists htyped
    (o.gap ++ '\x7d' :: rest) (fun _ => ends_closing true o.gap_blanks rest) true []
    (fun _ _ _ _ => List.not_mem_nil) r.default
  obtain ⟨fuel, hshape⟩ := r.shape_object o.parts (o.gap ++ '\x7d' :: rest)
  refine ⟨c, ?_, hdescribes⟩
  calc (Form.record r).shape (o.text ++ rest)
    _ = (Form.record r).shape ('\x7b' :: (partsText true o.parts ++ (o.gap ++ '\x7d' :: rest))) := by
      simp [Bracketed.text, opening, closing]
    _ = members (Field.shapes r.fields) (fuel + 1 + o.parts.length) true [] r.default
        (partsText true o.parts ++ (o.gap ++ '\x7d' :: rest)) := hshape
    _ = members (Field.shapes r.fields) (fuel + 1) (true && o.parts.isEmpty) seen c
        (o.gap ++ '\x7d' :: rest) := hmembers _
    _ = .ok (c, rest) := members_closing o.gap_blanks ..

/-- An array is read as the record that its items describe at their places. -/
theorem reads_array (h : r.HasSlots slots) {a : Bracketed false} (hlength : a.parts.length ≤ slots.length)
    (htyped : ∀ e ∈ slots.zip a.parts, e.1.spelling.Accepts e.2.value) (rest : List Char) :
    ∃ c, (Form.record r).shape (a.text ++ rest) = .ok (c, rest) ∧
      Describes slots r.default (positional slots a.parts) c := by
  obtain ⟨c, hitems, hdescribes⟩ := items_parts h.names h.fits (fun _ hs => hs) h.names hlength htyped
    (a.gap ++ ']' :: rest) (fun _ => ends_closing false a.gap_blanks rest) true
    r.default
  refine ⟨c, ?_, hdescribes⟩
  calc (Form.record r).shape (a.text ++ rest)
    _ = items (Field.shapes r.fields) true r.default
        (partsText true a.parts ++ (a.gap ++ ']' :: rest)) := by
      rw [← r.shape_array]
      simp [Bracketed.text, opening, closing]
    _ = items (Field.shapes (r.fields.drop a.parts.length)) (true && a.parts.isEmpty) c
        (a.gap ++ ']' :: rest) := hitems
    _ = .ok (c, rest) := items_closing a.gap_blanks ..

/-- A name that was read before is refused where it comes again. -/
theorem repeated_here (h : r.HasSlots slots) {parts : List (Part true)} {entries : List Entry} {s : Slot C}
    (hlists : ListsEntries parts entries) (htyped : WellTyped slots entries) (hs : s ∈ slots)
    (hold : ∃ text, (s.name, text) ∈ entries) {before raw : List Char} (hblanks : AreBlanks before)
    (hraw : Spells raw s.name.toList) (rest : List Char) :
    (Form.record r).shape ('\x7b' :: (partsText true parts ++ ',' :: (before ++ '"' :: (raw ++ '"' :: rest)))) =
      .error (.repeated s.name) := by
  obtain ⟨c, seen, hmembers, hnamed, -⟩ := members_parts h.fits h.names hlists htyped
    (',' :: (before ++ '"' :: (raw ++ '"' :: rest))) (fun _ => ends_cons (.inl rfl) _) true []
    (fun _ _ _ _ => List.not_mem_nil) r.default
  obtain ⟨f, -, hfind⟩ := h.find?_known hs
  have hseen : s.name ∈ seen := (hnamed s hs).mpr (.inr hold)
  have hfirst : (true && parts.isEmpty) = false := by
    cases hlists with
    | nil => simp at hold
    | cons => rfl
  have hquote : skipBlanks (before ++ '"' :: (raw ++ '"' :: rest)) = '"' :: (raw ++ '"' :: rest) := by
    rw [skipBlanks_append hblanks, skipBlanks_cons rfl]
  obtain ⟨fuel, hshape⟩ := r.shape_object parts (',' :: (before ++ '"' :: (raw ++ '"' :: rest)))
  calc (Form.record r).shape _
    _ = members (Field.shapes r.fields) (fuel + 1) (true && parts.isEmpty) seen c
        (',' :: (before ++ '"' :: (raw ++ '"' :: rest))) := by rw [hshape, hmembers]
    _ = members (Field.shapes r.fields) (fuel + 1) false seen c
        (separator false ++ (before ++ '"' :: (raw ++ '"' :: rest))) := by rw [hfirst]; rfl
    _ = member (Field.shapes r.fields) seen c (members (Field.shapes r.fields) fuel false)
        ('"' :: (raw ++ '"' :: rest)) := members_separator _ hquote fuel false seen c
    _ = .error (.repeated s.name) := member_repeated c _ hraw hfind hseen rest

/-- What a value repeats, the object around it repeats. -/
theorem repeated_member (h : r.HasSlots slots) {parts : List (Part true)} {entries : List Entry}
    {s : Slot C} {p : Part true} {name : String} (hlists : ListsEntries parts entries)
    (htyped : WellTyped slots entries) (hs : s ∈ slots) (hnew : ∀ text, (s.name, text) ∉ entries)
    (hname : p.Names s.name) (hrepeats : s.spelling.repeats name p.value) (rest : List Char) :
    (Form.record r).shape ('\x7b' :: (partsText true (parts ++ [p]) ++ rest)) =
      .error (.repeated name) := by
  obtain ⟨c, seen, hmembers, hnamed, -⟩ := members_parts h.fits h.names hlists htyped
    (partsText (true && parts.isEmpty) [p] ++ rest) (fun hne => ends_next hne true p rest) true []
    (fun _ _ _ _ => List.not_mem_nil) r.default
  obtain ⟨f, hf, hfind⟩ := h.find?_known hs
  have hunseen : s.name ∉ seen := fun hseen => by
    rcases (hnamed s hs).mp hseen with hnil | ⟨text, hold⟩
    · cases hnil
    · exact hnew text hold
  have hvalue : f.shape (p.between ++ (p.value ++ (p.after ++ rest))) = .error (.repeated name) := by
    rw [hf.shape_append p.between_blanks, (hf.repeated hrepeats).2]
  obtain ⟨fuel, hshape⟩ := r.shape_object parts (partsText (true && parts.isEmpty) [p] ++ rest)
  calc (Form.record r).shape _
    _ = members (Field.shapes r.fields) (fuel + 1) (true && parts.isEmpty) seen c
        (partsText (true && parts.isEmpty) [p] ++ rest) := by
      rw [partsText_append, List.append_assoc, hshape, hmembers]
    _ = member (Field.shapes r.fields) seen c (members (Field.shapes r.fields) fuel false)
        (skipBlanks (p.text ++ rest)) := by
      rw [partsText_cons_append]
      exact members_part p fuel _ seen c rest
    _ = (f.shape (p.between ++ (p.value ++ (p.after ++ rest)))).bind _ :=
      member_known c _ hname hfind hunseen
    _ = .error (.repeated name) := by rw [hvalue]; rfl

/-- What a value repeats, the array around it repeats. -/
theorem repeated_item (h : r.HasSlots slots) {parts : List (Part false)} {s : Slot C} {p : Part false}
    {name : String} (htyped : ∀ e ∈ slots.zip parts, e.1.spelling.Accepts e.2.value)
    (hs : slots[parts.length]? = some s) (hrepeats : s.spelling.repeats name p.value)
    (rest : List Char) :
    (Form.record r).shape ('[' :: (partsText true (parts ++ [p]) ++ rest)) =
      .error (.repeated name) := by
  obtain ⟨hlength, hplace⟩ := List.getElem?_eq_some_iff.mp hs
  obtain ⟨c, hitems, -⟩ := items_parts h.names h.fits (fun _ hs => hs) h.names hlength.le htyped
    (partsText (true && parts.isEmpty) [p] ++ rest) (fun hne => ends_next hne true p rest) true r.default
  obtain ⟨f, others, hf, hfields⟩ : ∃ f others, s.Fits slots f ∧
      r.fields.drop parts.length = f :: others := by
    have hdrop := List.forall₂_drop parts.length h.fits
    rw [List.drop_eq_getElem_cons hlength, hplace] at hdrop
    rcases hfields : r.fields.drop parts.length with _ | ⟨f, others⟩
    · rw [hfields] at hdrop
      cases hdrop
    · rw [hfields] at hdrop
      exact ⟨f, others, (List.forall₂_cons.mp hdrop).1, rfl⟩
  have hpart := items_part (Field.shapes others) (hf.repeated hrepeats).1 f.name f.shape
    (true && parts.isEmpty) c rest
  calc (Form.record r).shape _
    _ = items (Field.shapes (f :: others)) (true && parts.isEmpty) c
        (partsText (true && parts.isEmpty) [p] ++ rest) := by
      rw [partsText_append, List.append_assoc, r.shape_array, hitems, hfields]
    _ = (f.shape (p.value ++ (p.after ++ rest))).bind _ := by
      rw [partsText_cons_append]
      exact hpart
    _ = .error (.repeated name) := by rw [(hf.repeated hrepeats).2]; rfl

/-- A record is read no further than to a name that is repeated. -/
theorem repeated (h : r.HasSlots slots) {name : String} {text : List Char}
    (htext : RecordRepeats slots name text) (rest : List Char) :
    (Form.record r).shape (text ++ rest) = .error (.repeated name) := by
  cases htext with
  | here hlists htyped hs hold hblanks hraw =>
    simpa using h.repeated_here hlists htyped hs hold hblanks hraw rest
  | member hlists htyped hs hnew hname hrepeats =>
    exact h.repeated_member hlists htyped hs hnew hname hrepeats rest
  | item htyped hs hrepeats => exact h.repeated_item htyped hs hrepeats rest

end RecordForm.HasSlots

/-- A record is understood in each of its forms. -/
theorem Form.understands_record (h : r.HasSlots slots) :
    (Form.record r).Understands (.record slots r.default) where
  blanks := fun text => by
    change Shape.record _ _ _ _ = Shape.record _ _ _ _
    rw [Shape.record, Shape.record, skipBlanks_idem]
  begins := by
    rintro c _ (⟨-, -, -⟩ | ⟨-, -⟩)
    · exact ⟨'\x7b', _, rfl, by decide⟩
    · exact ⟨'[', _, rfl, by decide⟩
  reads := by
    rintro c _ rest (⟨hlists, htyped, hdescribes⟩ | @⟨a, hlength, hdescribes⟩) _
    · obtain ⟨d, hshape, hd⟩ := h.reads_object hlists htyped rest
      rw [hshape, h.unique hdescribes hd]
    · have htyped : ∀ e ∈ slots.zip a.parts, e.1.spelling.Accepts e.2.value := fun e he =>
        ⟨_, (hdescribes e.1 (List.of_mem_zip he).1).1 _ (mem_positional he)⟩
      obtain ⟨d, hshape, hd⟩ := h.reads_array hlength htyped rest
      rw [hshape, h.unique hdescribes hd]
  repeated := fun htext => ⟨by
    cases htext <;> exact ⟨_, _, rfl, by decide⟩, h.repeated htext⟩

end Record

end Fanout
