import Mathlib.Data.List.Forall2
import Fanout.Config.Form
import Fanout.Proofs.Outcome
import Fanout.Proofs.Json.Written

/-!
Forms whose shape reads what their JSON says. A form is faithful to a property if it reads only values
with this property, and reads each of them back from its compact text. Whole numbers, truth values,
alternatives and texts with a meaning are faithful, and a record is if its fields are
(`Form.faithful_record`).
-/

namespace Fanout

open Json (Ends)

/-- A form reads values with a property and no others, and finds each of them again. -/
structure Form.Faithful {α : Type} (form : Form α) (P : α → Prop) : Prop where
  sound : ∀ {text x rest}, form.shape text = .ok (x, rest) → P x
  reads : ∀ {x rest}, P x → Ends rest → form.shape ((form.json x).chars ++ rest) = .ok (x, rest)

namespace Json.Shape

variable {α : Type} {text rest : List Char}

theorem of_orMalformed {x? : Option α} {x : α} (h : orMalformed x? = .ok x) : x? = some x := by
  cases x? with
  | none => cases h
  | some y => cases h; rfl

/-- A refusal reads nothing. -/
theorem refuse_ne_ok {β : Type} (expected : String) (text : List Char) (x : β) :
    refuse expected text ≠ .ok x := by
  intro h
  unfold refuse at h
  split at h
  case h_5 | h_6 => cases h
  all_goals
    obtain ⟨_, -, hwrong⟩ := bind_eq_ok h
    cases hwrong

/-! ### Numbers and truth values -/

/-- A whole number without a sign has 64 bits. -/
theorem le_maxWord_of_value {written : NumberText} {n : Int} (hn : 0 ≤ n)
    (h : written.value = some (.integer n)) : n.toNat ≤ Number.maxWord := by
  have hfloat : ∀ x? : Option Float, x?.map NumberValue.float ≠ some (.integer n) := by
    intro x? hx
    cases x? <;> cases hx
  unfold NumberText.value at h
  dsimp only at h
  split at h
  · split at h
    · -- A minus sign leaves a whole number only in front of another one than zero.
      split at h
      · cases h
      · split at h
        · cases h
          omega
        · exact absurd h (hfloat _)
    · split at h
      next hword =>
        cases h
        simpa using hword
      next => exact absurd h (hfloat _)
  · exact absurd h (hfloat _)

theorem le_maxWord_of_scanNumberValue {n : Int} (hn : 0 ≤ n)
    (h : scanNumberValue text = some (.integer n, rest)) : n.toNat ≤ Number.maxWord := by
  simp only [scanNumberValue, Option.bind_eq_bind, Option.bind_eq_some_iff, Prod.exists] at h
  obtain ⟨written, _, -, value, hvalue, hfound⟩ := h
  cases value with
  | integer m =>
    cases hfound
    exact le_maxWord_of_value hn hvalue
  | float x => cases hfound

theorem of_natural {expected : String} {n : Nat} (h : natural expected text = .ok (n, rest)) :
    n ≤ Number.maxWord := by
  unfold natural at h
  dsimp only at h
  split at h
  · obtain ⟨⟨value, after⟩, hvalue, hfound⟩ := bind_eq_ok h
    split at hfound
    next i hsame =>
      split at hfound
      next hn =>
        cases hsame
        cases hfound
        exact le_maxWord_of_scanNumberValue hn (of_orMalformed hvalue)
      next => cases hfound
    next => cases hfound
  · exact absurd h (refuse_ne_ok _ _ _)

theorem natural_toDigits {expected : String} {n : Nat} (hn : n ≤ Number.maxWord)
    (hrest : Ends rest) : natural expected ((Json.nat n).chars ++ rest) = .ok (n, rest) := by
  obtain ⟨c, digits, heq, hc⟩ := toDigits_eq_cons n
  have hchars : (Json.nat n).chars = Nat.toDigits 10 n := Nat.toList_repr
  have hvalue := scanNumberValue_toDigits hn hrest
  rw [hchars, natural]
  rw [heq, List.cons_append] at hvalue ⊢
  have hblank : isBlank c = false := Bool.eq_false_iff.mpr fun h => by
    rw [scanNumberValue_blank h] at hvalue
    cases hvalue
  rw [skipBlanks_cons hblank]
  simp [startsNumber, hc, hvalue, orMalformed, bind, Except.bind, pure, Except.pure]

theorem boolean_chars (b : Bool) (rest : List Char) :
    boolean ((Json.bool b).chars ++ rest) = .ok (b, rest) := by
  cases b <;> rfl

/-! ### Texts -/

theorem text_quote (expected s : String) (rest : List Char) :
    Shape.text expected (quote s ++ rest) = .ok (s, rest) := by
  rw [Shape.text, skipBlanks_quote, quote_append]
  simp [scanString_escaped, orMalformed, bind, Except.bind, pure, Except.pure]

theorem of_parsed {expected message : String} {parse? : String → Option α} {x : α}
    (h : parsed expected message parse? text = .ok (x, rest)) : ∃ s, parse? s = some x := by
  obtain ⟨⟨s, _⟩, -, hparsed⟩ := bind_eq_ok h
  cases hx : parse? s with
  | none => simp [hx] at hparsed
  | some y =>
    simp only [hx] at hparsed
    cases hparsed
    exact ⟨s, hx⟩

theorem parsed_quote {expected message s : String} {parse? : String → Option α} {x : α}
    (h : parse? s = some x) :
    parsed expected message parse? (quote s ++ rest) = .ok (x, rest) := by
  simp [parsed, text_quote, h, bind, Except.bind, pure, Except.pure]

theorem of_nullable {inner : Shape α} {x : α} (h : nullable inner text = .ok (some x, rest)) :
    ∃ input, inner input = .ok (x, rest) := by
  unfold nullable at h
  split at h
  · obtain ⟨_, -, hnone⟩ := bind_eq_ok h
    cases hnone
  · obtain ⟨⟨y, _⟩, hinner, hsome⟩ := bind_eq_ok h
    cases hsome
    exact ⟨_, hinner⟩

theorem nullable_quote {inner : Shape α} {x : α} {s : String}
    (h : inner (quote s ++ rest) = .ok (x, rest)) :
    nullable inner (quote s ++ rest) = .ok (some x, rest) := by
  rw [nullable, skipBlanks_quote]
  rw [quote_append] at h ⊢
  simp [h, bind, Except.bind, pure, Except.pure]

/-! ### Alternatives -/

section Choice

variable {label : α → String} {all : List α} {x : α}

theorem of_alternative (h : alternative label all text = .ok (x, rest)) : x ∈ all := by
  obtain ⟨⟨s, _⟩, -, hfound⟩ := bind_eq_ok h
  cases hx : all.find? (label · == s) with
  | none => simp [hx] at hfound
  | some y =>
    simp only [hx] at hfound
    cases hfound
    exact List.mem_of_find?_eq_some hx

theorem of_choice (h : choice label all text = .ok (x, rest)) : x ∈ all := by
  unfold choice at h
  split at h
  · obtain ⟨⟨y, _⟩, hname, h⟩ := bind_eq_ok h
    obtain ⟨_, -, h⟩ := bind_eq_ok h
    obtain ⟨_, -, h⟩ := bind_eq_ok h
    split at h
    · cases h
      exact of_alternative hname
    · cases h
  · exact of_alternative h
  · cases h

/-- Where the names differ, a name stands for its alternative. -/
theorem find?_label (label : α → String) (hlabels : (all.map label).Nodup) (hx : x ∈ all) :
    all.find? (label · == label x) = some x := by
  induction all with
  | nil => cases hx
  | cons y all ih =>
    rw [List.map_cons, List.nodup_cons] at hlabels
    by_cases hsame : label y = label x
    · rcases List.mem_cons.mp hx with rfl | hlater
      · simp
      · exact absurd (hsame ▸ List.mem_map_of_mem hlater) hlabels.1
    · have hlater : x ∈ all := (List.mem_cons.mp hx).resolve_left fun h => hsame (h ▸ rfl)
      rw [List.find?_cons_of_neg (by simpa using hsame), ih hlabels.2 hlater]

theorem choice_quote (hlabels : (all.map label).Nodup) (hx : x ∈ all) :
    choice label all (quote (label x) ++ rest) = .ok (x, rest) := by
  have hname : alternative label all (quote (label x) ++ rest) = .ok (x, rest) := by
    simp [alternative, text_quote, find?_label label hlabels hx, bind, Except.bind, pure, Except.pure]
  rw [choice, skipBlanks_quote]
  rw [quote_append] at hname ⊢
  exact hname

end Choice

/-! ### Records -/

section Record

variable {C : Type} {P : C → Prop} {fields : Fields C} {record result : C}

/-- What is read into one of these fields keeps a property of the record. -/
def Keeps (P : C → Prop) (fields : Fields C) : Prop :=
  ∀ f ∈ fields, ∀ {text update rest}, f.2 text = .ok (update, rest) → ∀ {c}, P c → P (update c)

theorem keeps_nil : Keeps P ([] : Fields C) :=
  List.forall_mem_nil _

theorem of_member (hfields : Keeps P fields) {seen : List String}
    {next : List String → C → Shape C} (hrecord : P record)
    (hnext : ∀ {seen record text}, P record → next seen record text = .ok (result, rest) → P result)
    (h : member fields seen record next text = .ok (result, rest)) : P result := by
  obtain ⟨⟨name, _⟩, -, h⟩ := bind_eq_ok h
  cases hfound : fields.find? (·.1 == name) with
  | none =>
    simp only [hfound] at h
    obtain ⟨_, -, h⟩ := bind_eq_ok h
    obtain ⟨_, -, h⟩ := bind_eq_ok h
    exact hnext hrecord h
  | some field =>
    simp only [hfound] at h
    split at h
    · cases h
    · obtain ⟨_, -, h⟩ := bind_eq_ok h
      obtain ⟨⟨update, _⟩, hshape, h⟩ := bind_eq_ok h
      exact hnext (hfields field (List.mem_of_find?_eq_some hfound) hshape hrecord) h

theorem of_members (hfields : Keeps P fields) {fuel : Nat} {isFirst : Bool} {seen : List String}
    (hrecord : P record) (h : members fields fuel isFirst seen record text = .ok (result, rest)) :
    P result := by
  induction fuel generalizing isFirst seen record text with
  | zero => cases h
  | succ fuel ih =>
    unfold members at h
    split at h
    · cases h
      exact hrecord
    · split at h
      · cases h
      · exact of_member hfields hrecord ih h
    · split at h
      · exact of_member hfields hrecord ih h
      · cases h

/-- An item is read into its own field, and the later ones after it. -/
theorem of_item {field : String × Shape (C → C)} (hfields : Keeps P (field :: fields))
    (hrecord : P record)
    (hlater : ∀ {record text}, P record → items fields false record text = .ok (result, rest) → P result)
    (h : (do
      let (update, rest) ← field.2 text
      items fields false (update record) rest) = .ok (result, rest)) : P result := by
  obtain ⟨⟨update, _⟩, hshape, h⟩ := bind_eq_ok h
  exact hlater (hfields field List.mem_cons_self hshape hrecord) h

theorem of_items (hfields : Keeps P fields) {isFirst : Bool} (hrecord : P record)
    (h : items fields isFirst record text = .ok (result, rest)) : P result := by
  induction fields generalizing isFirst record text with
  | nil =>
    unfold items at h
    split at h
    · cases h
      exact hrecord
    · cases h
  | cons field fields ih =>
    have hrest : Keeps P fields := fun f hf => hfields f (List.mem_cons_of_mem _ hf)
    unfold items at h
    split at h
    · cases h
      exact hrecord
    · split at h
      · cases h
      · split at h
        · cases h
        · cases h
        · exact of_item hfields hrecord (ih hrest) h
    · cases h
    · split at h
      · exact of_item hfields hrecord (ih hrest) h
      · cases h

/-- A record that was read has a property that its default has and its fields keep. -/
theorem of_record (hfields : Keeps P fields) {title : String} (hdefault : P record)
    (h : Shape.record title fields record text = .ok (result, rest)) : P result := by
  unfold Shape.record at h
  split at h
  · exact of_members hfields hdefault h
  · exact of_items hfields hdefault h
  · exact absurd h (refuse_ne_ok _ _ _)

end Record

end Json.Shape

/-! ### Fields that are read back -/

section Fields

variable {C : Type} {P : C → Prop}

/-- The value of a field is found again; reading it copies the value into another record. -/
def Field.ReadsBack (P : C → Prop) (f : Field C) (copy : C → C → C) : Prop :=
  ∀ {c rest}, P c → Ends rest → f.shape ((f.json c).chars ++ rest) = .ok (copy c, rest)

/-- The fields of a record as its shape takes them. -/
def Field.shapes (fields : List (Field C)) : Json.Shape.Fields C :=
  fields.map fun f => (f.name, f.shape)

/-- The members of the JSON of a record. -/
def Field.members (fields : List (Field C)) (c : C) : List (String × Json) :=
  fields.map fun f => (f.name, f.json c)

namespace Json.Shape

variable {shapes : Fields C} {c record : C} {rest : List Char}

theorem member_quote {name : String} {shape : Shape (C → C)} {update : C → C} {v : Json}
    {seen : List String} (record : C) (next : List String → C → Shape C)
    (hfind : shapes.find? (·.1 == name) = some (name, shape)) (hseen : name ∉ seen)
    (hshape : shape (v.chars ++ rest) = .ok (update, rest)) :
    member shapes seen record next (quote name ++ ':' :: (v.chars ++ rest)) =
      next (name :: seen) (update record) rest := by
  have hcolon : colon (':' :: (v.chars ++ rest)) = .ok (v.chars ++ rest) := by
    rw [colon, skipBlanks_cons rfl]
    rfl
  simp [member, scanQuoted_quote, orMalformed, hfind, hseen, hcolon, hshape, bind, Except.bind]

/-- The members of a record are read one after the other, each into its own field. -/
theorem members_memberChars (hc : P c) {later : List (Field C)} {copies : List (C → C → C)}
    (hreads : List.Forall₂ (Field.ReadsBack P) later copies)
    (hfind : ∀ f ∈ later, shapes.find? (·.1 == f.name) = some (f.name, f.shape))
    (hnames : (later.map Field.name).Nodup) {seen : List String}
    (hseen : ∀ f ∈ later, f.name ∉ seen) {fuel : Nat} (hfuel : later.length < fuel) :
    members shapes fuel false seen record (memberChars (Field.members later c) ++ rest) =
      .ok (copies.foldl (fun d copy => copy c d) record, rest) := by
  induction hreads generalizing seen record fuel with
  | nil =>
    obtain ⟨fuel, rfl⟩ : ∃ k, fuel = k + 1 := ⟨fuel - 1, by omega⟩
    simp [Field.members, memberChars, members, skipBlanks_cons (c := '\x7d') rfl]
  | @cons f copy later copies hf _ ih =>
    obtain ⟨fuel, rfl⟩ : ∃ k, fuel = k + 1 := ⟨fuel - 1, by omega⟩
    rw [List.map_cons, List.nodup_cons] at hnames
    have hlater : ∀ g ∈ later, g.name ∉ f.name :: seen := fun g hg h => by
      rcases List.mem_cons.mp h with hsame | hold
      · exact hnames.1 (hsame ▸ List.mem_map_of_mem hg)
      · exact hseen g (List.mem_cons_of_mem _ hg) hold
    have hrest : members shapes fuel false (f.name :: seen) (copy c record)
        (memberChars (Field.members later c) ++ rest) =
          .ok (copies.foldl (fun d copy => copy c d) (copy c record), rest) :=
      ih (fun g hg => hfind g (List.mem_cons_of_mem _ hg)) hnames.2 hlater (by simpa using hfuel)
    have hmember := member_quote record (members shapes fuel false)
      (hfind f List.mem_cons_self) (hseen f List.mem_cons_self)
      (hf hc (ends_memberChars (Field.members later c) rest))
    rw [List.foldl_cons, ← hrest, ← hmember]
    simp [Field.members, memberChars, members, skipBlanks_cons (c := ',') rfl, skipBlanks_quote]

theorem members_quote (fuel : Nat) (name : String) :
    members shapes (fuel + 1) true [] record (quote name ++ rest) =
      member shapes [] record (members shapes fuel false) (quote name ++ rest) := by
  rw [members, skipBlanks_quote, quote_append]
  rfl

theorem record_object (title : String) :
    Shape.record title shapes record ('\x7b' :: rest) =
      members shapes (rest.length + 1) true [] record rest := by
  rw [Shape.record, skipBlanks_cons rfl]
  rfl

/-- A record is found again from the text of its members. -/
theorem record_chars (hc : P c) {fields : List (Field C)} {copies : List (C → C → C)}
    (hreads : List.Forall₂ (Field.ReadsBack P) fields copies)
    (hnames : (fields.map Field.name).Nodup) (title : String) (default : C) :
    Shape.record title (Field.shapes fields) default
        ((Json.object (Field.members fields c)).chars ++ rest) =
      .ok (copies.foldl (fun d copy => copy c d) default, rest) := by
  have hfind : ∀ f ∈ fields,
      (Field.shapes fields).find? (·.1 == f.name) = some (f.name, f.shape) := fun f hf =>
    find?_label Prod.fst (by simpa [Field.shapes, Function.comp_def] using hnames)
      (List.mem_map_of_mem (f := fun g : Field C => (g.name, g.shape)) hf)
  cases hreads with
  | nil => rfl
  | @cons f copy later copies hf hlater =>
    rw [List.map_cons, List.nodup_cons] at hnames
    have hends := ends_memberChars (Field.members later c) rest
    have hothers : ∀ g ∈ later, g.name ∉ [f.name] := fun g hg hsame =>
      hnames.1 (by rw [← List.mem_singleton.mp hsame]; exact List.mem_map_of_mem hg)
    have htext : (Json.object (Field.members (f :: later) c)).chars ++ rest =
        '\x7b' :: (quote f.name ++ ':' ::
          ((f.json c).chars ++ (memberChars (Field.members later c) ++ rest))) := by
      simp [Field.members, chars]
    have hfuel : later.length < (quote f.name ++ ':' ::
        ((f.json c).chars ++ (memberChars (Field.members later c) ++ rest))).length := by
      have hlong := length_lt_memberChars (Field.members later c)
      rw [Field.members, List.length_map] at hlong
      simp only [Field.members, List.length_append, List.length_cons]
      omega
    rw [htext, record_object, members_quote, List.foldl_cons,
      member_quote _ _ (hfind f List.mem_cons_self) List.not_mem_nil (hf hc hends)]
    exact members_memberChars hc hlater (fun g hg => hfind g (List.mem_cons_of_mem _ hg)) hnames.2
      hothers hfuel

end Json.Shape

end Fields

/-! ### The forms -/

namespace Form

variable {α C : Type}

open Json.Shape

theorem faithful_natural (expected : String) :
    (natural expected).Faithful fun n => n ≤ Number.maxWord where
  sound := of_natural
  reads := natural_toDigits

theorem faithful_boolean : boolean.Faithful fun _ => True where
  sound := fun _ => trivial
  reads := fun _ _ => boolean_chars _ _

/-- Alternatives with different names. -/
theorem faithful_choice (title : String) {label : α → String} {all : List α}
    (hlabels : (all.map label).Nodup) : (choice title label all).Faithful (· ∈ all) where
  sound := of_choice
  reads := fun hx _ => choice_quote hlabels hx

/-- Something whose text is understood as that thing. -/
theorem faithful_parsed (expected message : String) {parse? : String → Option α}
    {display : α → String} {P : α → Prop} (hsound : ∀ {s x}, parse? s = some x → P x)
    (hreads : ∀ {x}, P x → parse? (display x) = some x) :
    (parsed expected message parse? display).Faithful fun x? => ∀ x ∈ x?, P x where
  sound := by
    rintro text _ rest h x rfl
    obtain ⟨_, hinner⟩ := of_nullable h
    obtain ⟨s, hs⟩ := of_parsed hinner
    exact hsound hs
  reads := by
    intro x? rest hx _
    cases x? with
    | none => rfl
    | some x => exact nullable_quote (parsed_quote (hreads (hx x rfl)))

/-- A record whose fields are read back and make up the whole record. -/
theorem faithful_record {r : RecordForm C} {P : C → Prop} {copies : List (C → C → C)}
    (hdefault : P r.default) (hkeeps : Keeps P (Field.shapes r.fields))
    (hnames : (r.fields.map Field.name).Nodup)
    (hreads : List.Forall₂ (Field.ReadsBack P) r.fields copies)
    (hwhole : ∀ c, copies.foldl (fun d copy => copy c d) r.default = c) :
    (record r).Faithful P where
  sound := fun h => of_record hkeeps hdefault h
  reads := by
    intro c rest hc _
    exact (record_chars hc hreads hnames r.title r.default).trans (by rw [hwhole c])

end Form

namespace Field

variable {α C : Type} {form : Form α} {P : C → Prop} {Q : α → Prop}

/-- A field with a faithful form is read back and leaves the rest of the record alone. -/
theorem readsBack_of (h : form.Faithful Q) (name : String) {get : C → α} (set : α → C → C)
    (hget : ∀ {c}, P c → Q (get c)) :
    (Field.of name form get set).ReadsBack P fun c => set (get c) := by
  intro c rest hc hrest
  simp [Field.of, h.reads (hget hc) hrest, bind, Except.bind, pure, Except.pure]

/-- What is read into a field of a faithful form has the property of the form. -/
theorem keeps_of (h : form.Faithful Q) (name : String) (get : C → α) {set : α → C → C}
    (hset : ∀ {x c}, Q x → P c → P (set x c)) {fields : Json.Shape.Fields C}
    (hfields : Json.Shape.Keeps P fields) :
    Json.Shape.Keeps P ((name, (Field.of name form get set).shape) :: fields) := by
  intro f hf text update rest hread c hc
  rcases List.mem_cons.mp hf with rfl | hf
  · obtain ⟨⟨x, _⟩, hx, hupdate⟩ := bind_eq_ok hread
    cases hupdate
    exact hset (h.sound hx) hc
  · exact hfields f hf hread hc

end Field

namespace Form

variable {α : Type} {form : Form α} {P : α → Prop}

/-- What a whole text is read as has the property. -/
theorem Faithful.of_parse (h : form.Faithful P) {text : String} {x : α}
    (hx : Json.Shape.parse form.shape text = .ok x) : P x := by
  obtain ⟨⟨y, after⟩, hy, hx⟩ := bind_eq_ok hx
  dsimp only at hx
  split at hx
  · cases hx
    exact h.sound hy
  · cases hx

/-- The compact text of a value with the property is read as that value. -/
theorem Faithful.parse_compact (h : form.Faithful P) {x : α} (hx : P x) :
    Json.Shape.parse form.shape (form.json x).compact = .ok x := by
  have hshape := h.reads hx Json.ends_nil
  rw [List.append_nil] at hshape
  simp [Json.Shape.parse, Json.compact, hshape, Json.skipBlanks, bind, Except.bind, pure,
    Except.pure]

end Form

end Fanout
