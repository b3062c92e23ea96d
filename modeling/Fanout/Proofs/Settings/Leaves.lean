import Mathlib.Tactic.SplitIfs
import Fanout.Config.Forms
import Fanout.Proofs.Settings.Entries
import Fanout.Proofs.Settings.Names

/-!
Layers change settings leaf by leaf. A leaf is a place at which one value stands: an entry of a section,
or the address outside the sections. What a layer mentions is replaced, and every other leaf stays as it
is (`covers_document`, `covers_variables`).
-/

namespace Fanout

/-- The entries of settings that are tables of leaves. -/
def sectionNames : List String := ["distrib", "workload"]

/-- The entry of settings that is a leaf itself. -/
def addressName : String := "metrics_listen_addr"

/-- A place for one value: the name of an entry, within a section or outside. -/
structure Leaf where
  outer? : Option String
  name : String
  deriving DecidableEq

namespace Leaf

/-- A leaf that a configuration may be read from. -/
def IsKnown (l : Leaf) : Prop :=
  match l.outer? with
  | some outer => outer ∈ sectionNames
  | none => l.name = addressName

/-- A leaf that a variable may name. Outside the sections any plain name will do. -/
def IsNamed (l : Leaf) : Prop :=
  IsPlain l.name ∧
    match l.outer? with
    | some outer => outer ∈ sectionNames
    | none => l.name ∉ sectionNames

/-- The entry of a document that holds a leaf. -/
def entry (l : Leaf) : String :=
  l.outer?.getD l.name

theorem IsKnown.entry_mem {l : Leaf} (h : l.IsKnown) : l.entry ∈ addressName :: sectionNames := by
  obtain ⟨outer?, n⟩ := l
  cases outer? with
  | none => exact List.mem_cons.mpr (.inl h)
  | some outer => exact List.mem_cons_of_mem _ h

/-- The key of a variable for a leaf. -/
def key (l : Leaf) : String :=
  match l.outer? with
  | some outer => outer ++ "__" ++ l.name
  | none => l.name

end Leaf

namespace Setting

/-- What stands at a leaf. -/
def leaf? (l : Leaf) (s : Setting) : Option Setting :=
  match l.outer? with
  | some outer => (lookup outer s.inner).bind fun t => lookup l.name t.inner
  | none => lookup l.name s.inner

def IsScalar (s : Setting) : Prop :=
  ∃ origin value, s = .scalar origin value

/-- A table of scalars. -/
def IsFlat (s : Setting) : Prop :=
  ∃ origin entries, s = .table origin entries ∧ ∀ e ∈ entries, e.2.IsScalar

/-- A table whose sections are flat, as far as they are there. -/
def Sectioned (s : Setting) : Prop :=
  (∃ origin entries, s = .table origin entries) ∧
    ∀ outer ∈ sectionNames, ∀ t, lookup outer s.inner = some t → t.IsFlat

/-- A document whose leaves stand where they belong, under lower-case names. Entries besides the
sections and the address may be anything that does not lead to one of these. -/
structure IsDocument (entries : List (String × Setting)) : Prop where
  flat : ∀ e ∈ entries, e.1 ∈ sectionNames → e.2.IsFlat
  lower : ∀ e ∈ entries, e.1 ∈ sectionNames → ∀ l ∈ e.2.inner, Text.lower l.1 = l.1
  single : ∀ e ∈ entries, e.1 = addressName → ∀ origin table, e.2 ≠ .table origin table
  foreign : ∀ e ∈ entries, e.1 ∉ addressName :: sectionNames →
    Text.lower (SettingPath.parse e.1).first ∉ addressName :: sectionNames

theorem IsDocument.sectioned {entries : List (String × Setting)} (h : IsDocument entries)
    (origin : Option String) : Sectioned (.table origin entries) :=
  ⟨⟨origin, entries, rfl⟩, fun _ houter _ ht => h.flat _ (mem_of_lookup ht) houter⟩

theorem addressName_notMem : addressName ∉ sectionNames := by
  decide

/-- Sections of leaves, and an address, make up a document. -/
theorem isDocument_of_known {entries : List (String × Setting)}
    (h : ∀ e ∈ entries,
      e.1 ∈ sectionNames ∧ e.2.IsFlat ∧ (∀ l ∈ e.2.inner, Text.lower l.1 = l.1) ∨
        e.1 = addressName ∧ e.2.IsScalar) : IsDocument entries := by
  have hsection : ∀ e ∈ entries, e.1 ∈ sectionNames →
      e.2.IsFlat ∧ ∀ l ∈ e.2.inner, Text.lower l.1 = l.1 := by
    intro e he hin
    rcases h e he with ⟨-, hflat, hlower⟩ | ⟨haddress, -⟩
    · exact ⟨hflat, hlower⟩
    · exact absurd hin (haddress ▸ addressName_notMem)
  refine ⟨fun e he hin => (hsection e he hin).1, fun e he hin => (hsection e he hin).2,
    fun e he haddress origin table htable => ?_, fun e he hforeign => ?_⟩
  · rcases h e he with ⟨hin, -⟩ | ⟨-, _, _, hscalar⟩
    · exact addressName_notMem (haddress ▸ hin)
    · rw [hscalar] at htable
      cases htable
  · rcases h e he with ⟨hin, -⟩ | ⟨haddress, -⟩
    · exact absurd (List.mem_cons_of_mem _ hin) hforeign
    · exact absurd (List.mem_cons.mpr (.inl haddress)) hforeign

theorem isPlain_of_known {name : String} (h : name ∈ addressName :: sectionNames) : IsPlain name := by
  have hall : ∀ n ∈ addressName :: sectionNames, IsPlain n := by decide
  exact hall name h

/-! ### Written values -/

theorem isScalar_ofJson_nat (origin : String) (n : Nat) : IsScalar (ofJson origin (.nat n)) := by
  rw [Json.nat, ofJson]
  exact ⟨_, _, rfl⟩

theorem isScalar_ofJson_bool (origin : String) (b : Bool) : IsScalar (ofJson origin (.bool b)) := by
  rw [ofJson]
  exact ⟨_, _, rfl⟩

theorem isScalar_ofJson_string (origin s : String) : IsScalar (ofJson origin (.string s)) := by
  rw [ofJson]
  exact ⟨_, _, rfl⟩

/-- An object of scalars under plain names is a flat table under lower-case names. -/
theorem section_ofJson {origin : String} {ms : List (String × Json)} (hnames : (ms.map Prod.fst).Nodup)
    (hscalar : ∀ m ∈ ms, IsScalar (ofJson origin m.2)) (hplain : ∀ m ∈ ms, IsPlain m.1) :
    IsFlat (ofJson origin (.object ms)) ∧
      ∀ l ∈ (ofJson origin (.object ms)).inner, Text.lower l.1 = l.1 := by
  rw [ofJson_object hnames]
  refine ⟨⟨_, _, rfl, fun e he => ?_⟩, fun l hl => ?_⟩
  · obtain ⟨m, hm, rfl⟩ := List.mem_map.mp he
    exact hscalar m hm
  · obtain ⟨m, hm, rfl⟩ := List.mem_map.mp hl
    exact Text.lower_of_plain (hplain m hm)

/-! ### Laying over -/

variable {origin : Option String} {entries : List (String × Setting)} {s t value : Setting}
  {name outer : String} {l : Leaf}

theorem overlay_scalar (name : String) (origin : Option String) (value : Scalar) (s : Setting) :
    overlay name (.scalar origin value) s =
      .table s.asTable.1 (putEntry (Text.lower name) (.scalar origin value) s.inner) := by
  rw [overlay]
  rfl

theorem overlay_array (name : String) (origin : Option String) (items : List Setting) (s : Setting) :
    overlay name (.array origin items) s =
      .table s.asTable.1 (putEntry (Text.lower name) (.array origin items) s.inner) := by
  rw [overlay]
  rfl

theorem overlay_table (name : String) (origin : Option String) (table : List (String × Setting))
    (s : Setting) :
    overlay name (.table origin table) s =
      .table s.asTable.1 (putEntry (Text.lower name)
        (overlayAll table ((lookup (Text.lower name) s.inner).getD empty)) s.inner) := by
  rw [overlay]
  rfl

theorem IsFlat.putEntry (ht : t.IsFlat) (hvalue : value.IsScalar) (origin : Option String)
    (name : String) : IsFlat (.table origin (Setting.putEntry name value t.inner)) := by
  obtain ⟨_, entries, rfl, hall⟩ := ht
  refine ⟨origin, _, rfl, fun e he => ?_⟩
  rcases mem_putEntry he with hold | rfl
  · exact hall e hold
  · exact hvalue

theorem isFlat_empty : empty.IsFlat :=
  ⟨none, [], rfl, List.forall_mem_nil _⟩

/-- A flat table laid over a flat table replaces the entries that it has and leaves the others. -/
theorem overlayAll_flat {table : List (String × Setting)} (hall : ∀ e ∈ table, e.2.IsScalar)
    (hlower : ∀ e ∈ table, Text.lower e.1 = e.1) (hdistinct : Distinct table) (ht : t.IsFlat) :
    (overlayAll table t).IsFlat ∧
      ∀ name, lookup name (overlayAll table t).inner =
        (lookup name table).or (lookup name t.inner) := by
  induction table generalizing t with
  | nil => exact ⟨ht, fun _ => by simp [overlayAll, lookup_nil]⟩
  | cons e table ih =>
    obtain ⟨first, value⟩ := e
    obtain ⟨origin, scalar, rfl⟩ : value.IsScalar := hall (first, value) List.mem_cons_self
    rw [Distinct, List.map_cons, List.nodup_cons] at hdistinct
    have hstep := overlay_scalar first origin scalar t
    rw [hlower _ List.mem_cons_self] at hstep
    obtain ⟨hflat, hlookup⟩ := ih (fun f hf => hall f (List.mem_cons_of_mem _ hf))
      (fun f hf => hlower f (List.mem_cons_of_mem _ hf)) hdistinct.2
      (ht.putEntry ⟨origin, scalar, rfl⟩ t.asTable.1 first)
    rw [overlayAll, hstep]
    refine ⟨hflat, fun name => ?_⟩
    rw [hlookup, lookup_cons]
    change (lookup name table).or (lookup name (putEntry first _ t.inner)) = _
    rw [lookup_putEntry]
    by_cases hname : name = first
    · subst hname
      simp [lookup_eq_none hdistinct.1]
    · simp [hname, Ne.symm hname]

/-! ### Below a section -/

/-- What stands in a section, which may be a new one without entries. -/
theorem lookup_below (s : Setting) (outer n : String) {new : Setting} (hnew : new.inner = []) :
    lookup n ((lookup outer s.inner).getD new).inner = s.leaf? ⟨some outer, n⟩ := by
  cases hfound : lookup outer s.inner with
  | none => simp [leaf?, hfound, hnew, lookup_nil]
  | some t => simp [leaf?, hfound]

theorem Sectioned.isFlat_below (hs : s.Sectioned) (houter : outer ∈ sectionNames) :
    ((lookup outer s.inner).getD empty).IsFlat := by
  cases hfound : lookup outer s.inner with
  | none => exact isFlat_empty
  | some t => exact hs.2 outer houter t hfound

/-! ### Covering leaves -/

/-- A change puts these values at their leaves and leaves what stands at the others. -/
def Covers (value? : Leaf → Option Setting) (change : Setting → Setting) : Prop :=
  ∀ s, s.Sectioned → (change s).Sectioned ∧
    ∀ l, l.IsKnown → (change s).leaf? l = (value? l).or (s.leaf? l)

variable {value? later? : Leaf → Option Setting} {change later : Setting → Setting}

theorem Covers.congr (h : Covers value? change) (hsame : ∀ l, l.IsKnown → value? l = later? l) :
    Covers later? change := by
  intro s hs
  obtain ⟨hsectioned, hleaf⟩ := h s hs
  exact ⟨hsectioned, fun l hl => by rw [hleaf l hl, hsame l hl]⟩

theorem covers_id : Covers (fun _ => none) id :=
  fun _ hs => ⟨hs, fun _ _ => rfl⟩

/-- Of two changes the later one takes precedence, leaf by leaf. -/
theorem Covers.comp (h : Covers value? change) (hlater : Covers later? later) :
    Covers (fun l => (later? l).or (value? l)) (later ∘ change) := by
  intro s hs
  obtain ⟨hsectioned, hleaf⟩ := h s hs
  obtain ⟨hsectioned', hleaf'⟩ := hlater _ hsectioned
  exact ⟨hsectioned', fun l hl => by
    rw [Function.comp_apply, hleaf' l hl, hleaf l hl, Option.or_assoc]⟩

theorem sectioned_put (hs : s.Sectioned) (hvalue : name ∈ sectionNames → value.IsFlat)
    (origin : Option String) : Sectioned (.table origin (putEntry name value s.inner)) := by
  refine ⟨⟨origin, _, rfl⟩, fun outer houter t ht => ?_⟩
  change lookup outer (putEntry name value s.inner) = some t at ht
  rw [lookup_putEntry] at ht
  split_ifs at ht with hname
  · cases ht
    exact hvalue (hname ▸ houter)
  · exact hs.2 outer houter t ht

/-- What an entry that is put into a table changes. -/
theorem leaf?_put (l : Leaf) (origin : Option String) (name : String) (value s : Setting) :
    leaf? l (.table origin (putEntry name value s.inner)) =
      if l.entry = name then
        match l.outer? with
        | some _ => lookup l.name value.inner
        | none => some value
      else s.leaf? l := by
  obtain ⟨outer?, n⟩ := l
  cases outer? with
  | none => exact lookup_putEntry n name value s.inner
  | some outer =>
    change (lookup outer (putEntry name value s.inner)).bind (fun t => lookup n t.inner) =
      if outer = name then lookup n value.inner else s.leaf? ⟨some outer, n⟩
    rw [lookup_putEntry]
    split_ifs <;> rfl

/-- A change of one section. -/
theorem covers_section (houter : outer ∈ sectionNames) (value? : String → Option Setting)
    (h : ∀ s, s.Sectioned → ∃ origin t, change s = .table origin (putEntry outer t s.inner) ∧
      t.IsFlat ∧ ∀ n, lookup n t.inner = (value? n).or (s.leaf? ⟨some outer, n⟩)) :
    Covers (fun l => if l.outer? = some outer then value? l.name else none) change := by
  intro s hs
  obtain ⟨origin, t, hchange, ht, hlookup⟩ := h s hs
  rw [hchange]
  refine ⟨sectioned_put hs (fun _ => ht) origin, fun ⟨outer?, n⟩ hl => ?_⟩
  rw [leaf?_put]
  cases outer? with
  | none =>
    have hother : n ≠ outer := by
      rintro rfl
      exact addressName_notMem (hl ▸ houter)
    simp [Leaf.entry, hother]
  | some found =>
    by_cases hsame : found = outer
    · subst hsame
      simp [Leaf.entry, hlookup]
    · simp [Leaf.entry, hsame]

/-- A change of one entry outside the sections. -/
theorem covers_outside (hname : name ∉ sectionNames)
    (h : ∀ s, ∃ origin, change s = .table origin (putEntry name value s.inner)) :
    Covers (fun l => if l = ⟨none, name⟩ then some value else none) change := by
  intro s hs
  obtain ⟨origin, hchange⟩ := h s
  rw [hchange]
  refine ⟨sectioned_put hs (fun hin => absurd hin hname) origin, fun ⟨outer?, n⟩ hl => ?_⟩
  rw [leaf?_put]
  cases outer? with
  | none => by_cases hsame : n = name <;> simp [Leaf.entry, hsame]
  | some outer =>
    have hother : outer ≠ name := fun hsame => hname (hsame ▸ hl)
    simp [Leaf.entry, hother]

/-- A change of an entry that has no leaf. -/
theorem covers_foreign (hname : name ∉ addressName :: sectionNames)
    (h : ∀ s, ∃ origin value, change s = .table origin (putEntry name value s.inner)) :
    Covers (fun _ => none) change := by
  intro s hs
  obtain ⟨origin, value, hchange⟩ := h s
  rw [hchange]
  refine ⟨sectioned_put hs (fun hin => absurd (List.mem_cons_of_mem _ hin) hname) origin,
    fun ⟨outer?, n⟩ hl => ?_⟩
  have hother : Leaf.entry ⟨outer?, n⟩ ≠ name := by
    rintro rfl
    exact hname hl.entry_mem
  rw [leaf?_put, if_neg hother]
  rfl

/-! ### Documents -/

theorem leaf?_singleton (l : Leaf) (e : String × Setting) :
    leaf? l (.table none [e]) =
      if l.entry = e.1 then
        match l.outer? with
        | some _ => lookup l.name e.2.inner
        | none => some e.2
      else none := by
  obtain ⟨outer?, n⟩ := l
  cases outer? with
  | none =>
    change lookup n [e] = if n = e.1 then some e.2 else none
    rw [lookup_cons, lookup_nil]
    simp only [eq_comm]
  | some outer =>
    change (lookup outer [e]).bind (fun t => lookup n t.inner) =
      if outer = e.1 then lookup n e.2.inner else none
    rw [lookup_cons, lookup_nil]
    by_cases h : outer = e.1
    · simp [h]
    · simp [h, Ne.symm h]

theorem covers_sectionEntry {table : List (String × Setting)} (houter : outer ∈ sectionNames)
    (hall : ∀ e ∈ table, e.2.IsScalar) (hlower : ∀ e ∈ table, Text.lower e.1 = e.1)
    (hdistinct : Distinct table) :
    Covers (leaf? · (.table none [(outer, .table origin table)]))
      (overlay outer (.table origin table)) := by
  have hplain := Text.lower_of_plain (isPlain_of_known (List.mem_cons_of_mem addressName houter))
  have hcovers : Covers (fun l => if l.outer? = some outer then lookup l.name table else none)
      (overlay outer (.table origin table)) := by
    refine covers_section houter (lookup · table) fun s hs =>
      ⟨_, _, by rw [overlay_table, hplain], ?_⟩
    obtain ⟨hflat, hlookup⟩ := overlayAll_flat hall hlower hdistinct (hs.isFlat_below houter)
    exact ⟨hflat, fun n => by rw [hlookup, lookup_below s outer n rfl]⟩
  refine hcovers.congr fun ⟨outer?, n⟩ hl => ?_
  rw [leaf?_singleton]
  cases outer? with
  | none =>
    have hother : n ≠ outer := by
      rintro rfl
      exact addressName_notMem (hl ▸ houter)
    simp [Leaf.entry, hother]
  | some found => by_cases hsame : found = outer <;> simp [Leaf.entry, inner, asTable, hsame]

theorem covers_addressEntry (hvalue : ∀ origin table, value ≠ .table origin table) :
    Covers (leaf? · (.table none [(addressName, value)])) (overlay addressName value) := by
  have hplain := Text.lower_of_plain (isPlain_of_known (List.mem_cons_self (l := sectionNames)))
  have hput : ∀ s, ∃ origin,
      overlay addressName value s = .table origin (putEntry addressName value s.inner) := by
    intro s
    refine ⟨s.asTable.1, ?_⟩
    cases value with
    | scalar origin v => rw [overlay_scalar, hplain]
    | table origin table => exact absurd rfl (hvalue origin table)
    | array origin items => rw [overlay_array, hplain]
  refine (covers_outside addressName_notMem hput).congr fun ⟨outer?, n⟩ hl => ?_
  rw [leaf?_singleton]
  cases outer? with
  | none => by_cases hsame : n = addressName <;> simp [Leaf.entry, hsame]
  | some outer =>
    have hother : outer ≠ addressName := by
      rintro rfl
      exact addressName_notMem hl
    simp [Leaf.entry, hother]

theorem covers_foreignEntry {path : SettingPath} (hname : name ∉ addressName :: sectionNames)
    (hfirst : Text.lower path.first ∉ addressName :: sectionNames) :
    Covers (leaf? · (.table none [(name, value)])) (set path value) := by
  have hput : ∃ first, first ∉ addressName :: sectionNames ∧ ∀ s, ∃ origin changed,
      set path value s = .table origin (putEntry first changed s.inner) := by
    obtain ⟨first, steps⟩ := path
    cases steps with
    | nil =>
      refine ⟨Text.lower first, hfirst, fun s => ⟨s.asTable.1, ?_⟩⟩
      change ∃ changed, overlay first value s = _
      cases value with
      | scalar origin v => exact ⟨_, overlay_scalar first origin v s⟩
      | table origin table => exact ⟨_, overlay_table first origin table s⟩
      | array origin items => exact ⟨_, overlay_array first origin items s⟩
    | cons step steps =>
      -- The first name of a longer path is not lower-cased, but a known one would stay as it is.
      refine ⟨first, fun hin => hfirst ?_, fun s => ⟨s.asTable.1, _, rfl⟩⟩
      rwa [Text.lower_of_plain (isPlain_of_known hin)]
  obtain ⟨first, hforeign, hput⟩ := hput
  refine (covers_foreign hforeign hput).congr fun ⟨outer?, n⟩ hl => ?_
  have hother : Leaf.entry ⟨outer?, n⟩ ≠ name := by
    rintro rfl
    exact hname hl.entry_mem
  rw [leaf?_singleton, if_neg hother]

/-- An entry of a document puts what it says over its leaves. -/
theorem covers_entry {e : String × Setting} (hdocument : IsDocument entries) (he : e ∈ entries)
    (hinner : Distinct e.2.inner) :
    Covers (leaf? · (.table none [e])) (set (SettingPath.parse e.1) e.2) := by
  obtain ⟨name, value⟩ := e
  by_cases hknown : name ∈ addressName :: sectionNames
  · have hset : set (SettingPath.parse name) value = overlay name value := by
      rw [SettingPath.parse_of_plain (isPlain_of_known hknown)]
      rfl
    rw [hset]
    rcases List.mem_cons.mp hknown with rfl | hsection
    · exact covers_addressEntry (hdocument.single _ he rfl)
    · have hlower := hdocument.lower _ he hsection
      obtain ⟨origin, table, rfl, hall⟩ := hdocument.flat _ he hsection
      exact covers_sectionEntry hsection hall hlower hinner
  · exact covers_foreignEntry hknown (hdocument.foreign _ he hknown)

theorem leaf?_cons (l : Leaf) {e : String × Setting} (h : Distinct (e :: entries)) :
    leaf? l (.table none (e :: entries)) =
      (leaf? l (.table none entries)).or (leaf? l (.table none [e])) := by
  have hfirst : lookup e.1 entries = none := lookup_eq_none (List.nodup_cons.mp h).1
  rw [leaf?_singleton]
  obtain ⟨outer?, n⟩ := l
  cases outer? with
  | none =>
    change lookup n (e :: entries) = (lookup n entries).or (if n = e.1 then some e.2 else none)
    rw [lookup_cons]
    by_cases hname : n = e.1
    · simp [hname, hfirst]
    · simp [hname, Ne.symm hname]
  | some outer =>
    change (lookup outer (e :: entries)).bind (fun t => lookup n t.inner) =
      ((lookup outer entries).bind fun t => lookup n t.inner).or
        (if outer = e.1 then lookup n e.2.inner else none)
    rw [lookup_cons]
    by_cases hname : outer = e.1
    · simp [hname, hfirst]
    · simp [hname, Ne.symm hname]

theorem IsDocument.tail {e : String × Setting} (h : IsDocument (e :: entries)) :
    IsDocument entries where
  flat := fun f hf => h.flat f (List.mem_cons_of_mem _ hf)
  lower := fun f hf => h.lower f (List.mem_cons_of_mem _ hf)
  single := fun f hf => h.single f (List.mem_cons_of_mem _ hf)
  foreign := fun f hf => h.foreign f (List.mem_cons_of_mem _ hf)

/-- A document puts what stands at its leaves over what was there. -/
theorem covers_document (hdocument : IsDocument entries) (htidy : Tidy entries) :
    Covers (leaf? · (.table none entries)) (layer entries) := by
  induction entries with
  | nil =>
    refine covers_id.congr fun ⟨outer?, n⟩ _ => ?_
    cases outer? <;> rfl
  | cons e entries ih =>
    have hrest : Tidy entries :=
      ⟨(List.nodup_cons.mp htidy.distinct).2, fun f hf => htidy.inner f (List.mem_cons_of_mem _ hf)⟩
    have hfirst := covers_entry hdocument List.mem_cons_self (htidy.inner e List.mem_cons_self)
    exact (hfirst.comp (ih hdocument.tail hrest)).congr fun l _ =>
      (leaf?_cons l htidy.distinct).symm

end Setting

end Fanout
