import Mathlib.Data.List.Perm.Basic
import Fanout.Config.Forms
import Fanout.Proofs.Config.Record

/-!
A configuration is read from what its text says and not from how it says it: the members of an object may
come in any order and among others, a configuration may be written as the array of its first values, and what
is left out has its default, within sections as well (`configs_read_in_any_form`).
-/

namespace Fanout

open Json (AreBlanks Bracketed Ends IsValue Part)

/-! ### Known entries -/

section Known

variable {C : Type} {slots : List (Slot C)} {entries entries' : List Entry}

/-- The entries whose names are those of slots. -/
def known (slots : List (Slot C)) (entries : List Entry) : List Entry :=
  entries.filter fun e => e.1 ∈ slots.map (·.name)

theorem mem_known {s : Slot C} (hs : s ∈ slots) {text : List Char} :
    (s.name, text) ∈ known slots entries ↔ (s.name, text) ∈ entries := by
  have hname : s.name ∈ slots.map (·.name) := List.mem_map_of_mem hs
  simp only [known, List.mem_filter, hname, decide_true, and_true]

theorem count_known {s : Slot C} (hs : s ∈ slots) :
    ((known slots entries).map Prod.fst).count s.name = (entries.map Prod.fst).count s.name := by
  have hname : s.name ∈ slots.map (·.name) := List.mem_map_of_mem hs
  have hfilter : (known slots entries).map Prod.fst =
      (entries.map Prod.fst).filter fun name => name ∈ slots.map (·.name) := by
    rw [known, List.filter_map]
    rfl
  rw [hfilter, List.count_filter (by simpa using hname)]

theorem mem_iff_of_perm (h : (known slots entries').Perm (known slots entries)) {s : Slot C} (hs : s ∈ slots)
    {text : List Char} : (s.name, text) ∈ entries' ↔ (s.name, text) ∈ entries := by
  rw [← mem_known hs, h.mem_iff, mem_known hs]

/-- Well-typed entries stay so when the known ones change places and the others are other values. -/
theorem WellTyped.of_perm (h : WellTyped slots entries)
    (hperm : (known slots entries').Perm (known slots entries))
    (hothers : ∀ e ∈ entries', (∀ s ∈ slots, s.name ≠ e.1) → IsValue e.2) : WellTyped slots entries' where
  once := fun s hs => by
    rw [← count_known hs, (hperm.map Prod.fst).count_eq, count_known hs]
    exact h.once s hs
  typed := fun s hs text htext => h.typed s hs text ((mem_iff_of_perm hperm hs).mp htext)
  others := hothers

theorem describes_iff_of_perm (hperm : (known slots entries').Perm (known slots entries)) {before c : C} :
    Describes slots before entries' c ↔ Describes slots before entries c := by
  refine forall₂_congr fun s hs => ?_
  simp only [Slot.Holds, mem_iff_of_perm hperm hs]

/-- The values of an array are well-typed entries if they are so at their places. -/
theorem wellTyped_positional (hnames : (slots.map (·.name)).Nodup) {parts : List (Part false)}
    (htyped : ∀ e ∈ slots.zip parts, e.1.spelling.Accepts e.2.value) :
    WellTyped slots (positional slots parts) where
  once := fun s _ => by
    have hsublist : ((positional slots parts).map Prod.fst).Sublist (slots.map (·.name)) := by
      rw [positional, List.zip_eq_zip_take_min, List.map_fst_zip (by simp)]
      exact List.take_sublist ..
    exact List.nodup_iff_count_le_one.mp (hnames.sublist hsublist) s.name
  typed := fun s hs text htext => by
    rw [positional, List.zip_map] at htext
    obtain ⟨⟨s', p⟩, hpair, heq⟩ := List.mem_map.mp htext
    obtain ⟨hname, rfl⟩ := Prod.mk.inj heq
    obtain rfl := List.inj_on_of_nodup_map hnames (List.of_mem_zip hpair).1 hs hname
    exact htyped _ hpair
  others := fun e he hother => by
    obtain ⟨s, hs, hname⟩ := List.mem_map.mp (List.of_mem_zip he).1
    exact absurd hname (hother s hs)

end Known

/-! ### Reading in any form -/

/-- A text is that of a value, with blanks around it. -/
def IsJsonText (text : String) (value : List Char) : Prop :=
  ∃ before after, AreBlanks before ∧ AreBlanks after ∧ text.toList = before ++ (value ++ after)

open Json.Shape (parse)

/-- A record is read from its entries, in whatever form they are written. -/
structure Form.ReadsInAnyForm {C : Type} (form : Form C) (slots : List (Slot C)) (default : C) : Prop where
  /-- An object is read as the one record in which each slot has the value of its member, or its default
  where it has none. -/
  object : ∀ {text : String} {o : Bracketed true} {entries : List Entry}, IsJsonText text o.text →
    ListsEntries o.parts entries → WellTyped slots entries →
    ∃ c, parse form.shape text = .ok c ∧ ∀ d, Describes slots default entries d ↔ d = c
  /-- The order of the members does not matter, nor do members with other names. -/
  order : ∀ {text text' : String} {o o' : Bracketed true} {entries entries' : List Entry},
    IsJsonText text o.text → ListsEntries o.parts entries → WellTyped slots entries →
    IsJsonText text' o'.text → ListsEntries o'.parts entries' →
    (known slots entries').Perm (known slots entries) →
    (∀ e ∈ entries', (∀ s ∈ slots, s.name ≠ e.1) → IsValue e.2) →
    parse form.shape text' = parse form.shape text
  /-- Neither does it matter how the values are spelled, so that within a section there is any form again. -/
  spelling : ∀ {text text' : String} {o o' : Bracketed true} {entries entries' : List Entry},
    IsJsonText text o.text → ListsEntries o.parts entries → WellTyped slots entries →
    IsJsonText text' o'.text → ListsEntries o'.parts entries' → WellTyped slots entries' →
    (∀ s ∈ slots, ∀ x, (∃ value, (s.name, value) ∈ entries ∧ s.spelling.means x value) ↔
      ∃ value, (s.name, value) ∈ entries' ∧ s.spelling.means x value) →
    parse form.shape text' = parse form.shape text
  /-- The array of the first values is read, and so is the object of these members. -/
  array : ∀ {text text' : String} {a : Bracketed false} {o : Bracketed true}, IsJsonText text a.text →
    a.parts.length ≤ slots.length → (∀ e ∈ slots.zip a.parts, e.1.spelling.Accepts e.2.value) →
    IsJsonText text' o.text → ListsEntries o.parts (positional slots a.parts) →
    ∃ c, parse form.shape text = .ok c ∧ parse form.shape text' = .ok c
  /-- A known name that is there for the second time is refused, whatever follows it. -/
  repeated : ∀ {text : String} {name : String} {before beginning rest : List Char}, AreBlanks before →
    RecordRepeats slots name beginning → text.toList = before ++ (beginning ++ rest) →
    parse form.shape text = .error (.repeated name)

section Reading

variable {C : Type} {slots : List (Slot C)} {r : RecordForm C}

theorem shape_append {form : Form C} {σ : Spelling C} (h : form.Understands σ) {before : List Char}
    (hbefore : AreBlanks before) (text : List Char) : form.shape (before ++ text) = form.shape text := by
  rw [← h.blanks, Json.skipBlanks_append hbefore, h.blanks]

/-- A text is read as what its value means. -/
theorem parse_of_jsonText {form : Form C} {σ : Spelling C} (h : form.Understands σ) {text : String}
    {value : List Char} (htext : IsJsonText text value) {c : C} (hmeans : σ.means c value) :
    parse form.shape text = .ok c := by
  obtain ⟨before, after, hbefore, hafter, hlist⟩ := htext
  have hends : Ends after := by
    rw [← List.append_nil after]
    exact Ends.blanks_append hafter Json.ends_nil
  have hend : Json.skipBlanks after = [] := by
    rw [← List.append_nil after, Json.skipBlanks_append hafter]
    rfl
  simp [parse, hlist, shape_append h hbefore, h.reads hmeans hends, hend, bind, Except.bind, pure, Except.pure]

/-- Entries of which the values mean the same describe the same. -/
theorem RecordForm.HasSlots.describes_of_alike (h : r.HasSlots slots) {entries entries' : List Entry}
    (htyped : WellTyped slots entries')
    (halike : ∀ s ∈ slots, ∀ x, (∃ value, (s.name, value) ∈ entries ∧ s.spelling.means x value) ↔
      ∃ value, (s.name, value) ∈ entries' ∧ s.spelling.means x value) {before c : C}
    (hdescribes : Describes slots before entries c) (htyped' : WellTyped slots entries) :
    Describes slots before entries' c := by
  intro s hs
  refine ⟨fun value' hvalue' => ?_, fun hnone => ?_⟩
  · obtain ⟨x, hx⟩ := htyped.typed s hs value' hvalue'
    obtain ⟨value, hvalue, hmeans⟩ := (halike s hs x).mpr ⟨value', hvalue', hx⟩
    obtain ⟨f, hf, -⟩ := h.find?_known hs
    rw [hf.unique c ((hdescribes s hs).1 value hvalue) hmeans]
    exact hx
  · refine (hdescribes s hs).2 fun value hvalue => ?_
    obtain ⟨x, hx⟩ := htyped'.typed s hs value hvalue
    obtain ⟨value', hvalue', -⟩ := (halike s hs x).mp ⟨value, hvalue, hx⟩
    exact hnone value' hvalue'

theorem RecordForm.HasSlots.readsInAnyForm (h : r.HasSlots slots) :
    (Form.record r).ReadsInAnyForm slots r.default := by
  have hunderstands := Form.understands_record h
  have hobject : ∀ {text : String} {o : Bracketed true} {entries : List Entry}, IsJsonText text o.text →
      ListsEntries o.parts entries → WellTyped slots entries →
      ∃ c, parse (Form.record r).shape text = .ok c ∧ Describes slots r.default entries c := by
    intro text o entries htext hlists htyped
    obtain ⟨c, -, hdescribes⟩ := h.reads_object hlists htyped []
    exact ⟨c, parse_of_jsonText hunderstands htext (.object hlists htyped hdescribes), hdescribes⟩
  refine ⟨fun htext hlists htyped => ?_, fun htext hlists htyped htext' hlists' hperm hothers => ?_,
    fun htext hlists htyped htext' hlists' htyped' halike => ?_,
    fun {text text' a o} htext hlength htyped htext' hlists => ?_,
    fun {text name before beginning rest} hbefore hrepeats hlist => ?_⟩
  · obtain ⟨c, hparse, hdescribes⟩ := hobject htext hlists htyped
    refine ⟨c, hparse, fun d => ⟨fun hd => h.unique hd hdescribes, ?_⟩⟩
    rintro rfl
    exact hdescribes
  · obtain ⟨c, hparse, hdescribes⟩ := hobject htext hlists htyped
    obtain ⟨c', hparse', hdescribes'⟩ := hobject htext' hlists' (htyped.of_perm hperm hothers)
    rw [hparse, hparse', h.unique hdescribes ((describes_iff_of_perm hperm).mp hdescribes')]
  · obtain ⟨c, hparse, hdescribes⟩ := hobject htext hlists htyped
    obtain ⟨c', hparse', hdescribes'⟩ := hobject htext' hlists' htyped'
    rw [hparse, hparse', h.unique (h.describes_of_alike htyped' halike hdescribes htyped) hdescribes']
  · obtain ⟨c, -, hdescribes⟩ := h.reads_array hlength htyped []
    have hobject := parse_of_jsonText hunderstands htext'
      (.object hlists (wellTyped_positional h.names htyped) hdescribes)
    exact ⟨c, parse_of_jsonText hunderstands htext (.array hlength hdescribes), hobject⟩
  · have hshape := (hunderstands.repeated hrepeats).2 rest
    simp [parse, hlist, shape_append hunderstands hbefore, hshape, bind, Except.bind]

end Reading

/-! ### The configurations -/

/-- A slot with the texts of its values. -/
def Slot.of {C α : Type} (name : String) (spelling : Spelling α) (get : C → α) : Slot C :=
  ⟨name, α, spelling, get⟩

theorem Slot.fits_of {C α : Type} {slots : List (Slot C)} {form : Form α} {σ : Spelling α}
    (h : form.Understands σ) (name : String) {get : C → α} {set : α → C → C}
    (hget : ∀ x c, get (set x c) = x)
    (hothers : ∀ x c, ∀ s ∈ slots, s.name ≠ name → s.get (set x c) = s.get c) :
    (Slot.of name σ get).Fits slots (Field.of name form get set) where
  name := rfl
  blanks := fun text => by simp only [Field.of, h.blanks]
  begins := h.begins
  reads := fun {x text rest} hmeans hrest => by
    refine ⟨set x, ?_, fun c => ⟨hget x c, hothers x c⟩⟩
    simp [Field.of, h.reads hmeans hrest, bind, Except.bind, pure, Except.pure]
  repeated := fun {name text} hrepeats => by
    obtain ⟨hbegins, hshape⟩ := h.repeated hrepeats
    refine ⟨hbegins, fun rest => ?_⟩
    simp [Field.of, hshape, bind, Except.bind]

def PipelineConfig.slots : List (Slot PipelineConfig) :=
  [.of "worker_count" .natural (·.workerCount), .of "want" .natural (·.want),
    .of "task_timeout_ms" .natural (·.taskTimeoutMs),
    .of "shutdown_mode" (.choice ShutdownMode.label ShutdownMode.all) (·.shutdownMode),
    .of "trailing_pause" .boolean (·.trailingPause), .of "tick_interval_ms" .natural (·.tickIntervalMs),
    .of "handoff_capacity" .natural (·.handoffCapacity)]

def WorkloadConfig.slots : List (Slot WorkloadConfig) :=
  [.of "task_count" .natural (·.taskCount), .of "min_task_ms" .natural (·.minTaskMs),
    .of "max_task_ms" .natural (·.maxTaskMs)]

def RunnerConfig.slots : List (Slot RunnerConfig) :=
  [.of "distrib" (.record PipelineConfig.slots {}) (·.pipeline),
    .of "workload" (.record WorkloadConfig.slots {}) (·.workload),
    .of "metrics_listen_addr" (.parsed SocketAddress.parse?) (·.metricsAddress)]

open Form Slot

theorem PipelineConfig.hasSlots :
    RecordForm.HasSlots ⟨"DistribConfig", {}, PipelineConfig.fields⟩ PipelineConfig.slots where
  fits := by
    refine .cons (fits_of (understands_natural _) _ ?_ ?_) <|
      .cons (fits_of (understands_natural _) _ ?_ ?_) <|
      .cons (fits_of (understands_natural _) _ ?_ ?_) <|
      .cons (fits_of (understands_choice _ (by decide)) _ ?_ ?_) <|
      .cons (fits_of understands_boolean _ ?_ ?_) <|
      .cons (fits_of (understands_natural _) _ ?_ ?_) <|
      .cons (fits_of (understands_natural _) _ ?_ ?_) .nil <;>
    simp [PipelineConfig.slots, Slot.of]
  names := by decide
  whole := by
    intro c d h
    simp only [PipelineConfig.slots, List.forall_mem_cons, Slot.of] at h
    obtain ⟨h1, h2, h3, h4, h5, h6, h7, -⟩ := h
    cases c
    cases d
    simp_all

theorem WorkloadConfig.hasSlots :
    RecordForm.HasSlots ⟨"WorkloadConfig", {}, WorkloadConfig.fields⟩ WorkloadConfig.slots where
  fits := by
    refine .cons (fits_of (understands_natural _) _ ?_ ?_) <|
      .cons (fits_of (understands_natural _) _ ?_ ?_) <|
      .cons (fits_of (understands_natural _) _ ?_ ?_) .nil <;>
    simp [WorkloadConfig.slots, Slot.of]
  names := by decide
  whole := by
    intro c d h
    simp only [WorkloadConfig.slots, List.forall_mem_cons, Slot.of] at h
    obtain ⟨h1, h2, h3, -⟩ := h
    cases c
    cases d
    simp_all

theorem RunnerConfig.hasSlots :
    RecordForm.HasSlots ⟨"RunnerConfig", {}, RunnerConfig.fields⟩ RunnerConfig.slots where
  fits := by
    refine .cons (fits_of (understands_record PipelineConfig.hasSlots) _ ?_ ?_) <|
      .cons (fits_of (understands_record WorkloadConfig.hasSlots) _ ?_ ?_) <|
      .cons (fits_of (understands_parsed _ _ _ _) _ ?_ ?_) .nil <;>
    simp [RunnerConfig.slots, Slot.of]
  names := by decide
  whole := by
    intro c d h
    simp only [RunnerConfig.slots, List.forall_mem_cons, Slot.of] at h
    obtain ⟨h1, h2, h3, -⟩ := h
    cases c
    cases d
    simp_all

/-- The configurations of a pipeline, of a workload and of the runner are read from their entries, whatever
their order, what else stands among them, how they are spelled and whether as an object or as an array. What
is left out has its default, a name that is repeated is refused, and both hold within the sections of the
runner's configuration as well. -/
theorem configs_read_in_any_form :
    PipelineConfig.form.ReadsInAnyForm PipelineConfig.slots {} ∧
      WorkloadConfig.form.ReadsInAnyForm WorkloadConfig.slots {} ∧
      RunnerConfig.form.ReadsInAnyForm RunnerConfig.slots {} :=
  ⟨PipelineConfig.hasSlots.readsInAnyForm, WorkloadConfig.hasSlots.readsInAnyForm,
    RunnerConfig.hasSlots.readsInAnyForm⟩

/-- A member with a plain name. -/
def plainMember (name : String) (value : List Char)
    (h : ∀ c ∈ name.toList, c ≠ '"' ∧ c ≠ '\\' ∧ ¬ c < ' ') : Part true where
  before := []
  label := '"' :: (name.toList ++ '"' :: ([] ++ [':']))
  between := []
  value := value
  after := []
  before_blanks := Json.areBlanks_nil
  isLabel := ⟨name.toList, [], (Json.spells_self h).isRaw, Json.areBlanks_nil, rfl⟩
  between_blanks := Json.areBlanks_nil
  after_blanks := Json.areBlanks_nil

theorem names_plainMember {name : String} {value : List Char}
    (h : ∀ c ∈ name.toList, c ≠ '"' ∧ c ≠ '\\' ∧ ¬ c < ' ') : (plainMember name value h).Names name :=
  ⟨name.toList, [], Json.spells_self h, Json.areBlanks_nil, rfl⟩

/-- A member that is not known makes no difference, and what is left out has its default. -/
theorem configs_read_in_any_form_of_three :
    parse PipelineConfig.form.shape "\x7b\"note\":true,\"want\":3\x7d" = .ok { want := 3 } := by
  let o : Bracketed true :=
    ⟨[plainMember "note" ['t', 'r', 'u', 'e'] (by simp), plainMember "want" ['3'] (by simp)], [],
      Json.areBlanks_nil⟩
  have hlists : ListsEntries o.parts [("note", ['t', 'r', 'u', 'e']), ("want", ['3'])] :=
    .cons ⟨names_plainMember _, rfl⟩ (.cons ⟨names_plainMember _, rfl⟩ .nil)
  have htyped : WellTyped PipelineConfig.slots [("note", ['t', 'r', 'u', 'e']), ("want", ['3'])] := by
    refine ⟨by simp [PipelineConfig.slots, Slot.of], ?_, ?_⟩
    · simp [PipelineConfig.slots, Slot.of]
      exact ⟨3, by decide, rfl⟩
    · simp [PipelineConfig.slots, Slot.of, IsValue.word]
  have htext : IsJsonText "\x7b\"note\":true,\"want\":3\x7d" o.text :=
    ⟨[], [], Json.areBlanks_nil, Json.areBlanks_nil, by decide⟩
  obtain ⟨c, hparse, hunique⟩ := configs_read_in_any_form.1.object htext hlists htyped
  have hdescribes : Describes PipelineConfig.slots {} [("note", ['t', 'r', 'u', 'e']), ("want", ['3'])]
      { want := 3 } := by
    simp [Describes, Slot.Holds, PipelineConfig.slots, Slot.of]
    exact ⟨by decide, rfl⟩
  rw [hparse, (hunique _).mp hdescribes]

end Fanout
