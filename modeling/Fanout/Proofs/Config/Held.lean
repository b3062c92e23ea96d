import Fanout.Proofs.Config.RoundTrip
import Fanout.Proofs.Number.Rounding
import Fanout.Proofs.Settings.Leaves

/-!
Values that go through settings. A form holds values with a property if the JSON of each can be scanned
and is read, as a setting, as what settings hold of the value: numbers from `2 ^ 63` on are rounded, and
everything else is read as it is (`RunnerConfig.holds_form`).
-/

namespace Fanout

/-- Values with a property can be scanned from their JSON, and a setting with this JSON is read as what is
held of the value. -/
structure Form.Holds {α : Type} (form : Form α) (depth : Nat) (P : α → Prop) (held : α → α) : Prop where
  scans : ∀ {x}, P x → Json.Scans depth (form.json x)
  reads : ∀ {x}, P x → ∀ origin, form.reading (Setting.ofJson origin (form.json x)) = .ok (held x)

/-- The value of a field can be scanned, and what is held of it is put into another record. -/
structure Field.Holds {C : Type} (depth : Nat) (P : C → Prop) (f : Field C) (copy : C → C → C) :
    Prop where
  scans : ∀ {c}, P c → Json.Scans depth (f.json c)
  reads : ∀ {c}, P c → ∀ origin, f.reading (Setting.ofJson origin (f.json c)) = .ok (copy c)

/-! ### Readings -/

namespace Setting

variable {n : Nat}

/-- A number of 63 bits is held as it is. -/
theorem integerScalar_of_lt (h : n < 2 ^ 63) : integerScalar n = .integer n := by
  have hlow : -(Nat.pow 2 63 : Int) ≤ (n : Int) := by
    simp only [Nat.pow_eq]
    omega
  have hhigh : (n : Int) < (Nat.pow 2 63 : Int) := by
    simp only [Nat.pow_eq]
    omega
  rw [integerScalar, decide_eq_true hlow, decide_eq_true hhigh]
  rfl

/-- A larger one is held as a float. -/
theorem integerScalar_of_le (h : 2 ^ 63 ≤ n) : integerScalar n = .float (Float.ofNat n) := by
  have hhigh : ¬ (n : Int) < (Nat.pow 2 63 : Int) := by
    simp only [Nat.pow_eq]
    omega
  rw [integerScalar, decide_eq_false hhigh, Bool.and_false]
  rfl

end Setting

namespace Reading

variable {α C : Type}

/-- A whole number of 64 bits is read as it is held. -/
theorem natural_ofJson (origin : String) {n : Nat} (hn : n ≤ Number.maxWord) :
    natural (Setting.ofJson origin (Json.nat n)) = .ok (Number.held n) := by
  rw [Json.nat, Setting.ofJson, Number.held]
  split_ifs with hsmall
  · rw [Setting.integerScalar_of_lt hsmall]
    simp [natural]
  · rw [Setting.integerScalar_of_le (Nat.le_of_not_lt hsmall)]
    exact congrArg Except.ok (Number.roundToWord_ofNat (Nat.le_of_not_lt hsmall) hn)

theorem boolean_ofJson (origin : String) (b : Bool) : boolean (Setting.ofJson origin (.bool b)) = .ok b := by
  rw [Setting.ofJson]
  rfl

/-- Where the names differ in lower case, a name stands for its alternative. -/
theorem choice_ofJson (origin title : String) {label : α → String} {all : List α} {x : α}
    (hlabels : (all.map fun y => Text.lower (label y)).Nodup) (hx : x ∈ all) :
    choice title label all (Setting.ofJson origin (.string (label x))) = .ok x := by
  have hfind := Json.Shape.find?_label (fun y => Text.lower (label y)) hlabels hx
  rw [Setting.ofJson]
  simp [choice, hfind]

theorem parsed?_ofJson (origin : String) {message s : String} {parse? : String → Option α} {x : α}
    (h : parse? s = some x) :
    parsed? message parse? (Setting.ofJson origin (.string s)) = .ok (some x) := by
  rw [Setting.ofJson]
  simp [parsed?, h]

theorem parsed?_ofJson_null (origin message : String) (parse? : String → Option α) :
    parsed? message parse? (Setting.ofJson origin .null) = .ok none := by
  rw [Setting.ofJson]
  rfl

/-- The fields of a table are read one after the other, each into its own field. -/
theorem entries_of_holds {depth : Nat} {P : C → Prop} (origin : String) {c record : C} (hc : P c)
    {table : List (String × Setting)} {later : List (Field C)} {copies : List (C → C → C)}
    (hholds : List.Forall₂ (Field.Holds depth P) later copies)
    (htable : ∀ f ∈ later, Setting.lookup f.name table = some (Setting.ofJson origin (f.json c))) :
    entries table (later.map fun f => (f.name, f.reading)) record =
      .ok (copies.foldl (fun d copy => copy c d) record) := by
  induction hholds generalizing record with
  | nil => rfl
  | @cons f copy later copies hf _ ih =>
    rw [List.map_cons, entries, htable f List.mem_cons_self]
    simp only [hf.reads hc]
    exact ih fun g hg => htable g (List.mem_cons_of_mem _ hg)

end Reading

theorem Field.scans_of_holds {C : Type} {depth : Nat} {P : C → Prop} {c : C} (hc : P c)
    {fields : List (Field C)} {copies : List (C → C → C)}
    (h : List.Forall₂ (Field.Holds depth P) fields copies) :
    ∀ f ∈ fields, Json.Scans depth (f.json c) := by
  induction h with
  | nil => exact List.forall_mem_nil _
  | cons hf _ ih => exact List.forall_mem_cons.mpr ⟨hf.scans hc, ih⟩

/-! ### The forms -/

namespace Form

variable {α C : Type} {depth : Nat}

theorem holds_natural (expected : String) :
    (natural expected).Holds depth (fun n => n ≤ Number.maxWord) Number.held where
  scans := fun hn => Json.scans_nat hn
  reads := by
    intro n hn origin
    dsimp only [natural]
    exact Reading.natural_ofJson origin hn

theorem holds_boolean : boolean.Holds depth (fun _ => True) id where
  scans := fun _ => Json.scans_bool _
  reads := fun {b} _ origin => Reading.boolean_ofJson origin b

theorem holds_choice (title : String) {label : α → String} {all : List α}
    (hlabels : (all.map fun x => Text.lower (label x)).Nodup) :
    (choice title label all).Holds depth (· ∈ all) id where
  scans := fun _ => Json.scans_string _
  reads := fun hx origin => Reading.choice_ofJson origin title hlabels hx

theorem holds_parsed (expected message : String) {parse? : String → Option α} {display : α → String}
    {P : α → Prop} (hreads : ∀ {x}, P x → parse? (display x) = some x) :
    (parsed expected message parse? display).Holds depth (fun x? => ∀ x ∈ x?, P x) id where
  scans := by
    rintro (_ | x) _
    · exact Json.scans_null
    · exact Json.scans_string _
  reads := by
    rintro (_ | x) hx origin
    · exact Reading.parsed?_ofJson_null origin message parse?
    · exact Reading.parsed?_ofJson origin (hreads (hx x rfl))

/-- A record whose fields are held, one bracket deeper. -/
theorem holds_record {r : RecordForm C} {P : C → Prop} {held : C → C} {copies : List (C → C → C)}
    (hnames : (r.fields.map Field.name).Nodup)
    (hholds : List.Forall₂ (Field.Holds depth P) r.fields copies)
    (hwhole : ∀ c, copies.foldl (fun d copy => copy c d) r.default = held c) :
    (record r).Holds (depth + 1) P held where
  scans := by
    intro c hc
    refine Json.scans_object fun m hm => ?_
    obtain ⟨f, hf, rfl⟩ := List.mem_map.mp hm
    exact Field.scans_of_holds hc hholds f hf
  reads := by
    intro c hc origin
    have hmembers : ((Field.members r.fields c).map Prod.fst).Nodup := by
      simpa [Field.members, Function.comp_def] using hnames
    change Reading.record r.title _ r.default
      (Setting.ofJson origin (.object (Field.members r.fields c))) = _
    rw [Setting.ofJson_object hmembers, ← hwhole c, Reading.record]
    refine Reading.entries_of_holds origin hc hholds fun f hf => ?_
    refine Setting.lookup_of_mem ?_ (List.mem_map.mpr ⟨(f.name, f.json c), List.mem_map_of_mem hf, rfl⟩)
    simpa [Setting.Distinct, Function.comp_def] using hmembers

end Form

/-- A field is held if its form is. -/
theorem Field.holds_of {α C : Type} {form : Form α} {depth : Nat} {P : C → Prop} {Q : α → Prop}
    {held : α → α} (h : form.Holds depth Q held) (name : String) {get : C → α} (set : α → C → C)
    (hget : ∀ {c}, P c → Q (get c)) :
    (Field.of name form get set).Holds depth P fun c => set (held (get c)) where
  scans := fun hc => h.scans (hget hc)
  reads := by
    intro c hc origin
    simp [Field.of, h.reads (hget hc), Except.map]

/-! ### Configurations -/

/-- The configuration with its numbers as they are held. -/
def PipelineConfig.held (c : PipelineConfig) : PipelineConfig :=
  { c with
    workerCount := Number.held c.workerCount
    want := Number.held c.want
    taskTimeoutMs := Number.held c.taskTimeoutMs
    tickIntervalMs := Number.held c.tickIntervalMs
    handoffCapacity := Number.held c.handoffCapacity }

/-- The workload with its numbers as they are held. -/
def WorkloadConfig.held (c : WorkloadConfig) : WorkloadConfig :=
  { taskCount := Number.held c.taskCount
    minTaskMs := Number.held c.minTaskMs
    maxTaskMs := Number.held c.maxTaskMs }

/-- The configuration with its numbers as they are held. -/
def RunnerConfig.held (c : RunnerConfig) : RunnerConfig :=
  { c with pipeline := c.pipeline.held, workload := c.workload.held }

/-- All numbers of a configuration. -/
def RunnerConfig.numbers (c : RunnerConfig) : List Nat :=
  [c.pipeline.workerCount, c.pipeline.want, c.pipeline.taskTimeoutMs, c.pipeline.tickIntervalMs,
    c.pipeline.handoffCapacity, c.workload.taskCount, c.workload.minTaskMs, c.workload.maxTaskMs]

namespace RunnerConfig

variable {c : RunnerConfig}

theorem InRange.numbers_le (h : c.InRange) : ∀ n ∈ c.numbers, n ≤ Number.maxWord := by
  simp only [numbers, List.forall_mem_cons]
  exact ⟨h.pipeline.workerCount, h.pipeline.want, h.pipeline.taskTimeoutMs,
    h.pipeline.tickIntervalMs, h.pipeline.handoffCapacity, h.workload.taskCount,
    h.workload.minTaskMs, h.workload.maxTaskMs, List.forall_mem_nil _⟩

theorem held_eq_self : c.held = c ↔ ∀ n ∈ c.numbers, Number.held n = n := by
  obtain ⟨⟨_, _, _, _, _, _, _⟩, ⟨_, _, _⟩, _⟩ := c
  simp [held, PipelineConfig.held, WorkloadConfig.held, numbers, and_assoc]

/-- A configuration is held as it is if every number below `2 ^ 63`, a multiple of 2048 or the largest
word. -/
theorem held_eq_self_iff (h : c.InRange) :
    c.held = c ↔ ∀ n ∈ c.numbers, n < 2 ^ 63 ∨ 2048 ∣ n ∨ n = Number.maxWord := by
  rw [held_eq_self]
  exact forall₂_congr fun n hn => Number.held_eq_self_iff (h.numbers_le n hn)

end RunnerConfig

open Form Fanout.Field

section Forms

variable {depth : Nat}

theorem ShutdownMode.holds_form : ShutdownMode.form.Holds depth (fun _ => True) id where
  scans := fun _ => Json.scans_string _
  reads := by
    intro m _ origin
    have hall : m ∈ ShutdownMode.all := by cases m <;> decide
    have hholds : ShutdownMode.form.Holds depth (· ∈ ShutdownMode.all) id :=
      holds_choice _ (by decide +kernel)
    exact hholds.reads hall origin

theorem SocketAddress.holds_form :
    SocketAddress.form.Holds depth (fun a? => ∀ a ∈ a?, SocketAddress.IsValid a) id :=
  holds_parsed _ _ parse?_display

theorem holds_size : size.Holds depth (fun n => n ≤ Number.maxWord) Number.held :=
  holds_natural _

theorem holds_milliseconds : milliseconds.Holds depth (fun n => n ≤ Number.maxWord) Number.held :=
  holds_natural _

theorem PipelineConfig.holds_form :
    PipelineConfig.form.Holds (depth + 1) PipelineConfig.InRange PipelineConfig.held :=
  holds_record (by decide)
    (.cons (holds_of holds_size _ _ (·.workerCount)) <|
      .cons (holds_of holds_size _ _ (·.want)) <|
      .cons (holds_of holds_milliseconds _ _ (·.taskTimeoutMs)) <|
      .cons (holds_of ShutdownMode.holds_form _ _ fun _ => trivial) <|
      .cons (holds_of holds_boolean _ _ fun _ => trivial) <|
      .cons (holds_of holds_milliseconds _ _ (·.tickIntervalMs)) <|
      .cons (holds_of holds_size _ _ (·.handoffCapacity)) .nil) fun _ => rfl

theorem WorkloadConfig.holds_form :
    WorkloadConfig.form.Holds (depth + 1) WorkloadConfig.InRange WorkloadConfig.held :=
  holds_record (by decide)
    (.cons (holds_of holds_size _ _ (·.taskCount)) <|
      .cons (holds_of holds_milliseconds _ _ (·.minTaskMs)) <|
      .cons (holds_of holds_milliseconds _ _ (·.maxTaskMs)) .nil) fun _ => rfl

/-- A configuration of the runner is read from settings as it is held there. -/
theorem RunnerConfig.holds_form :
    RunnerConfig.form.Holds (depth + 2) RunnerConfig.InRange RunnerConfig.held :=
  holds_record (by decide)
    (.cons (holds_of PipelineConfig.holds_form _ _ (·.pipeline)) <|
      .cons (holds_of WorkloadConfig.holds_form _ _ (·.workload)) <|
      .cons (holds_of SocketAddress.holds_form _ _ (·.metricsAddress)) .nil) fun _ => rfl

end Forms

end Fanout
