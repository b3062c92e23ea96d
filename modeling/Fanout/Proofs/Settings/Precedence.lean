import Fanout.Proofs.Settings.Files
import Fanout.Proofs.Settings.Variables

/-!
Precedence of layers, leaf by leaf. A configuration that is loaded from layers is the one that a single
document says in which every leaf has its value from the topmost layer that mentions it
(`load_as_single_document`).
-/

namespace Fanout

open Setting

/-! ### Readings of scalars -/

/-- The value of a scalar. -/
def Setting.scalar? : Setting → Option Scalar
  | .scalar _ value => some value
  | _ => none

theorem Setting.of_scalar? {s : Setting} {value : Scalar} (h : s.scalar? = some value) :
    ∃ origin, s = .scalar origin value := by
  cases s with
  | scalar origin v => cases h; exact ⟨origin, rfl⟩
  | table => cases h
  | array => cases h

namespace Reading

variable {α C : Type}

/-- What is read from a scalar does not depend on where the scalar comes from. -/
def Blind (reading : Reading α) : Prop :=
  ∀ o o' v, (reading (.scalar o v)).toOption = (reading (.scalar o' v)).toOption

theorem blind_natural : Blind natural := by
  intro o o' v
  cases v with
  | integer n => by_cases hn : 0 ≤ n <;> simp [natural, hn, refuse, Except.toOption]
  | text s =>
    simp only [natural]
    split
    · rfl
    · split <;> rfl
  | _ => rfl

theorem blind_boolean : Blind boolean := by
  intro o o' v
  cases v with
  | text s =>
    simp only [boolean]
    split_ifs
    · rfl
    · rfl
    · split <;> rfl
  | _ => rfl

theorem blind_choice (title : String) (label : α → String) (all : List α) :
    Blind (choice title label all) := by
  intro o o' v
  cases v <;> rfl

theorem blind_parsed? (message : String) (parse? : String → Option α) :
    Blind (parsed? message parse?) := by
  intro o o' v
  cases v with
  | text s =>
    simp only [parsed?]
  | _ => rfl

/-- A text with a meaning is read from no setting but a scalar. -/
theorem parsed?_of_none {message : String} {parse? : String → Option α} {s : Setting}
    (h : s.scalar? = none) : (parsed? message parse? s).toOption = none := by
  cases s with
  | scalar => cases h
  | table => rfl
  | array => rfl

/-! ### Records -/

/-- What is read from a setting, or a default where there is none. -/
def orElse (reading : Reading α) (default : α) (s? : Option Setting) : Option α :=
  s?.elim (some default) fun s => (reading s).toOption

theorem toOption_entries_cons (t : List (String × Setting)) (f : String × Reading (C → C))
    (fields : Fields C) (record : C) :
    (entries t (f :: fields) record).toOption =
      (orElse f.2 id (lookup f.1 t)).bind fun update =>
        (entries t fields (update record)).toOption := by
  obtain ⟨name, reading⟩ := f
  cases hs : lookup name t with
  | none => simp [entries, orElse, hs]
  | some s => cases hread : reading s <;> simp [entries, orElse, hs, hread, Except.toOption]

/-- Tables that say the same of every field are read alike. -/
theorem entries_congr {t t' : List (String × Setting)} {fields : Fields C}
    (h : ∀ f ∈ fields, orElse f.2 id (lookup f.1 t) = orElse f.2 id (lookup f.1 t')) (record : C) :
    (entries t fields record).toOption = (entries t' fields record).toOption := by
  induction fields generalizing record with
  | nil => rfl
  | cons f fields ih =>
    rw [toOption_entries_cons, toOption_entries_cons, h f List.mem_cons_self]
    simp only [ih fun g hg => h g (List.mem_cons_of_mem _ hg)]

/-- Nothing is read from an empty table. -/
theorem entries_nil (fields : Fields C) (record : C) : entries [] fields record = .ok record := by
  induction fields with
  | nil => rfl
  | cons f fields ih => exact ih

/-- A field that is left out is read as its default, if that is what the record has there. -/
theorem toOption_entries_field {name : String} {form : Form α} {get : C → α} {set : α → C → C}
    {default : α} {record : C} (h : set default record = record) (t : List (String × Setting))
    (fields : Fields C) :
    (entries t ((name, (Field.of name form get set).reading) :: fields) record).toOption =
      (orElse form.reading default (lookup name t)).bind fun x =>
        (entries t fields (set x record)).toOption := by
  rw [toOption_entries_cons]
  cases lookup name t with
  | none => simp [orElse, h]
  | some s =>
    cases hread : form.reading s <;> simp [orElse, Field.of, hread, Except.map, Except.toOption]

/-- A section that is left out is read like an empty one. -/
theorem orElse_record {r : RecordForm C} {s? : Option Setting} (h : ∀ s ∈ s?, s.IsFlat) :
    orElse (Form.record r).reading r.default s? =
      (entries ((s?.map Setting.inner).getD [])
        (r.fields.map fun f => (f.name, f.reading)) r.default).toOption := by
  cases s? with
  | none =>
    change some r.default = (entries [] _ r.default).toOption
    rw [entries_nil]
    rfl
  | some s =>
    obtain ⟨origin, table, rfl, -⟩ := h s rfl
    rfl

theorem blind_field {form : Form α} (h : Blind form.reading) (name : String) (get : C → α)
    (set : α → C → C) : Blind (Field.of name form get set).reading := by
  intro o o' v
  have hsame := h o o' v
  change ((form.reading _).map set).toOption = ((form.reading _).map set).toOption
  cases hread : form.reading (.scalar o v) <;> cases hread' : form.reading (.scalar o' v) <;>
    simp_all [Except.map, Except.toOption]

/-- Scalars of one value are read alike. -/
theorem orElse_congr {reading : Reading α} (h : Blind reading) {default : α} {s? t? : Option Setting}
    (hs : ∀ s ∈ s?, s.IsScalar) (ht : ∀ t ∈ t?, t.IsScalar)
    (hsame : s?.map scalar? = t?.map scalar?) : orElse reading default s? = orElse reading default t? := by
  cases s? with
  | none =>
    cases t? with
    | none => rfl
    | some t => cases hsame
  | some s =>
    cases t? with
    | none => cases hsame
    | some t =>
      obtain ⟨o, v, rfl⟩ := hs s rfl
      obtain ⟨o', v', rfl⟩ := ht t rfl
      cases hsame
      exact h o o' v

theorem IsFlat.isScalar {s? : Option Setting} (h : ∀ s ∈ s?, s.IsFlat) (name : String) :
    ∀ t ∈ lookup name ((s?.map Setting.inner).getD []), t.IsScalar := by
  intro t ht
  cases s? with
  | none => cases ht
  | some s =>
    obtain ⟨origin, table, rfl, hall⟩ := h s rfl
    exact hall _ (mem_of_lookup ht)

/-- Sections whose leaves have the same values are read alike. -/
theorem orElse_section {r : RecordForm C} (hblind : ∀ f ∈ r.fields, Blind f.reading)
    {s? t? : Option Setting} (hs : ∀ s ∈ s?, s.IsFlat) (ht : ∀ t ∈ t?, t.IsFlat)
    (hsame : ∀ f ∈ r.fields, (s?.bind fun s => lookup f.name s.inner).map scalar? =
      (t?.bind fun t => lookup f.name t.inner).map scalar?) :
    orElse (Form.record r).reading r.default s? = orElse (Form.record r).reading r.default t? := by
  have hlookup : ∀ (u? : Option Setting) name,
      lookup name ((u?.map Setting.inner).getD []) = u?.bind fun u => lookup name u.inner := by
    intro u? name
    cases u? <;> rfl
  rw [orElse_record hs, orElse_record ht]
  refine entries_congr (fun g hg => ?_) r.default
  obtain ⟨f, hf, rfl⟩ := List.mem_map.mp hg
  refine orElse_congr (hblind f hf) (IsFlat.isScalar hs f.name) (IsFlat.isScalar ht f.name) ?_
  rw [hlookup, hlookup]
  exact hsame f hf

end Reading

/-! ### Configurations of the runner -/

namespace RunnerConfig

/-- The leaves that a configuration is read from. -/
def leaves : List Leaf :=
  (PipelineConfig.fields.map fun f => ⟨some "distrib", f.name⟩) ++
    (WorkloadConfig.fields.map fun f => ⟨some "workload", f.name⟩) ++ [⟨none, addressName⟩]

theorem isKnown_of_mem_leaves {l : Leaf} (h : l ∈ leaves) : l.IsKnown := by
  rcases List.mem_append.mp h with h | h
  · rcases List.mem_append.mp h with h | h
    · obtain ⟨f, -, rfl⟩ := List.mem_map.mp h
      exact List.mem_cons_self
    · obtain ⟨f, -, rfl⟩ := List.mem_map.mp h
      exact List.mem_cons_of_mem _ List.mem_cons_self
  · rw [List.mem_singleton.mp h]
    rfl

open Reading

/-- A configuration is read section by section. -/
theorem reading_table (origin : Option String) (table : List (String × Setting)) :
    (RunnerConfig.form.reading (.table origin table)).toOption =
      (orElse PipelineConfig.form.reading {} (lookup "distrib" table)).bind fun pipeline =>
        (orElse WorkloadConfig.form.reading {} (lookup "workload" table)).bind fun workload =>
          (orElse SocketAddress.form.reading none (lookup addressName table)).bind fun address =>
            some { pipeline, workload, metricsAddress := address } := by
  refine (toOption_entries_field rfl table _).trans (congrArg _ (funext fun pipeline => ?_))
  refine (toOption_entries_field rfl table _).trans (congrArg _ (funext fun workload => ?_))
  exact (toOption_entries_field rfl table _).trans (congrArg _ (funext fun address => rfl))

theorem blind_pipeline : ∀ f ∈ PipelineConfig.fields, Blind f.reading := by
  simp only [PipelineConfig.fields, List.forall_mem_cons]
  exact ⟨blind_field blind_natural _ _ _, blind_field blind_natural _ _ _,
    blind_field blind_natural _ _ _, blind_field (blind_choice _ _ _) _ _ _,
    blind_field blind_boolean _ _ _, blind_field blind_natural _ _ _,
    blind_field blind_natural _ _ _, List.forall_mem_nil _⟩

theorem blind_workload : ∀ f ∈ WorkloadConfig.fields, Blind f.reading := by
  simp only [WorkloadConfig.fields, List.forall_mem_cons]
  exact ⟨blind_field blind_natural _ _ _, blind_field blind_natural _ _ _,
    blind_field blind_natural _ _ _, List.forall_mem_nil _⟩

/-- The address is read alike from settings of one value, and from none that has no value. -/
theorem orElse_address {s? t? : Option Setting} (h : s?.map scalar? = t?.map scalar?) :
    orElse SocketAddress.form.reading none s? = orElse SocketAddress.form.reading none t? := by
  cases s? with
  | none =>
    cases t? with
    | none => rfl
    | some t => cases h
  | some s =>
    cases t? with
    | none => cases h
    | some t =>
      have hsame : s.scalar? = t.scalar? := Option.some.inj h
      change (parsed? _ _ s).toOption = (parsed? _ _ t).toOption
      cases hs : s.scalar? with
      | none => rw [parsed?_of_none hs, parsed?_of_none (hsame ▸ hs)]
      | some v =>
        obtain ⟨o, rfl⟩ := of_scalar? hs
        obtain ⟨o', rfl⟩ := of_scalar? (hsame ▸ hs)
        exact blind_parsed? _ _ o o' v

/-- Settings whose leaves have the same values are read alike. -/
theorem reading_congr {s t : Setting} (hs : s.Sectioned) (ht : t.Sectioned)
    (h : ∀ l ∈ leaves, (s.leaf? l).map scalar? = (t.leaf? l).map scalar?) :
    (RunnerConfig.form.reading s).toOption = (RunnerConfig.form.reading t).toOption := by
  obtain ⟨⟨origin, entries, rfl⟩, hs⟩ := hs
  obtain ⟨⟨origin', entries', rfl⟩, ht⟩ := ht
  have hpipeline : orElse PipelineConfig.form.reading {} (lookup "distrib" entries) =
      orElse PipelineConfig.form.reading {} (lookup "distrib" entries') := by
    refine orElse_section blind_pipeline (hs "distrib" (by decide)) (ht "distrib" (by decide)) ?_
    exact fun f hf => h ⟨some "distrib", f.name⟩
      (List.mem_append_left _ (List.mem_append_left _ (List.mem_map_of_mem hf)))
  have hworkload : orElse WorkloadConfig.form.reading {} (lookup "workload" entries) =
      orElse WorkloadConfig.form.reading {} (lookup "workload" entries') := by
    refine orElse_section blind_workload (hs "workload" (by decide)) (ht "workload" (by decide)) ?_
    exact fun f hf => h ⟨some "workload", f.name⟩
      (List.mem_append_left _ (List.mem_append_right _ (List.mem_map_of_mem hf)))
  have haddress : orElse SocketAddress.form.reading none (lookup addressName entries) =
      orElse SocketAddress.form.reading none (lookup addressName entries') :=
    orElse_address (h ⟨none, addressName⟩ (List.mem_append_right _ List.mem_cons_self))
  rw [reading_table, reading_table, hpipeline, hworkload, haddress]

end RunnerConfig

/-! ### Loading -/

section Loading

variable {α : Type} {reading : Reading α} {files : FileView} {vars : List Variable}
  {directory : String} {environment : Environment} {root : Setting}

/-- A configuration is loaded if it can be read from the settings. -/
theorem loadConfig_of_settings {x : α} (hload : loadSettings files vars directory environment = .ok root)
    (hread : (reading root).toOption = some x) :
    loadConfig reading files vars directory environment = .ok x := by
  cases hroot : reading root with
  | error m => simp [hroot, Except.toOption] at hread
  | ok y =>
    simp only [hroot, Except.toOption, Option.some.injEq] at hread
    simp [loadConfig, hload, hroot, hread, bind, Except.bind, pure, Except.pure]

/-- Otherwise the settings are said to be misread. -/
theorem loadConfig_misread (hload : loadSettings files vars directory environment = .ok root)
    (hread : (reading root).toOption = none) :
    ∃ m, loadConfig reading files vars directory environment = .error (.misread m) := by
  cases hroot : reading root with
  | error m => exact ⟨m, by simp [loadConfig, hload, hroot, bind, Except.bind]⟩
  | ok y => simp [hroot, Except.toOption] at hread

end Loading

/-! ### Layers -/

/-- What stands at a leaf in the topmost of three layers that mentions it: variables, the file of the
environment where there is one, and the base file. -/
def topmost (vars : List Variable) (special : Option (List (String × Setting)))
    (base : List (String × Setting)) (l : Leaf) : Option Setting :=
  (Variable.leaf? l vars).or
    ((special.bind fun entries => leaf? l (.table none entries)).or (leaf? l (.table none base)))

section Layers

variable {files : FileView} {vars : List Variable} {directory : String} {environment : Environment}
  {base : List (String × Setting)} {special : Option (List (String × Setting))}

theorem sectioned_empty : Setting.empty.Sectioned :=
  ⟨⟨none, [], rfl⟩, fun _ _ _ h => nomatch h⟩

theorem leaf?_empty (l : Leaf) : leaf? l .empty = none := by
  obtain ⟨outer?, n⟩ := l
  cases outer? <;> rfl

/-- Layers are laid over one another leaf by leaf. -/
theorem loadSettings_of_layers (hdirectory : files.isDirectory directory = true)
    (hbase : ConfigFile.settings? files directory .base = .ok (some base))
    (hspecial : ConfigFile.settings? files directory (.environment environment) = .ok special)
    (hbaseDocument : IsDocument base) (hspecialDocument : ∀ entries ∈ special, IsDocument entries)
    (hvars : Variable.OnePerLeaf vars) :
    ∃ root, loadSettings files vars directory environment = .ok root ∧ root.Sectioned ∧
      ∀ l, l.IsKnown → root.leaf? l = topmost vars special base l := by
  obtain ⟨last, hlast, hvarsCover⟩ := Variable.covers_settings hvars
  have hbaseCovers := covers_document hbaseDocument (ConfigFile.tidy_of_settings? hbase)
  have hspecialCovers : Covers (fun l => special.bind fun entries => leaf? l (.table none entries))
      (layer (special.getD [])) := by
    cases special with
    | none => exact covers_id
    | some entries =>
      exact covers_document (hspecialDocument entries rfl) (ConfigFile.tidy_of_settings? hspecial)
  obtain ⟨hsectioned, hleaf⟩ :=
    ((hbaseCovers.comp hspecialCovers).comp hvarsCover) .empty sectioned_empty
  refine ⟨_, ?_, hsectioned, fun l hl => ?_⟩
  · simp [loadSettings, hdirectory, hbase, hspecial, hlast, bind, Except.bind, pure, Except.pure]
  · rw [hleaf l hl, leaf?_empty, Option.or_none]
    rfl

/-- A configuration is loaded from layers as it is read from a single document that says of every leaf
what the topmost layer says that mentions it; where the document cannot be read, neither can the
layers. No layer takes away or sets back a leaf that it does not mention. -/
theorem load_as_single_document {origin : Option String} {single : List (String × Setting)}
    (hdirectory : files.isDirectory directory = true)
    (hbase : ConfigFile.settings? files directory .base = .ok (some base))
    (hspecial : ConfigFile.settings? files directory (.environment environment) = .ok special)
    (hbaseDocument : IsDocument base) (hspecialDocument : ∀ entries ∈ special, IsDocument entries)
    (hvars : Variable.OnePerLeaf vars) (hsingle : Sectioned (.table origin single))
    (hleaves : ∀ l ∈ RunnerConfig.leaves, (leaf? l (.table origin single)).map scalar? =
      (topmost vars special base l).map scalar?) :
    (∃ root, loadSettings files vars directory environment = .ok root ∧
      ∀ l, l.IsKnown → root.leaf? l = topmost vars special base l) ∧
    (∀ c, RunnerConfig.form.reading (.table origin single) = .ok c →
      loadConfig RunnerConfig.form.reading files vars directory environment = .ok c) ∧
    ∀ m, RunnerConfig.form.reading (.table origin single) = .error m →
      ∃ m', loadConfig RunnerConfig.form.reading files vars directory environment =
        .error (.misread m') := by
  obtain ⟨root, hload, hsectioned, hleaf⟩ :=
    loadSettings_of_layers hdirectory hbase hspecial hbaseDocument hspecialDocument hvars
  have hread : (RunnerConfig.form.reading root).toOption =
      (RunnerConfig.form.reading (.table origin single)).toOption :=
    RunnerConfig.reading_congr hsectioned hsingle fun l hl => by
      rw [hleaf l (RunnerConfig.isKnown_of_mem_leaves hl), hleaves l hl]
  refine ⟨⟨root, hload, hleaf⟩, fun c hc => ?_, fun m hm => ?_⟩
  · exact loadConfig_of_settings hload (by rw [hread, hc]; rfl)
  · exact loadConfig_misread hload (by rw [hread, hm]; rfl)

end Layers

/-- A document that says some numbers of a pipeline. -/
def pipelineNumbers (numbers : List (String × Nat)) : List (String × Json) :=
  [("distrib", .object (numbers.map fun e => (e.1, .nat e.2)))]

theorem scans_pipelineNumbers {numbers : List (String × Nat)}
    (h : ∀ e ∈ numbers, e.2 ≤ Number.maxWord) :
    Json.Scans Json.maxDepth (.object (pipelineNumbers numbers)) := by
  refine Json.scans_object (List.forall_mem_singleton.mpr (Json.scans_object fun m hm => ?_))
  obtain ⟨e, he, rfl⟩ := List.mem_map.mp hm
  exact Json.scans_nat (h e he)

theorem isDocument_pipelineNumbers (origin : String) {numbers : List (String × Nat)}
    (hnames : (numbers.map Prod.fst).Nodup) (hplain : ∀ e ∈ numbers, IsPlain e.1) :
    IsDocument ((pipelineNumbers numbers).map fun m => (m.1, ofJson origin m.2)) := by
  refine isDocument_of_known (List.forall_mem_singleton.mpr (.inl ⟨List.mem_cons_self, ?_⟩))
  refine section_ofJson (by simpa [Function.comp_def] using hnames) (fun m hm => ?_) fun m hm => ?_
  · obtain ⟨e, -, rfl⟩ := List.mem_map.mp hm
    exact isScalar_ofJson_nat origin e.2
  · obtain ⟨e, he, rfl⟩ := List.mem_map.mp hm
    exact hplain e he

/-- A file of the environment and a variable each replace one leaf of the base file, and the third one
stays. -/
theorem load_as_single_document_of_three :
    let base := pipelineNumbers [("want", 3), ("worker_count", 2), ("handoff_capacity", 7)]
    let special := pipelineNumbers [("want", 5)]
    let files := FileView.flat "configuration"
      [("base.json", some (Json.object base).compact.toByteArray.data.toList),
        ("dev.json", some (Json.object special).compact.toByteArray.data.toList)]
    let workers : Variable := ⟨"APP_DISTRIB__WORKER_COUNT", "4".toByteArray.data.toList⟩
    loadConfig RunnerConfig.form.reading files [workers] "configuration" .dev =
      .ok { pipeline := { want := 5, workerCount := 4, handoffCapacity := 7 } } := by
  intro base special files workers
  have hbaseFile : ConfigFile.base.IsJson files "configuration" (.object base) :=
    ConfigFile.isJson_flat rfl (by decide)
  have hspecialFile : (ConfigFile.environment .dev).IsJson files "configuration" (.object special) :=
    ConfigFile.isJson_flat rfl (by decide)
  have hkey : workers.key? = some (Leaf.key ⟨some "distrib", "worker_count"⟩) := by decide +kernel
  have hvars : Variable.OnePerLeaf [workers] :=
    Variable.onePerLeaf_singleton ⟨by decide, by decide⟩ hkey (Option.some_ne_none _)
  let single := pipelineNumbers [("want", 5), ("worker_count", 4), ("handoff_capacity", 7)]
  have hsingle : Sectioned (.table none (single.map fun m => (m.1, ofJson "" m.2))) :=
    (isDocument_pipelineNumbers "" (by decide) (by decide)).sectioned none
  refine (load_as_single_document (FileView.isDirectory_flat _)
    (ConfigFile.settings?_of_json hbaseFile (scans_pipelineNumbers (by decide)) (by decide))
    (ConfigFile.settings?_of_json hspecialFile (scans_pipelineNumbers (by decide)) (by decide))
    (isDocument_pipelineNumbers _ (by decide) (by decide))
    (fun _ h => Option.some.inj h ▸ isDocument_pipelineNumbers _ (by decide) (by decide))
    hvars hsingle fun l hl => ?_).2.1 _ ?_
  · rw [topmost, Variable.leaf?_singleton hkey]
    revert l
    simp only [RunnerConfig.leaves, PipelineConfig.fields, WorkloadConfig.fields, Field.of, List.map_cons,
      List.map_nil, List.cons_append, List.nil_append, List.forall_mem_cons]
    exact ⟨rfl, rfl, rfl, rfl, rfl, rfl, rfl, rfl, rfl, rfl, rfl, List.forall_mem_nil _⟩
  · rfl

end Fanout
