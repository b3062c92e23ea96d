import Fanout.Proofs.Config.Held
import Fanout.Proofs.Settings.Files
import Fanout.Proofs.Settings.Precedence

/-!
Configurations that are written and loaded. A directory in which the compact text of a configuration is
the only file is loaded as that configuration with its numbers as settings hold them
(`load_written`).
-/

namespace Fanout

open Setting

/-- A directory with one file in it. -/
structure FileView.HoldsOnly (files : FileView) (directory name : String) (bytes : List UInt8) :
    Prop where
  isDirectory : files.isDirectory directory = true
  file : files.file? (join directory name) = some (some bytes)
  others : ∀ other, other ≠ name → '/' ∉ other.toList → files.file? (join directory other) = none

theorem FileView.holdsOnly_flat (directory name : String) (bytes : List UInt8) :
    (flat directory [(name, some bytes)]).HoldsOnly directory name bytes where
  isDirectory := isDirectory_flat _
  file := by rw [file?_flat]; simp
  others := fun other hother _ => by rw [file?_flat]; simp [hother.symm]

namespace ConfigFile

variable {files : FileView} {directory : String} {v : Json}

/-- The name of a file under an extension is a name. -/
theorem fileName_spec (f : ConfigFile) : ∀ e ∈ extensions, '/' ∉ (f.stem ++ "." ++ e).toList ∧
    (f.stem ++ "." ++ e = "base.json" ↔ f = .base ∧ e = "json") := by
  rcases f with _ | (_ | _) <;> decide

theorem isJson_of_holdsOnly
    (h : files.HoldsOnly directory "base.json" v.compact.toByteArray.data.toList) :
    ConfigFile.base.IsJson files directory v where
  json := h.file
  others := by
    intro e he
    have hextension : e ∈ extensions := List.mem_of_mem_dropLast (l := extensions) he
    obtain ⟨hname, hsame⟩ := fileName_spec .base e hextension
    refine h.others _ (fun heq => ?_) hname
    cases (hsame.mp heq).2
    exact absurd he (by decide)

theorem isMissing_of_holdsOnly {bytes : List UInt8} (h : files.HoldsOnly directory "base.json" bytes)
    (e : Environment) : (ConfigFile.environment e).IsMissing files directory := by
  intro extension hextension
  obtain ⟨hname, hsame⟩ := fileName_spec (.environment e) extension hextension
  exact h.others _ (fun heq => absurd (hsame.mp heq).1 (by simp)) hname

end ConfigFile

theorem leaf?_table (l : Leaf) (origin origin' : Option String) (entries : List (String × Setting)) :
    leaf? l (.table origin entries) = leaf? l (.table origin' entries) := by
  obtain ⟨outer?, n⟩ := l
  cases outer? <;> rfl

/-! ### The settings of a written configuration -/

namespace Field

variable {C : Type}

/-- The value of a field is written as a scalar. -/
def IsLeaf (f : Field C) : Prop :=
  ∀ c origin, IsScalar (ofJson origin (f.json c))

theorem isLeaf_pipeline : ∀ f ∈ PipelineConfig.fields, f.IsLeaf := by
  simp only [PipelineConfig.fields, List.forall_mem_cons]
  exact ⟨fun _ _ => isScalar_ofJson_nat _ _, fun _ _ => isScalar_ofJson_nat _ _,
    fun _ _ => isScalar_ofJson_nat _ _, fun _ _ => isScalar_ofJson_string _ _,
    fun _ _ => isScalar_ofJson_bool _ _, fun _ _ => isScalar_ofJson_nat _ _,
    fun _ _ => isScalar_ofJson_nat _ _, List.forall_mem_nil _⟩

theorem isLeaf_workload : ∀ f ∈ WorkloadConfig.fields, f.IsLeaf := by
  simp only [WorkloadConfig.fields, List.forall_mem_cons]
  exact ⟨fun _ _ => isScalar_ofJson_nat _ _, fun _ _ => isScalar_ofJson_nat _ _,
    fun _ _ => isScalar_ofJson_nat _ _, List.forall_mem_nil _⟩

/-- What is written for a record of scalars is a flat table under the names of the fields. -/
theorem section_ofJson {fields : List (Field C)} (hnames : (fields.map Field.name).Nodup)
    (hleaf : ∀ f ∈ fields, f.IsLeaf) (hplain : ∀ f ∈ fields, IsPlain f.name) (origin : String) (c : C) :
    IsFlat (ofJson origin (.object (members fields c))) ∧
      ∀ l ∈ (ofJson origin (.object (members fields c))).inner, Text.lower l.1 = l.1 := by
  refine Setting.section_ofJson (by simpa [members, Function.comp_def] using hnames)
    (fun m hm => ?_) (fun m hm => ?_)
  · obtain ⟨f, hf, rfl⟩ := List.mem_map.mp hm
    exact hleaf f hf c origin
  · obtain ⟨f, hf, rfl⟩ := List.mem_map.mp hm
    exact hplain f hf

end Field

namespace RunnerConfig

/-- The entries of a written configuration. -/
def written (origin : String) (c : RunnerConfig) : List (String × Setting) :=
  (Field.members fields c).map fun m => (m.1, ofJson origin m.2)

theorem nodup_members (c : RunnerConfig) : ((Field.members fields c).map Prod.fst).Nodup := by
  have hnames : (fields.map Field.name).Nodup := by decide
  simpa [Field.members, Function.comp_def] using hnames

theorem ofJson_form (origin : String) (c : RunnerConfig) :
    ofJson origin (form.json c) = .table origin (written origin c) :=
  ofJson_object (nodup_members c)

theorem isScalar_address (origin : String) (a? : Option SocketAddress) :
    IsScalar (ofJson origin (SocketAddress.form.json a?)) := by
  cases a? with
  | none =>
    change IsScalar (ofJson origin .null)
    rw [ofJson]
    exact ⟨_, _, rfl⟩
  | some a => exact isScalar_ofJson_string origin a.display

/-- A written configuration is a document. -/
theorem isDocument_written (origin : String) (c : RunnerConfig) : IsDocument (written origin c) := by
  have hentries : written origin c = [("distrib", ofJson origin (PipelineConfig.form.json c.pipeline)),
      ("workload", ofJson origin (WorkloadConfig.form.json c.workload)),
      (addressName, ofJson origin (SocketAddress.form.json c.metricsAddress))] := rfl
  have hpipeline := Field.section_ofJson (by decide) Field.isLeaf_pipeline (by decide) origin c.pipeline
  have hworkload := Field.section_ofJson (by decide) Field.isLeaf_workload (by decide) origin c.workload
  refine isDocument_of_known ?_
  rw [hentries]
  simp only [List.forall_mem_cons]
  exact ⟨.inl ⟨by decide, hpipeline⟩, .inl ⟨by decide, hworkload⟩,
    .inr ⟨trivial, isScalar_address origin c.metricsAddress⟩, List.forall_mem_nil _⟩

variable {files : FileView} {vars : List Variable} {directory : String} {c : RunnerConfig}

/-- The settings of a file with a configuration. -/
theorem settings?_written (hc : c.InRange) (hfile : ConfigFile.base.IsJson files directory (form.json c)) :
    ∃ origin, ConfigFile.settings? files directory .base = .ok (some (written origin c)) := by
  have hscan : Json.Scans (125 + 2) (form.json c) := holds_form.scans hc
  exact ⟨_, ConfigFile.settings?_of_json hfile hscan (nodup_members c)⟩

/-- A file with a configuration and nothing else is loaded as the configuration with its numbers as they
are held. -/
theorem loadConfig_written (hc : c.InRange)
    (hfiles : files.HoldsOnly directory "base.json" (form.json c).compact.toByteArray.data.toList)
    (hvars : ∀ v ∈ vars, v.key? = none) (environment : Environment) :
    loadConfig form.reading files vars directory environment = .ok c.held := by
  obtain ⟨origin, hbase⟩ := settings?_written hc (ConfigFile.isJson_of_holdsOnly hfiles)
  have hspecial := ConfigFile.settings?_of_missing (ConfigFile.isMissing_of_holdsOnly hfiles environment)
  have hdocument := isDocument_written origin c
  obtain ⟨root, hload, hsectioned, hleaf⟩ := loadSettings_of_layers hfiles.isDirectory hbase hspecial
    hdocument (by simp) (Variable.onePerLeaf_of_none hvars)
  -- Nothing lies over the base file, so that the settings have its leaves.
  have hsame : ∀ l ∈ leaves, (root.leaf? l).map scalar? =
      (leaf? l (.table (some origin) (written origin c))).map scalar? := by
    intro l hl
    rw [hleaf l (isKnown_of_mem_leaves hl), topmost, Variable.leaf?_of_none hvars]
    exact congrArg (Option.map scalar?) (leaf?_table l none (some origin) _)
  have hheld : form.Holds (125 + 2) InRange held := holds_form
  refine loadConfig_of_settings hload ?_
  rw [reading_congr hsectioned (hdocument.sectioned _) hsame, ← ofJson_form, hheld.reads hc]
  rfl

end RunnerConfig

/-- The file of a configuration in a directory of its own. -/
def writtenFile (c : RunnerConfig) : FileView :=
  FileView.flat "configuration"
    [("base.json", some (RunnerConfig.form.json c).compact.toByteArray.data.toList)]

theorem holdsOnly_writtenFile (c : RunnerConfig) :
    (writtenFile c).HoldsOnly "configuration" "base.json"
      (RunnerConfig.form.json c).compact.toByteArray.data.toList :=
  FileView.holdsOnly_flat _ _ _

/-- Written and loaded again, a configuration that was read from any text has its numbers rounded: one
below `2 ^ 63` stays as it is, and from there on the nearest multiple of 2048 takes its place, but no more
than the largest word. It is loaded exactly as it was if this changes none of its numbers. -/
theorem load_written {text : String} {c : RunnerConfig}
    (hc : Json.Shape.parse RunnerConfig.form.shape text = .ok c) {files : FileView}
    {vars : List Variable} {directory : String}
    (hfiles : files.HoldsOnly directory "base.json"
      (RunnerConfig.form.json c).compact.toByteArray.data.toList)
    (hvars : ∀ v ∈ vars, v.key? = none) (environment : Environment) :
    loadConfig RunnerConfig.form.reading files vars directory environment = .ok c.held ∧
      (loadConfig RunnerConfig.form.reading files vars directory environment = .ok c ↔
        ∀ n ∈ c.numbers, n < 2 ^ 63 ∨ 2048 ∣ n ∨ n = Number.maxWord) := by
  have hrange : c.InRange := RunnerConfig.faithful_form.of_parse hc
  have hload := RunnerConfig.loadConfig_written hrange hfiles hvars environment
  refine ⟨hload, ?_⟩
  rw [hload, Except.ok.injEq]
  exact RunnerConfig.held_eq_self_iff hrange

/-- Half-way between two multiples of 2048 the even one is taken, and an address comes back as it was. -/
theorem load_written_of_half_way :
    let a : SocketAddress := .v6 [0xfe80, 0, 0, 0, 0, 0, 0, 1] 3 8080
    let c : RunnerConfig := { pipeline := { want := 2 ^ 63 + 3072 }, metricsAddress := some a }
    Json.Shape.parse RunnerConfig.form.shape (RunnerConfig.form.json c).compact = .ok c ∧
      loadConfig RunnerConfig.form.reading (writtenFile c) [] "configuration" .dev =
        .ok { c with pipeline := { want := 2 ^ 63 + 4096 } } := by
  intro a c
  have hrange : c.InRange :=
    ⟨by constructor <;> decide, by constructor <;> decide, by decide⟩
  have hparse := RunnerConfig.faithful_form.parse_compact hrange
  have hheld : c.held = { c with pipeline := { want := 2 ^ 63 + 4096 } } := by decide
  exact ⟨hparse, hheld ▸
    (load_written hparse (holdsOnly_writtenFile c) (List.forall_mem_nil _) .dev).1⟩

/-- A configuration that is read exactly from its text is loaded as another one from a file with this
text. -/
theorem loaded_as_another :
    let c : RunnerConfig := { pipeline := { want := 2 ^ 63 + 1 } }
    Json.Shape.parse RunnerConfig.form.shape (RunnerConfig.form.json c).compact = .ok c ∧
      (writtenFile c).HoldsOnly "configuration" "base.json"
        (RunnerConfig.form.json c).compact.toByteArray.data.toList ∧
      loadConfig RunnerConfig.form.reading (writtenFile c) [] "configuration" .dev =
        .ok { c with pipeline := { want := 2 ^ 63 } } ∧
      loadConfig RunnerConfig.form.reading (writtenFile c) [] "configuration" .dev ≠ .ok c := by
  intro c
  have hrange : c.InRange :=
    ⟨by constructor <;> decide, by constructor <;> decide, by decide⟩
  have hload := RunnerConfig.loadConfig_written hrange (holdsOnly_writtenFile c)
    (List.forall_mem_nil _) .dev
  have hheld : c.held = { c with pipeline := { want := 2 ^ 63 } } := by decide
  rw [hheld] at hload
  refine ⟨RunnerConfig.faithful_form.parse_compact hrange, holdsOnly_writtenFile c, hload, ?_⟩
  rw [hload]
  decide

end Fanout
