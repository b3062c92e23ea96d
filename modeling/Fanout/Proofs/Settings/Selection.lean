import Fanout.Config.Forms
import Fanout.Proofs.Settings.Files

/-!
Which files a configuration is loaded from, and which one is blamed. Of the files of a directory only the
first one that exists for the base and the first one for the environment are looked into; what else is in
the tree says nothing, and a fault is reported with the file that has it before any variable is heard
(`load_blames_selected_file`).
-/

namespace Fanout

namespace ConfigFile

variable {files files' : FileView} {directory path : String} {f : ConfigFile} {content : Option (List UInt8)}

/-! ### The file that is selected -/

/-- A path at which a file is looked for: there is none under an extension that is tried earlier. -/
def IsTried (files : FileView) (directory : String) (f : ConfigFile) (path : String) : Prop :=
  ∃ before e after, extensions = before ++ e :: after ∧ path = f.path directory e ∧
    ∀ earlier ∈ before, files.file? (f.path directory earlier) = none

/-- The first file that there is, with what it holds. -/
def IsSelected (files : FileView) (directory : String) (f : ConfigFile) (path : String)
    (content : Option (List UInt8)) : Prop :=
  f.IsTried files directory path ∧ files.file? path = some content

theorem find?_eq (files : FileView) (directory : String) (f : ConfigFile) :
    f.find? files directory = extensions.findSome? fun e =>
      (files.file? (f.path directory e)).map fun content => (f.path directory e, content) := by
  rw [find?, paths, List.findSome?_map]
  rfl

theorem find?_eq_some_iff :
    f.find? files directory = some (path, content) ↔ f.IsSelected files directory path content := by
  rw [find?_eq, List.findSome?_eq_some_iff]
  constructor
  · rintro ⟨before, e, after, hsplit, hfile, hearlier⟩
    obtain ⟨content, hread, heq⟩ := Option.map_eq_some_iff.mp hfile
    cases heq
    exact ⟨⟨before, e, after, hsplit, rfl, fun e' he' => Option.map_eq_none_iff.mp (hearlier e' he')⟩, hread⟩
  · rintro ⟨⟨before, e, after, hsplit, rfl, hearlier⟩, hread⟩
    exact ⟨before, e, after, hsplit, by rw [hread]; rfl,
      fun e' he' => Option.map_eq_none_iff.mpr (hearlier e' he')⟩

theorem find?_eq_none_iff : f.find? files directory = none ↔ f.IsMissing files directory := by
  rw [find?_eq, List.findSome?_eq_none_iff]
  exact forall₂_congr fun e _ => Option.map_eq_none_iff

theorem IsSelected.unique {path' : String} {content' : Option (List UInt8)}
    (h : f.IsSelected files directory path content) (h' : f.IsSelected files directory path' content') :
    path' = path ∧ content' = content := by
  have hfound : some (path', content') = some (path, content) :=
    (find?_eq_some_iff.mpr h').symm.trans (find?_eq_some_iff.mpr h)
  cases hfound
  exact ⟨rfl, rfl⟩

/-- Files that have the same file selected have the same one found. -/
theorem find?_of_selected
    (h : ∀ path content,
      f.IsSelected files' directory path content ↔ f.IsSelected files directory path content) :
    f.find? files' directory = f.find? files directory := by
  refine Option.ext fun found => ?_
  obtain ⟨path, content⟩ := found
  rw [find?_eq_some_iff, find?_eq_some_iff, h]

/-- What changes nothing at the paths that are tried does not change what is found. -/
theorem find?_congr (h : ∀ p, f.IsTried files directory p → files'.file? p = files.file? p) :
    f.find? files' directory = f.find? files directory := by
  cases hfind : f.find? files directory with
  | none =>
    have hmissing := find?_eq_none_iff.mp hfind
    refine find?_eq_none_iff.mpr fun e he => ?_
    obtain ⟨before, after, hsplit⟩ := List.append_of_mem he
    have htried : f.IsTried files directory (f.path directory e) :=
      ⟨before, e, after, hsplit, rfl,
        fun e' he' => hmissing e' (by rw [hsplit]; exact List.mem_append_left _ he')⟩
    rw [h _ htried]
    exact hmissing e he
  | some found =>
    obtain ⟨path, content⟩ := found
    obtain ⟨⟨before, e, after, hsplit, hpath, hearlier⟩, hread⟩ := find?_eq_some_iff.mp hfind
    refine find?_eq_some_iff.mpr ⟨⟨before, e, after, hsplit, hpath, fun e' he' => ?_⟩, ?_⟩
    · obtain ⟨front, back, hbefore⟩ := List.append_of_mem he'
      have htried : f.IsTried files directory (f.path directory e') :=
        ⟨front, e', back ++ e :: after, by rw [hsplit, hbefore]; simp, rfl,
          fun e'' he'' => hearlier e'' (by rw [hbefore]; exact List.mem_append_left _ he'')⟩
      rw [h _ htried]
      exact hearlier e' he'
    · rw [h path ⟨before, e, after, hsplit, hpath, hearlier⟩]
      exact hread

/-! ### Faults of a file -/

/-- What is wrong with a file: it has no bytes to be read, or they are no text, or the text is none that
has settings. In JSON that is the text of an object, in YAML one of at most one document, a mapping with
values that can be read. -/
def HasFault (path : String) (content : Option (List UInt8)) : FileFault → Prop
  | .unreadable => ∀ bytes, content = some bytes → Text.ofUtf8? bytes = none
  | .malformed origin => origin = FileView.normal path ∧ ∃ bytes text, content = some bytes ∧
      Text.ofUtf8? bytes = some text ∧
      if path.endsWith ".json" then ∀ members, Json.parse? text.toList ≠ some (.object members)
      else ∀ documents, Yaml.Node.documents? text = some documents → documents ≠ [] ∧
        ∀ n, documents = [n] → (Setting.ofNode origin n).bind Setting.tableEntries = .error .malformed

theorem ofJsonText_eq_malformed_iff (origin text : String) :
    Setting.ofJsonText origin text = .error .malformed ↔
      ∀ members, Json.parse? text.toList ≠ some (.object members) := by
  unfold Setting.ofJsonText
  cases Json.parse? text.toList with
  | none => simp
  | some v => cases v <;> simp [Setting.ofJson, Setting.tableEntries]

theorem ofYamlText_eq_malformed_iff (origin text : String) :
    Setting.ofYamlText origin text = .error .malformed ↔
      ∀ documents, Yaml.Node.documents? text = some documents → documents ≠ [] ∧
        ∀ n, documents = [n] → (Setting.ofNode origin n).bind Setting.tableEntries = .error .malformed := by
  unfold Setting.ofYamlText
  rcases Yaml.Node.documents? text with _ | (_ | ⟨n, _ | ⟨m, rest⟩⟩) <;> simp

theorem settings_eq_fault_iff {fault : FileFault} :
    f.settings path content = .error (.fileFault f path fault) ↔ HasFault path content fault := by
  unfold settings
  rcases content with _ | bytes
  · cases fault <;> simp [HasFault]
  rw [Option.bind_some]
  cases htext : Text.ofUtf8? bytes with
  | none => cases fault <;> simp [HasFault, htext]
  | some text =>
    dsimp only
    generalize hentries : (if path.endsWith ".json" then Setting.ofJsonText (FileView.normal path) text
      else Setting.ofYamlText (FileView.normal path) text) = entries
    cases fault with
    | unreadable => rcases entries with (_ | _) | _ <;> simp [HasFault, htext]
    | malformed origin =>
      have hfault : HasFault path (some bytes) (.malformed origin) ↔
          FileView.normal path = origin ∧ entries = .error .malformed := by
        simp only [HasFault, htext, Option.some.injEq, exists_and_left, exists_eq_left', ← hentries,
          ← ofJsonText_eq_malformed_iff origin, ← ofYamlText_eq_malformed_iff]
        constructor
        · rintro ⟨rfl, h⟩
          exact ⟨rfl, by split_ifs at h ⊢ <;> exact h⟩
        · rintro ⟨rfl, h⟩
          exact ⟨rfl, by split_ifs at h ⊢ <;> exact h⟩
      rw [hfault]
      rcases entries with (_ | _) | _ <;> simp

/-- A file whose settings cannot be had has a fault, or a key that is not supported. -/
theorem of_settings_eq_error {e : LoadError} (h : f.settings path content = .error e) :
    e = .unsupportedKey ∨ ∃ fault, e = .fileFault f path fault ∧ HasFault path content fault := by
  have hkind : e = .unsupportedKey ∨ ∃ fault, e = .fileFault f path fault := by
    unfold settings at h
    split at h
    · cases h
      exact .inr ⟨_, rfl⟩
    · dsimp only at h
      split at h
      · cases h
      · cases h
        exact .inr ⟨_, rfl⟩
      · cases h
        exact .inl rfl
  refine hkind.imp_right ?_
  rintro ⟨fault, rfl⟩
  exact ⟨fault, rfl, settings_eq_fault_iff.mp h⟩

theorem settings?_of_selected (h : f.IsSelected files directory path content) :
    f.settings? files directory = (f.settings path content).map some := by
  rw [settings?, find?_eq_some_iff.mpr h]

end ConfigFile

/-! ### Layers of files -/

/-- The settings of the base file, and of the file for the environment where there is one. -/
def fileLayers (files : FileView) (directory : String) (environment : Environment) :
    Except LoadError (List (String × Setting) × Option (List (String × Setting))) :=
  if files.isDirectory directory then
    (ConfigFile.settings? files directory .base).bind fun
      | none => .error (.missingFile .base directory)
      | some base =>
        (ConfigFile.settings? files directory (.environment environment)).map fun special => (base, special)
  else .error (.missingDirectory directory)

/-- The failures that files are the reason for. -/
def LoadError.IsOfFiles : LoadError → Prop
  | .variableFault _ | .misread _ => False
  | _ => True

section Layers

variable {α : Type} {reading : Reading α} {files : FileView} {vars : List Variable} {directory : String}
  {environment : Environment} {path : String} {content : Option (List UInt8)}

/-- Variables are heard after the files. -/
theorem loadSettings_eq (files : FileView) (vars : List Variable) (directory : String)
    (environment : Environment) :
    loadSettings files vars directory environment =
      (fileLayers files directory environment).bind fun layers =>
        match Variable.settings vars with
        | .error message => .error (.variableFault message)
        | .ok last => .ok (Setting.layer last
            (Setting.layer (layers.2.getD []) (Setting.layer layers.1 .empty))) := by
  unfold loadSettings fileLayers
  cases files.isDirectory directory with
  | false => rfl
  | true =>
    rcases ConfigFile.settings? files directory .base with e | (_ | base)
    · rfl
    · rfl
    · cases ConfigFile.settings? files directory (.environment environment) <;> rfl

theorem loadConfig_eq_error_iff {e : LoadError} (he : e.IsOfFiles) :
    loadConfig reading files vars directory environment = .error e ↔
      fileLayers files directory environment = .error e := by
  rw [loadConfig, loadSettings_eq]
  cases fileLayers files directory environment with
  | error e' => simp [bind, Except.bind]
  | ok layers =>
    -- What goes wrong after the files is about a variable or about a value.
    have hvariable : ∀ message, LoadError.variableFault message ≠ e := by
      rintro message rfl
      exact he
    have hreading : ∀ reason, LoadError.misread reason ≠ e := by
      rintro reason rfl
      exact he
    cases Variable.settings vars with
    | error message => simp [bind, Except.bind, hvariable]
    | ok last =>
      simp only [bind, Except.bind, reduceCtorEq, iff_false]
      split
      · simp [pure, Except.pure]
      · simp [hreading]

/-- Why the files of a directory give no settings. A reason that comes earlier goes before the later
ones. -/
inductive FileFailure (files : FileView) (directory : String) (environment : Environment) :
    LoadError → Prop
  | noDirectory (hdirectory : files.isDirectory directory = false) :
    FileFailure files directory environment (.missingDirectory directory)
  | noBase (hdirectory : files.isDirectory directory = true)
    (hmissing : ConfigFile.base.IsMissing files directory) :
    FileFailure files directory environment (.missingFile .base directory)
  | base {path : String} {content : Option (List UInt8)} {e : LoadError}
    (hdirectory : files.isDirectory directory = true)
    (hselected : ConfigFile.base.IsSelected files directory path content)
    (hsettings : ConfigFile.base.settings path content = .error e) :
    FileFailure files directory environment e
  | environment {path path' : String} {content content' : Option (List UInt8)}
    {base : List (String × Setting)} {e : LoadError}
    (hdirectory : files.isDirectory directory = true)
    (hselected : ConfigFile.base.IsSelected files directory path content)
    (hsettings : ConfigFile.base.settings path content = .ok base)
    (hselected' : (ConfigFile.environment environment).IsSelected files directory path' content')
    (hsettings' : (ConfigFile.environment environment).settings path' content' = .error e) :
    FileFailure files directory environment e

theorem missing_or_selected (files : FileView) (directory : String) (f : ConfigFile) :
    f.IsMissing files directory ∨ ∃ path content, f.IsSelected files directory path content := by
  cases hfind : f.find? files directory with
  | none => exact .inl (ConfigFile.find?_eq_none_iff.mp hfind)
  | some found => exact .inr ⟨found.1, found.2, ConfigFile.find?_eq_some_iff.mp hfind⟩

theorem FileFailure.of_fileLayers {e : LoadError}
    (h : fileLayers files directory environment = .error e) :
    FileFailure files directory environment e := by
  unfold fileLayers at h
  split_ifs at h with hdirectory
  · rcases missing_or_selected files directory .base with hmissing | ⟨path, content, hselected⟩
    · rw [ConfigFile.settings?_of_missing hmissing] at h
      cases h
      exact .noBase hdirectory hmissing
    · rw [ConfigFile.settings?_of_selected hselected] at h
      cases hsettings : ConfigFile.base.settings path content with
      | error e' =>
        rw [hsettings] at h
        cases h
        exact .base hdirectory hselected hsettings
      | ok base =>
        rw [hsettings] at h
        rcases missing_or_selected files directory (.environment environment) with
          hmissing' | ⟨path', content', hselected'⟩
        · rw [ConfigFile.settings?_of_missing hmissing'] at h
          cases h
        · rw [ConfigFile.settings?_of_selected hselected'] at h
          cases hsettings' : (ConfigFile.environment environment).settings path' content' with
          | error e' =>
            rw [hsettings'] at h
            cases h
            exact .environment hdirectory hselected hsettings hselected' hsettings'
          | ok special =>
            rw [hsettings'] at h
            cases h
  · cases h
    exact .noDirectory (by simpa using hdirectory)

theorem FileFailure.fileLayers {e : LoadError} (h : FileFailure files directory environment e) :
    Fanout.fileLayers files directory environment = .error e := by
  unfold Fanout.fileLayers
  cases h with
  | noDirectory hdirectory => simp [hdirectory]
  | noBase hdirectory hmissing =>
    rw [if_pos hdirectory, ConfigFile.settings?_of_missing hmissing]
    rfl
  | base hdirectory hselected hsettings =>
    rw [if_pos hdirectory, ConfigFile.settings?_of_selected hselected, hsettings]
    rfl
  | environment hdirectory hselected hsettings hselected' hsettings' =>
    rw [if_pos hdirectory, ConfigFile.settings?_of_selected hselected, hsettings,
      ConfigFile.settings?_of_selected hselected', hsettings']
    rfl

theorem fileLayers_eq_error_iff {e : LoadError} :
    fileLayers files directory environment = .error e ↔ FileFailure files directory environment e :=
  ⟨FileFailure.of_fileLayers, FileFailure.fileLayers⟩

/-- The file in a failure is the one whose settings cannot be had. -/
theorem ConfigFile.fault_of_settings {f g : ConfigFile} {path' : String} {fault : FileFault}
    (h : g.settings path content = .error (.fileFault f path' fault)) :
    f = g ∧ path' = path ∧ HasFault path content fault := by
  rcases of_settings_eq_error h with hkey | ⟨fault', hfault, hhas⟩
  · cases hkey
  · cases hfault
    exact ⟨rfl, rfl, hhas⟩

theorem noDirectory_iff :
    FileFailure files directory environment (.missingDirectory directory) ↔
      files.isDirectory directory = false := by
  constructor
  · intro h
    cases h with
    | noDirectory hdirectory => exact hdirectory
    | base _ _ hsettings | environment _ _ _ _ hsettings =>
      rcases ConfigFile.of_settings_eq_error hsettings with h | ⟨_, h, -⟩ <;> cases h
  · exact .noDirectory

theorem noBase_iff (hdirectory : files.isDirectory directory = true) :
    FileFailure files directory environment (.missingFile .base directory) ↔
      ConfigFile.base.IsMissing files directory := by
  constructor
  · intro h
    cases h with
    | noBase _ hmissing => exact hmissing
    | base _ _ hsettings | environment _ _ _ _ hsettings =>
      rcases ConfigFile.of_settings_eq_error hsettings with h | ⟨_, h, -⟩ <;> cases h
  · exact .noBase hdirectory

/-- The base file is blamed for its faults, whatever the file for the environment holds. -/
theorem baseFault_iff (hdirectory : files.isDirectory directory = true)
    (hselected : ConfigFile.base.IsSelected files directory path content) (fault : FileFault) :
    FileFailure files directory environment (.fileFault .base path fault) ↔
      ConfigFile.HasFault path content fault := by
  constructor
  · intro h
    cases h with
    | base _ hother hsettings =>
      obtain ⟨rfl, rfl⟩ := hselected.unique hother
      exact (ConfigFile.fault_of_settings hsettings).2.2
    | environment _ _ _ _ hsettings' => cases (ConfigFile.fault_of_settings hsettings').1
  · intro h
    exact .base hdirectory hselected (ConfigFile.settings_eq_fault_iff.mpr h)

/-- Where the base file has settings the other file is blamed for its own faults. -/
theorem environmentFault_iff (hdirectory : files.isDirectory directory = true)
    (hselected : ConfigFile.base.IsSelected files directory path content) {base : List (String × Setting)}
    (hsettings : ConfigFile.base.settings path content = .ok base)
    {path' : String} {content' : Option (List UInt8)}
    (hselected' : (ConfigFile.environment environment).IsSelected files directory path' content')
    (fault : FileFault) :
    FileFailure files directory environment (.fileFault (.environment environment) path' fault) ↔
      ConfigFile.HasFault path' content' fault := by
  constructor
  · intro h
    cases h with
    | base _ _ hsettings => cases (ConfigFile.fault_of_settings hsettings).1
    | environment _ _ _ hother hsettings' =>
      obtain ⟨rfl, rfl⟩ := hselected'.unique hother
      exact (ConfigFile.fault_of_settings hsettings').2.2
  · intro h
    exact .environment hdirectory hselected hsettings hselected' (ConfigFile.settings_eq_fault_iff.mpr h)

/-- A failure of the files names one of those that are looked into, or none. -/
theorem FileFailure.named {e : LoadError} (h : FileFailure files directory environment e) :
    e = .missingDirectory directory ∨ e = .missingFile .base directory ∨ e = .unsupportedKey ∨
      ∃ f ∈ [ConfigFile.base, .environment environment], ∃ path content fault,
        f.IsSelected files directory path content ∧ e = .fileFault f path fault := by
  cases h with
  | noDirectory => exact .inl rfl
  | noBase => exact .inr (.inl rfl)
  | base _ hselected hsettings =>
    rcases ConfigFile.of_settings_eq_error hsettings with rfl | ⟨fault, rfl, -⟩
    · exact .inr (.inr (.inl rfl))
    · exact .inr (.inr (.inr ⟨_, by simp, _, _, fault, hselected, rfl⟩))
  | environment _ _ _ hselected' hsettings' =>
    rcases ConfigFile.of_settings_eq_error hsettings' with rfl | ⟨fault, rfl, -⟩
    · exact .inr (.inr (.inl rfl))
    · exact .inr (.inr (.inr ⟨_, by simp, _, _, fault, hselected', rfl⟩))

/-- The layers are those of the files that are found. -/
theorem fileLayers_congr {files' : FileView}
    (hdirectory : files'.isDirectory directory = files.isDirectory directory)
    (hfind : ∀ f ∈ [ConfigFile.base, .environment environment],
      f.find? files' directory = f.find? files directory) :
    fileLayers files' directory environment = fileLayers files directory environment := by
  have hsettings : ∀ f ∈ [ConfigFile.base, .environment environment],
      f.settings? files' directory = f.settings? files directory := by
    intro f hf
    rw [ConfigFile.settings?, ConfigFile.settings?, hfind f hf]
  rw [fileLayers, fileLayers, hdirectory, hsettings .base (by simp),
    hsettings (.environment environment) (by simp)]

theorem loadConfig_congr {files' : FileView}
    (h : fileLayers files' directory environment = fileLayers files directory environment) :
    loadConfig reading files' vars directory environment =
      loadConfig reading files vars directory environment := by
  rw [loadConfig, loadConfig, loadSettings_eq, loadSettings_eq, h]

end Layers

/-! ### Trees that get another file -/

namespace FileTree

variable {t : FileTree} {names : List String} {content : Option (List UInt8)}

/-- Writes a file, which need not be one that can be read; one that was there is replaced. -/
def write (names : List String) (content : Option (List UInt8)) (t : FileTree) : FileTree :=
  { t with files := (names, content) :: t.files }

theorem isDirectoryAt_prefix {inner outer : List String} (h : t.isDirectoryAt inner = true)
    (hfront : outer <+: inner) : t.isDirectoryAt outer = true := by
  simp only [isDirectoryAt, Bool.or_eq_true, decide_eq_true_eq, List.any_eq_true,
    List.isPrefixOf_iff_prefix, Bool.and_eq_true] at h ⊢
  rcases h with (rfl | ⟨d, hd, hinner⟩) | ⟨file, hfile, hinner, hlength⟩
  · exact .inl (.inl (List.prefix_nil.mp hfront))
  · exact .inl (.inr ⟨d, hd, hfront.trans hinner⟩)
  · exact .inr ⟨file, hfile, hfront.trans hinner, Nat.lt_of_le_of_lt hfront.length_le hlength⟩

/-- A file that is written into a directory makes no other directory. -/
theorem isDirectoryAt_write (hparent : t.isDirectoryAt names.dropLast = true) (other : List String) :
    (t.write names content).isDirectoryAt other = t.isDirectoryAt other := by
  have hsplit : (t.write names content).isDirectoryAt other =
      (t.isDirectoryAt other || (other.isPrefixOf names && other.length < names.length)) := by
    simp only [isDirectoryAt, write, List.any_cons]
    ac_rfl
  rw [hsplit, Bool.or_eq_left_iff_imp]
  simp only [Bool.and_eq_true, List.isPrefixOf_iff_prefix, decide_eq_true_eq]
  rintro ⟨hfront, hlength⟩
  refine isDirectoryAt_prefix hparent
    (List.prefix_of_prefix_length_le hfront (List.dropLast_prefix names) ?_)
  rw [List.length_dropLast]
  omega

theorem resolve_write (hparent : t.isDirectoryAt names.dropLast = true) (path : String) :
    (t.write names content).resolve path = t.resolve path := by
  have hstep : (t.write names content).step = t.step := by
    funext place name
    rcases place with _ | (at_ | n)
    · rfl
    · simp only [step, isDirectoryAt_write hparent]
    · rfl
  unfold resolve
  rw [hstep]

theorem isDirectory_write (hparent : t.isDirectoryAt names.dropLast = true) (path : String) :
    (t.write names content).view.isDirectory path = t.view.isDirectory path := by
  change (t.write names content).isDirectory path = t.isDirectory path
  rw [isDirectory, isDirectory, resolve_write hparent]
  split
  · exact isDirectoryAt_write hparent _
  · rfl
  · rfl

/-- Other paths lead to the files that they led to. -/
theorem file?_write (hparent : t.isDirectoryAt names.dropLast = true) {path : String}
    (hpath : t.resolve path ≠ some (.within names)) :
    (t.write names content).view.file? path = t.view.file? path := by
  change (t.write names content).file? path = t.file? path
  rw [file?, file?, resolve_write hparent]
  split_ifs
  · rfl
  · split
    next other hother =>
      have hne : (names == other) = false := beq_eq_false_iff_ne.mpr fun h => hpath (h ▸ hother)
      rw [write, List.find?_cons_of_neg (by simp [hne])]
    next => rfl

end FileTree

/-- The files of a tree that are looked into are a first base file and a first file for the environment;
another tree in which these are the same, be it that other files were changed or that some were added
behind them, is loaded alike, and so is a tree to which a file is written that is at none of the paths
that are tried. Loading fails for want of the directory, or else of a base file, or else because the base
file cannot be read or is malformed, whatever the other one holds, or else because the file for the
environment is so; it names the file with the fault, and does so for all variables. -/
theorem load_blames_selected_file {α : Type} (reading : Reading α) (files : FileView)
    (vars : List Variable) (directory : String) (environment : Environment) :
    let load (files : FileView) (vars : List Variable) :=
      loadConfig reading files vars directory environment
    let looksFor : List ConfigFile := [.base, .environment environment]
    (∀ files' : FileView, files'.isDirectory directory = files.isDirectory directory →
      (∀ f ∈ looksFor, ∀ path content,
        f.IsSelected files' directory path content ↔ f.IsSelected files directory path content) →
      load files' vars = load files vars) ∧
    (∀ files' : FileView, files'.isDirectory directory = files.isDirectory directory →
      (∀ f ∈ looksFor, ∀ path, f.IsTried files directory path → files'.file? path = files.file? path) →
      load files' vars = load files vars) ∧
    (∀ (t : FileTree) (names : List String) (content : Option (List UInt8)), files = t.view →
      t.isDirectoryAt names.dropLast = true →
      (∀ f ∈ looksFor, ∀ path, f.IsTried files directory path → t.resolve path ≠ some (.within names)) →
      load (t.write names content).view vars = load files vars) ∧
    (load files vars = .error (.missingDirectory directory) ↔ files.isDirectory directory = false) ∧
    (files.isDirectory directory = true →
      (load files vars = .error (.missingFile .base directory) ↔
        ConfigFile.base.IsMissing files directory) ∧
      ∀ path content, ConfigFile.base.IsSelected files directory path content →
        (∀ fault, load files vars = .error (.fileFault .base path fault) ↔
          ConfigFile.HasFault path content fault) ∧
        ∀ base, ConfigFile.base.settings path content = .ok base → ∀ path' content',
          (ConfigFile.environment environment).IsSelected files directory path' content' → ∀ fault,
            load files vars = .error (.fileFault (.environment environment) path' fault) ↔
              ConfigFile.HasFault path' content' fault) ∧
    ∀ e, e.IsOfFiles → load files vars = .error e →
      (∀ vars', load files vars' = .error e) ∧
      (e = .missingDirectory directory ∨ e = .missingFile .base directory ∨ e = .unsupportedKey ∨
        ∃ f ∈ looksFor, ∃ path content fault, f.IsSelected files directory path content ∧
          e = .fileFault f path fault) := by
  intro load looksFor
  have hfails : ∀ {e : LoadError}, e.IsOfFiles → ∀ vars,
      load files vars = .error e ↔ FileFailure files directory environment e :=
    fun he vars => (loadConfig_eq_error_iff he).trans fileLayers_eq_error_iff
  have hsame : ∀ files' : FileView, files'.isDirectory directory = files.isDirectory directory →
      (∀ f ∈ looksFor, ∀ path, f.IsTried files directory path → files'.file? path = files.file? path) →
      load files' vars = load files vars :=
    fun files' hdirectory hread => loadConfig_congr (fileLayers_congr hdirectory fun f hf =>
      ConfigFile.find?_congr (hread f hf))
  refine ⟨fun files' hdirectory hselected => ?_, hsame, ?_, ?_, fun hdirectory => ⟨?_, ?_⟩, ?_⟩
  · exact loadConfig_congr (fileLayers_congr hdirectory fun f hf =>
      ConfigFile.find?_of_selected (hselected f hf))
  · rintro t names content rfl hparent hpaths
    exact hsame _ (FileTree.isDirectory_write hparent directory) fun f hf path htried =>
      FileTree.file?_write hparent (hpaths f hf path htried)
  · rw [hfails (e := .missingDirectory directory) trivial vars, noDirectory_iff]
  · rw [hfails (e := .missingFile .base directory) trivial vars, noBase_iff hdirectory]
  · intro path content hselected
    refine ⟨fun fault => ?_, fun base hsettings path' content' hselected' fault => ?_⟩
    · rw [hfails (e := .fileFault .base path fault) trivial vars, baseFault_iff hdirectory hselected]
    · rw [hfails (e := .fileFault (.environment environment) path' fault) trivial vars,
        environmentFault_iff hdirectory hselected hsettings hselected']
  · intro e he h
    have hfailure := (hfails he vars).mp h
    exact ⟨fun vars' => (hfails he vars').mpr hfailure, hfailure.named⟩

/-- A directory with a base file that says nothing, one that is shadowed by it, and a file for `prod` that is
not closed. -/
def shadowingFiles (shadowed : String) : FileView :=
  FileView.flat "configuration"
    [("base.yml", some []), ("base.json", some shadowed.toByteArray.data.toList),
      ("prod.json", some "[".toByteArray.data.toList)]

/-- A file in YAML without a document has no settings. -/
theorem settings_of_silent (f : ConfigFile) {path : String} (hyaml : path.endsWith ".json" = false) :
    f.settings path (some []) = .ok [] := by
  have htext : Text.ofUtf8? [] = some "" := rfl
  have hdocuments : Yaml.Node.documents? "" = some [] := rfl
  have hentries : Setting.ofYamlText (FileView.normal path) "" = .ok [] := by
    unfold Setting.ofYamlText
    simp only [hdocuments]
  simp only [ConfigFile.settings, Option.bind_some, htext, hyaml, hentries, Bool.false_eq_true, if_false]

theorem find?_base_shadowing (shadowed : String) :
    ConfigFile.base.find? (shadowingFiles shadowed) "configuration" =
      some (ConfigFile.base.path "configuration" "yml", some []) :=
  ConfigFile.find?_eq_some_iff.mpr
    ⟨⟨["yaml"], "yml", ["json"], rfl, rfl, List.forall_mem_singleton.mpr (FileView.file?_flat _)⟩,
      FileView.file?_flat _⟩

theorem find?_environment_shadowing (shadowed : String) (e : Environment) :
    (ConfigFile.environment e).find? (shadowingFiles shadowed) "configuration" =
      match e with
      | .dev => none
      | .prod =>
        some ((ConfigFile.environment .prod).path "configuration" "json",
          some "[".toByteArray.data.toList) := by
  simp only [ConfigFile.find?_eq, ConfigFile.extensions, ConfigFile.path, shadowingFiles,
    FileView.file?_flat]
  cases e <;> rfl

/-- A shadowed file may be malformed and makes no difference, while the file for the environment is blamed
for being malformed, whatever a variable says. A base file that is there and cannot be read is blamed, and
not passed over for a good one that it shadows. -/
theorem load_blames_selected_file_of_shadowed :
    let load (files : FileView) (vars : List Variable) (environment : Environment) :=
      loadConfig RunnerConfig.form.reading files vars "configuration" environment
    let blamed := (ConfigFile.environment .prod).path "configuration" "json"
    let fault : LoadError :=
      .fileFault (.environment .prod) blamed (.malformed (FileView.normal blamed))
    let want : Variable := ⟨"APP_DISTRIB__WANT", "3".toByteArray.data.toList⟩
    let locked := FileView.flat "configuration"
      [("base.yaml", none), ("base.json", some "\x7b\x7d".toByteArray.data.toList)]
    load (shadowingFiles "\x7d") [want] .dev = load (shadowingFiles "") [want] .dev ∧
      load (shadowingFiles "\x7d") [want] .prod = .error fault ∧
      load (shadowingFiles "\x7d") [] .prod = .error fault ∧
      load locked [want] .prod =
        .error (.fileFault .base (ConfigFile.base.path "configuration" "yaml") .unreadable) := by
  intro load blamed fault want locked
  have hsame : load (shadowingFiles "\x7d") [want] .dev = load (shadowingFiles "") [want] .dev := by
    refine (load_blames_selected_file RunnerConfig.form.reading (shadowingFiles "") [want]
      "configuration" .dev).1 (shadowingFiles "\x7d") rfl fun f hf path content => ?_
    rw [← ConfigFile.find?_eq_some_iff, ← ConfigFile.find?_eq_some_iff]
    rcases List.mem_cons.mp hf with rfl | hf
    · rw [find?_base_shadowing, find?_base_shadowing]
    · rw [List.mem_singleton.mp hf, find?_environment_shadowing, find?_environment_shadowing]
  obtain ⟨-, -, -, -, hblames, hnamed⟩ := load_blames_selected_file RunnerConfig.form.reading
    (shadowingFiles "\x7d") [want] "configuration" .prod
  have hyaml : (ConfigFile.base.path "configuration" "yml").endsWith ".json" = false := by decide +kernel
  have hbase := settings_of_silent .base hyaml
  have hjson : blamed.endsWith ".json" = true :=
    FileView.endsWith_join "configuration" (ConfigFile.environment .prod).stem "json"
  have hfault : load (shadowingFiles "\x7d") [want] .prod = .error fault := by
    refine ((hblames (FileView.isDirectory_flat _)).2 _ _
      (ConfigFile.find?_eq_some_iff.mp (find?_base_shadowing _)) |>.2 _ hbase _ _
      (ConfigFile.find?_eq_some_iff.mp (find?_environment_shadowing _ .prod)) _).mpr ?_
    refine ⟨rfl, _, "[", rfl, Text.ofUtf8?_toByteArray "[", ?_⟩
    rw [if_pos hjson]
    intro members hmembers
    cases hmembers
  -- The first extension that is tried has a file, and no bytes come with it.
  have hlocked : ConfigFile.base.IsSelected locked "configuration"
      (ConfigFile.base.path "configuration" "yaml") none :=
    ⟨⟨[], "yaml", ["yml", "json"], rfl, rfl, List.forall_mem_nil _⟩, FileView.file?_flat _⟩
  obtain ⟨-, -, -, -, hblames', -⟩ := load_blames_selected_file RunnerConfig.form.reading locked
    [want] "configuration" .prod
  have hunreadable := ((hblames' (FileView.isDirectory_flat _)).2 _ _ hlocked).1 .unreadable
  exact ⟨hsame, hfault, (hnamed fault trivial hfault).1 [], hunreadable.mpr nofun⟩

end Fanout
