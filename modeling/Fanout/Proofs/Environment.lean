import Mathlib.Data.List.TakeWhile
import Fanout.Runner
import Fanout.Proofs.Settings.Names
import Fanout.Proofs.Settings.Selection

/-!
Which environment a program runs in, by the bytes of one variable, and what the runner makes of it. A text
names an environment when, between blanks, it has the letters of the name, large or small. A text that
names none is refused before anything is read (`environment_by_variable`); bytes that are no text are not
refused as an environment but taken for `dev`.
-/

namespace Fanout

namespace Text

/-! ### Lower-casing to small letters -/

/-- A small letter of ASCII that no character beyond it has as its lower case. Only `k` is left out, the
lower case of the sign for kelvin. -/
def IsSmall (c : Char) : Prop :=
  c.isLower = true ∧ c ≠ 'k'

instance (c : Char) : Decidable (IsSmall c) :=
  inferInstanceAs (Decidable (c.isLower = true ∧ c ≠ 'k'))

theorem IsSmall.toNat_lt {c : Char} (h : IsSmall c) : c.toNat < 128 := by
  obtain ⟨-, hhigh⟩ := Bool.and_eq_true_iff.mp h.1
  have hlast : c.toNat ≤ 122 := UInt32.le_iff_toNat_le.mp (of_decide_eq_true hhigh)
  omega

/-- The runs that begin in ASCII end in it. -/
theorem lowerRuns_within : ∀ run ∈ lowerRuns, run.1 < 128 → run.2.1 < 128 := by
  decide +kernel

/-- Beyond ASCII the lower case of a character is beyond ASCII, but for one sign. -/
theorem lowerRuns_beyond : ∀ run ∈ lowerRuns, 128 ≤ run.1 →
    run = (0x212A, 0x212A, 1, -8383) ∨ 128 ≤ (run.1 : Int) + run.2.2.2 := by
  decide +kernel

/-- Only capital letters of ASCII have another lower case in ASCII. -/
theorem toLower_of_other {c : Char} (h : c.toNat < 65 ∨ 90 < c.toNat) : c.toLower = c := by
  unfold Char.toLower
  split
  next hcapital =>
    simp only [ge_iff_le, UInt32.le_iff_toNat_le] at hcapital
    have hfirst : 65 ≤ c.toNat := hcapital.1
    have hlast : c.toNat ≤ 90 := hcapital.2
    omega
  next => rfl

theorem lowerChar_of_ascii {c : Char} (h : c.toNat < 128) : lowerChar c = c.toLower := by
  by_cases hcapital : 65 ≤ c.toNat ∧ c.toNat ≤ 90
  · have hall : ∀ n < 91, 65 ≤ n → lowerChar (Char.ofNat n) = (Char.ofNat n).toLower := by
      decide +kernel
    have hlower := hall c.toNat (by omega) hcapital.1
    rwa [Char.ofNat_toNat] at hlower
  · have hother : c.toNat < 65 ∨ 90 < c.toNat := by omega
    rw [toLower_of_other hother]
    simp [lowerChar, find?_lowerRuns c.toNat h hother]

theorem toLower_of_large {c : Char} (h : 128 ≤ c.toNat) : c.toLower = c :=
  toLower_of_other (.inr (Nat.lt_of_lt_of_le (by decide) h))

/-- A number that is no code stands for the character of code zero. -/
theorem toNat_ofNat_cases (n : Nat) : (Char.ofNat n).toNat = n ∨ Char.ofNat n = '\x00' := by
  by_cases hvalid : n.isValidChar
  · refine .inl ?_
    rw [Char.ofNat, dif_pos hvalid]
    rfl
  · exact .inr (dif_neg hvalid)

/-- Beyond ASCII no character has a small letter for its lower case, but for the sign for kelvin. -/
theorem not_isSmall_lowerChar {c : Char} (h : 128 ≤ c.toNat) : ¬ IsSmall (lowerChar c) := by
  intro hsmall
  have hascii := hsmall.toNat_lt
  unfold lowerChar at hsmall hascii
  dsimp only at hsmall hascii
  split at hsmall
  next first last step shift hfind =>
    rw [hfind] at hascii
    have hrange := List.find?_some hfind
    simp only [Bool.and_eq_true, decide_eq_true_eq] at hrange
    obtain ⟨⟨hfirst, hlast⟩, -⟩ := hrange
    have hin := List.mem_of_find?_eq_some hfind
    have hbeyond : 128 ≤ first := by
      refine Nat.le_of_not_lt fun hwithin => ?_
      have hend : last < 128 := lowerRuns_within _ hin hwithin
      omega
    rcases lowerRuns_beyond _ hin hbeyond with hkelvin | hshift
    · cases hkelvin
      have hcode : c.toNat = 0x212A := by omega
      rw [hcode] at hsmall
      exact absurd hsmall (by decide)
    · rcases toNat_ofNat_cases ((c.toNat : Int) + shift).toNat with hcode | hzero
      · dsimp only at hascii hshift
        omega
      · rw [hzero] at hsmall
        exact absurd hsmall (by decide)
  next hfind =>
    rw [hfind] at hascii
    exact absurd h (Nat.not_le.mpr hascii)

theorem lowerChar_eq_iff {c d : Char} (hd : IsSmall d) : lowerChar c = d ↔ c.toLower = d := by
  by_cases hascii : c.toNat < 128
  · rw [lowerChar_of_ascii hascii]
  · have hlarge : 128 ≤ c.toNat := Nat.le_of_not_lt hascii
    rw [toLower_of_large hlarge]
    refine iff_of_false ?_ ?_
    · rintro rfl
      exact not_isSmall_lowerChar hlarge hd
    · rintro rfl
      exact hascii hd.toNat_lt

/-- A text that lower-cases to small letters has those letters, large or small, and no others. -/
theorem lowerFrom_eq_iff {target : List Char} (htarget : ∀ d ∈ target, IsSmall d)
    (before text : List Char) : lowerFrom before text = target ↔ text.map Char.toLower = target := by
  induction text generalizing before target with
  | nil => rfl
  | cons c text ih =>
    have hhead : ∀ {d rest}, target = d :: rest → IsSmall d := by
      rintro d rest rfl
      exact htarget d List.mem_cons_self
    unfold lowerFrom
    dsimp only
    split
    next hsigma =>
      -- Neither of the small sigmas is a letter of ASCII, nor is the capital one.
      subst hsigma
      refine iff_of_false (fun h => ?_) (fun h => ?_)
      · have hsmall := hhead h.symm
        revert hsmall
        split <;> decide
      · exact absurd (hhead h.symm) (by decide)
    next =>
      split
      next hdotted =>
        -- The small letter of a dotted capital is followed by its dot.
        subst hdotted
        refine iff_of_false (fun h => ?_) (fun h => ?_)
        · exact absurd (htarget '\u0307' (by rw [← h]; exact List.mem_cons_of_mem _ List.mem_cons_self))
            (by decide)
        · exact absurd (hhead h.symm) (by decide)
      next =>
        cases target with
        | nil => simp
        | cons d target =>
          have hd := htarget d List.mem_cons_self
          have hrest := ih (fun e he => htarget e (List.mem_cons_of_mem _ he)) (c :: before)
          simp only [List.cons_append, List.nil_append, List.map_cons, List.cons.injEq,
            lowerChar_eq_iff hd, hrest]

theorem lower_eq_iff {target : String} (htarget : ∀ d ∈ target.toList, IsSmall d) (s : String) :
    lower s = target ↔ s.toList.map Char.toLower = target.toList := by
  rw [lower, ← lowerFrom_eq_iff htarget [], ← String.toList_inj, String.toList_ofList]

/-! ### Removing blanks -/

/-- A letter is no blank, large or small. -/
theorem isBlank_of_isSmall {c : Char} (h : IsSmall c.toLower) : isBlank c = false := by
  have hascii : c.toNat < 128 := by
    refine Nat.lt_of_not_le fun hlarge => ?_
    rw [toLower_of_large hlarge] at h
    exact absurd h.toNat_lt (Nat.not_lt.mpr hlarge)
  have hall : ∀ n < 128, IsSmall (Char.ofNat n).toLower → isBlank (Char.ofNat n) = false := by
    decide +kernel
  have hc := hall c.toNat hascii
  rw [Char.ofNat_toNat] at hc
  exact hc h

/-- What trimming takes away are blanks at both ends. -/
theorem exists_trim (s : String) : ∃ before after, s.toList = before ++ (trim s).toList ++ after ∧
    (∀ c ∈ before, isBlank c = true) ∧ ∀ c ∈ after, isBlank c = true := by
  refine ⟨s.toList.takeWhile isBlank,
    ((s.toList.dropWhile isBlank).reverse.takeWhile isBlank).reverse, ?_,
    fun c hc => List.mem_takeWhile_imp hc,
    fun c hc => List.mem_takeWhile_imp (List.mem_reverse.mp hc)⟩
  rw [trim, String.toList_ofList, List.append_assoc, ← List.reverse_append,
    List.takeWhile_append_dropWhile, List.reverse_reverse, List.takeWhile_append_dropWhile]

/-- What stands between blanks and has none is left by trimming. -/
theorem trim_of_between {s : String} {before core after : List Char}
    (hs : s.toList = before ++ core ++ after) (hbefore : ∀ c ∈ before, isBlank c = true)
    (hafter : ∀ c ∈ after, isBlank c = true) (hcore : ∀ c ∈ core, isBlank c = false)
    (hne : core ≠ []) : (trim s).toList = core := by
  have hkept : ∀ {text : List Char} (rest : List Char), text ≠ [] → (∀ c ∈ text, isBlank c = false) →
      (text ++ rest).dropWhile isBlank = text ++ rest := by
    intro text rest hne htext
    cases text with
    | nil => exact absurd rfl hne
    | cons c text => simp [htext c List.mem_cons_self]
  rw [trim, String.toList_ofList, hs, List.append_assoc, List.dropWhile_append_of_pos hbefore,
    hkept after hne hcore, List.reverse_append,
    List.dropWhile_append_of_pos fun c hc => hafter c (List.mem_reverse.mp hc)]
  have hback := hkept [] (List.reverse_ne_nil_iff.mpr hne) fun c hc => hcore c (List.mem_reverse.mp hc)
  rw [List.append_nil] at hback
  rw [hback, List.reverse_reverse]

end Text

namespace Environment

/-- A text names an environment: between blanks stand the letters of the name, large or small. -/
def IsNamedBy (e : Environment) (text : String) : Prop :=
  ∃ before name after, text.toList = before ++ name ++ after ∧
    (∀ c ∈ before, Text.isBlank c = true) ∧ (∀ c ∈ after, Text.isBlank c = true) ∧
    name.map Char.toLower = e.label.toList

theorem isSmall_label (e : Environment) : ∀ d ∈ e.label.toList, Text.IsSmall d := by
  have hall : (e.label.toList.all fun d => decide (Text.IsSmall d)) = true := by
    cases e <;> decide
  exact fun d hd => of_decide_eq_true (List.all_eq_true.mp hall d hd)

/-- A text names what trimming and lower-casing make of it. -/
theorem isNamedBy_iff {e : Environment} {text : String} :
    e.IsNamedBy text ↔ Text.lower (Text.trim text) = e.label := by
  rw [Text.lower_eq_iff e.isSmall_label]
  constructor
  · rintro ⟨before, name, after, htext, hbefore, hafter, hname⟩
    have hletters : ∀ c ∈ name, Text.isBlank c = false := fun c hc =>
      Text.isBlank_of_isSmall (e.isSmall_label _ (hname ▸ List.mem_map_of_mem hc))
    have hne : name ≠ [] := by
      rintro rfl
      have hlabel : e.label.toList ≠ [] := by cases e <;> decide
      exact hlabel hname.symm
    rw [Text.trim_of_between htext hbefore hafter hletters hne, hname]
  · intro hname
    obtain ⟨before, after, htext, hbefore, hafter⟩ := Text.exists_trim text
    exact ⟨before, _, after, htext, hbefore, hafter, hname⟩

theorem parse_eq_ok_iff {e : Environment} {text : String} : parse text = .ok e ↔ e.IsNamedBy text := by
  simp only [isNamedBy_iff, parse]
  generalize Text.lower (Text.trim text) = name
  cases e <;> split_ifs with hdev hprod <;> simp_all [label]

theorem parse_eq_error_iff {text message : String} :
    parse text = .error message ↔ (∀ e : Environment, ¬ e.IsNamedBy text) ∧
      message = Text.lower (Text.trim text) ++ " is not a supported environment, use either `dev` or `prod`" := by
  constructor
  · intro h
    refine ⟨fun e he => ?_, ?_⟩
    · rw [parse_eq_ok_iff.mpr he] at h
      cases h
    · simp only [parse] at h
      split_ifs at h
      exact (Except.error.inj h).symm
  · rintro ⟨hnone, rfl⟩
    have hdev : Text.lower (Text.trim text) ≠ "dev" := fun h => hnone .dev (isNamedBy_iff.mpr h)
    have hprod : Text.lower (Text.trim text) ≠ "prod" := fun h => hnone .prod (isNamedBy_iff.mpr h)
    rw [parse, if_neg hdev, if_neg hprod]

/-- The value of the variable asks for an environment: it is not set, or its text names one. -/
inductive IsAskedFor : Environment → Option (List UInt8) → Prop
  | unset : IsAskedFor .dev none
  | named {e : Environment} {bytes : List UInt8} {text : String} (htext : Text.ofUtf8? bytes = some text)
    (hname : e.IsNamedBy text) : IsAskedFor e (some bytes)

/-- The variable is set to bytes that are no text. -/
def IsUndecodable (value : Option (List UInt8)) : Prop :=
  ∃ bytes, value = some bytes ∧ Text.ofUtf8? bytes = none

@[simp] theorem ofVariable_some (text : String) : ofVariable (some text) = parse text := rfl

theorem ofVariable_eq_ok_iff {e : Environment} {value : Option (List UInt8)} :
    ofVariable (value.bind Text.ofUtf8?) = .ok e ↔ e.IsAskedFor value ∨ IsUndecodable value ∧ e = .dev := by
  constructor
  · intro h
    rcases value with _ | bytes
    · cases h
      exact .inl .unset
    · cases htext : Text.ofUtf8? bytes with
      | none =>
        rw [Option.bind_some, htext] at h
        cases h
        exact .inr ⟨⟨bytes, rfl, htext⟩, rfl⟩
      | some text =>
        rw [Option.bind_some, htext, ofVariable_some] at h
        exact .inl (.named htext (parse_eq_ok_iff.mp h))
  · rintro (hasked | ⟨⟨bytes, rfl, hbytes⟩, rfl⟩)
    · cases hasked with
      | unset => rfl
      | named htext hname =>
        rw [Option.bind_some, htext, ofVariable_some]
        exact parse_eq_ok_iff.mpr hname
    · rw [Option.bind_some, hbytes]
      rfl

theorem ofVariable_eq_error_iff {message : String} {value : Option (List UInt8)} :
    ofVariable (value.bind Text.ofUtf8?) = .error message ↔
      ∃ bytes text, value = some bytes ∧ Text.ofUtf8? bytes = some text ∧
        (∀ e : Environment, ¬ e.IsNamedBy text) ∧ message = Text.lower (Text.trim text)
          ++ " is not a supported environment, use either `dev` or `prod`" := by
  constructor
  · intro h
    rcases value with _ | bytes
    · cases h
    · cases htext : Text.ofUtf8? bytes with
      | none =>
        rw [Option.bind_some, htext] at h
        cases h
      | some text =>
        rw [Option.bind_some, htext, ofVariable_some] at h
        exact ⟨bytes, text, rfl, htext, parse_eq_error_iff.mp h⟩
  · rintro ⟨bytes, text, rfl, htext, hrefused⟩
    rw [Option.bind_some, htext, ofVariable_some]
    exact parse_eq_error_iff.mpr hrefused

end Environment

namespace Variable

/-- A setting whose value is no text is reported, or one before it is. -/
theorem settings_of_undecodable {vars : List Variable} {v : Variable} {key : String} (hv : v ∈ vars)
    (hkey : v.key? = some key) (hbytes : Text.ofUtf8? v.value = none) :
    ∃ u ∈ vars, ∃ key, u.key? = some key ∧ Text.ofUtf8? u.value = none ∧
      settings vars = .error (unreadableMessage key u.value) := by
  induction vars with
  | nil => cases hv
  | cons u vars ih =>
    have hlater : v ∈ vars → ∃ u' ∈ u :: vars, ∃ key, u'.key? = some key ∧ Text.ofUtf8? u'.value = none ∧
        settings vars = .error (unreadableMessage key u'.value) := fun hin => by
      obtain ⟨u', hu', h⟩ := ih hin
      exact ⟨u', List.mem_cons_of_mem _ hu', h⟩
    unfold settings
    cases hukey : u.key? with
    | none =>
      rcases List.mem_cons.mp hv with rfl | hin
      · cases hkey.symm.trans hukey
      · exact hlater hin
    | some ukey =>
      dsimp only
      cases htext : Text.ofUtf8? u.value with
      | none => exact ⟨u, List.mem_cons_self, ukey, hukey, htext, rfl⟩
      | some text =>
        rcases List.mem_cons.mp hv with rfl | hin
        · cases hbytes.symm.trans htext
        · obtain ⟨u', hu', key', hkey', htext', hsettings⟩ := hlater hin
          exact ⟨u', hu', key', hkey', htext', by rw [hsettings]; rfl⟩

end Variable

/-- The variable that names the environment is a setting as well. -/
theorem key?_environment {v : Variable} (h : v.name = Environment.variableName) :
    v.key? = some "environment" := by
  rw [Variable.key?, h]
  decide +kernel

theorem FileFailure.isOfFiles {files : FileView} {directory : String} {environment : Environment}
    {fault : LoadError} (h : FileFailure files directory environment fault) : fault.IsOfFiles := by
  rcases h.named with rfl | rfl | rfl | ⟨_, -, _, _, _, -, rfl⟩ <;> trivial

/-- Nothing is loaded along with a setting whose value is no text. -/
theorem loadConfig_of_undecodable {α : Type} {vars : List Variable} {v : Variable} {key : String}
    (hv : v ∈ vars) (hkey : v.key? = some key) (hbytes : Text.ofUtf8? v.value = none)
    (reading : Reading α) (files : FileView) (directory : String) (environment : Environment) :
    ∃ fault, loadConfig reading files vars directory environment = .error fault ∧
      (fault.IsOfFiles ∨ ∃ u ∈ vars, ∃ key, u.key? = some key ∧ Text.ofUtf8? u.value = none ∧
        fault = .variableFault (Variable.unreadableMessage key u.value)) := by
  obtain ⟨u, hu, ukey, hukey, hubytes, hsettings⟩ := Variable.settings_of_undecodable hv hkey hbytes
  rw [loadConfig, loadSettings_eq, hsettings]
  cases hlayers : fileLayers files directory environment with
  | error fault => exact ⟨fault, rfl, .inl (fileLayers_eq_error_iff.mp hlayers).isOfFiles⟩
  | ok layers => exact ⟨_, rfl, .inr ⟨u, hu, ukey, hukey, hubytes, rfl⟩⟩

namespace Runner

variable {line : CommandLine} {files : FileView} {vars : List Variable}

theorem loadConfig_of_environment {e : Environment}
    (h : Environment.ofVariable (Variable.text? Environment.variableName vars) = .ok e) :
    loadConfig line files vars = loadIn e line files vars := by
  simp only [loadConfig, h]

theorem loadConfig_of_refused {message : String}
    (h : Environment.ofVariable (Variable.text? Environment.variableName vars) = .error message) :
    loadConfig line files vars = .error (.environment message) := by
  simp only [loadConfig, h]

/-- Whatever the environment, the variable that names it is a setting as well, and one that fails. -/
theorem loadIn_of_undecodable
    (h : Environment.IsUndecodable (Variable.bytes? Environment.variableName vars)) (e : Environment) :
    ∃ fault, loadIn e line files vars = .error (.load line.configDir fault) ∧
      (fault.IsOfFiles ∨ ∃ v ∈ vars, ∃ key, v.key? = some key ∧ Text.ofUtf8? v.value = none ∧
        fault = .variableFault (Variable.unreadableMessage key v.value)) := by
  obtain ⟨bytes, hvalue, hbytes⟩ := h
  obtain ⟨v, hfind, rfl⟩ := Option.map_eq_some_iff.mp hvalue
  have hname : v.name = Environment.variableName := by simpa using List.find?_some hfind
  obtain ⟨fault, hload, hfault⟩ := loadConfig_of_undecodable (List.mem_of_find?_eq_some hfind)
    (key?_environment hname) hbytes RunnerConfig.form.reading files line.configDir e
  exact ⟨fault, by simp only [loadIn, hload], hfault⟩

end Runner

/-- The environment is the one that the value of its variable asks for, and a text that names none is
refused with a message, whatever the directory holds. Bytes that are no text ask for none and are not
refused: they are taken for `dev`, and loading fails later, for the files or for a variable. -/
theorem environment_by_variable (vars : List Variable) :
    let value := Variable.bytes? Environment.variableName vars
    let environment := Environment.ofVariable (Variable.text? Environment.variableName vars)
    (∀ (e : Environment) (text : String),
      e.IsNamedBy text ↔ Text.lower (Text.trim text) = e.label) ∧
    (∀ e : Environment,
      environment = .ok e ↔ e.IsAskedFor value ∨ Environment.IsUndecodable value ∧ e = .dev) ∧
    (∀ message, environment = .error message ↔
      ∃ bytes text, value = some bytes ∧ Text.ofUtf8? bytes = some text ∧
        (∀ e : Environment, ¬ e.IsNamedBy text) ∧
        message = Text.lower (Text.trim text)
          ++ " is not a supported environment, use either `dev` or `prod`") ∧
    ∀ (line : CommandLine) (files : FileView),
      (∀ e, environment = .ok e →
        Runner.loadConfig line files vars = Runner.loadIn e line files vars) ∧
      (∀ message, environment = .error message →
        Runner.loadConfig line files vars = .error (.environment message)) ∧
      (Environment.IsUndecodable value →
        ∃ fault, Runner.loadConfig line files vars = .error (.load line.configDir fault) ∧
          (fault.IsOfFiles ∨ ∃ v ∈ vars, ∃ key, v.key? = some key ∧ Text.ofUtf8? v.value = none ∧
            fault = .variableFault (Variable.unreadableMessage key v.value))) := by
  intro value environment
  refine ⟨fun e text => Environment.isNamedBy_iff, fun e => Environment.ofVariable_eq_ok_iff,
    fun message => Environment.ofVariable_eq_error_iff, fun line files =>
      ⟨fun e h => Runner.loadConfig_of_environment h, fun message h => Runner.loadConfig_of_refused h,
        fun h => ?_⟩⟩
  have hdev : environment = .ok .dev := Environment.ofVariable_eq_ok_iff.mpr (.inr ⟨h, rfl⟩)
  rw [Runner.loadConfig_of_environment hdev]
  exact Runner.loadIn_of_undecodable h .dev

/-- The letters of `prod` with a stray byte behind them ask for no environment and are taken for `dev`, so
that a missing directory is reported and not the environment. -/
theorem undecodable_taken_for_dev :
    let vars : List Variable := [⟨"APP_ENVIRONMENT", [0x70, 0x72, 0x6F, 0x64, 0xFF]⟩]
    let nowhere : FileView := { isDirectory := fun _ => false, file? := fun _ => none }
    (∀ e : Environment, ¬ e.IsAskedFor (Variable.bytes? Environment.variableName vars)) ∧
      Environment.ofVariable (Variable.text? Environment.variableName vars) = .ok .dev ∧
      Runner.loadConfig {} nowhere vars =
        .error (.load "configuration" (.missingDirectory "configuration")) := by
  refine ⟨fun e hasked => ?_, rfl, rfl⟩
  cases hasked with
  | named htext _ => cases htext

end Fanout
