import Fanout.Settings.Load
import Fanout.Proofs.Outcome

/-!
Entries of tables. Putting one entry leaves the others alone, and what is read from a text has no name
twice, neither in a table nor in the tables within it.
-/

namespace Fanout.Setting

variable {name other : String} {value s : Setting} {entries : List (String × Setting)}

/-! ### Looking up -/

theorem lookup_nil (name : String) : lookup name [] = none :=
  rfl

theorem lookup_cons (name : String) (e : String × Setting) (entries : List (String × Setting)) :
    lookup name (e :: entries) = if e.1 = name then some e.2 else lookup name entries := by
  by_cases h : e.1 = name
  · simp [lookup, h]
  · simp [lookup, h]

theorem mem_of_lookup (h : lookup name entries = some value) : (name, value) ∈ entries := by
  induction entries with
  | nil => cases h
  | cons e entries ih =>
    rw [lookup_cons] at h
    split at h
    next hname =>
      cases h
      exact hname ▸ List.mem_cons_self
    next => exact List.mem_cons_of_mem _ (ih h)

theorem lookup_eq_none (h : name ∉ entries.map Prod.fst) : lookup name entries = none := by
  cases hfound : lookup name entries with
  | none => rfl
  | some value => exact absurd (List.mem_map_of_mem (mem_of_lookup hfound)) h

theorem lookup_putEntry (other name : String) (value : Setting)
    (entries : List (String × Setting)) :
    lookup other (putEntry name value entries) =
      if other = name then some value else lookup other entries := by
  induction entries with
  | nil => simp [putEntry, lookup_cons, eq_comm]
  | cons e entries ih =>
    unfold putEntry
    split
    next hname => simp only [lookup_cons, hname, eq_comm]; split <;> rfl
    next hname =>
      rw [lookup_cons, ih, lookup_cons]
      by_cases hother : other = name
      · simp [hother, hname]
      · simp [hother]

theorem mem_putEntry {e : String × Setting} (h : e ∈ putEntry name value entries) :
    e ∈ entries ∨ e = (name, value) := by
  induction entries with
  | nil => exact .inr (List.mem_singleton.mp h)
  | cons first entries ih =>
    unfold putEntry at h
    split at h
    next hname =>
      rcases List.mem_cons.mp h with rfl | h
      · exact .inr (by rw [hname])
      · exact .inl (List.mem_cons_of_mem _ h)
    next =>
      rcases List.mem_cons.mp h with rfl | h
      · exact .inl List.mem_cons_self
      · exact (ih h).imp_left (List.mem_cons_of_mem _)

theorem putEntry_of_notMem (value : Setting) (h : name ∉ entries.map Prod.fst) :
    putEntry name value entries = entries ++ [(name, value)] := by
  induction entries with
  | nil => rfl
  | cons e entries ih =>
    rw [List.map_cons, List.mem_cons, not_or] at h
    rw [putEntry, if_neg (Ne.symm h.1), ih h.2]
    rfl

/-! ### Distinct names -/

/-- No name stands twice. -/
def Distinct (entries : List (String × Setting)) : Prop :=
  (entries.map Prod.fst).Nodup

theorem lookup_of_mem (hdistinct : Distinct entries) (h : (name, value) ∈ entries) :
    lookup name entries = some value := by
  induction entries with
  | nil => cases h
  | cons e entries ih =>
    rw [Distinct, List.map_cons, List.nodup_cons] at hdistinct
    rw [lookup_cons]
    rcases List.mem_cons.mp h with rfl | hlater
    · exact if_pos rfl
    · have hother : e.1 ≠ name := fun hsame => hdistinct.1 (hsame ▸ List.mem_map_of_mem hlater)
      rw [if_neg hother, ih hdistinct.2 hlater]

theorem distinct_nil : Distinct [] :=
  List.nodup_nil

theorem distinct_putEntry (h : Distinct entries) : Distinct (putEntry name value entries) := by
  induction entries with
  | nil => simp [Distinct, putEntry]
  | cons e entries ih =>
    rw [Distinct, List.map_cons, List.nodup_cons] at h
    unfold putEntry
    split
    · exact List.nodup_cons.mpr h
    next hname =>
      refine List.nodup_cons.mpr ⟨fun hmem => ?_, ih h.2⟩
      obtain ⟨f, hf, hsame⟩ := List.mem_map.mp hmem
      rcases mem_putEntry hf with hold | rfl
      · exact h.1 (hsame ▸ List.mem_map_of_mem hold)
      · exact hname hsame.symm

/-- The entries of a setting, if it is a table. -/
def inner (s : Setting) : List (String × Setting) :=
  s.asTable.2

/-- No name stands twice, neither here nor in the tables within. -/
structure Tidy (entries : List (String × Setting)) : Prop where
  distinct : Distinct entries
  inner : ∀ e ∈ entries, Distinct e.2.inner

theorem tidy_nil : Tidy [] :=
  ⟨distinct_nil, List.forall_mem_nil _⟩

theorem Tidy.putEntry (h : Tidy entries) (hvalue : Distinct value.inner) :
    Tidy (putEntry name value entries) := by
  refine ⟨distinct_putEntry h.distinct, fun e he => ?_⟩
  rcases mem_putEntry he with hold | rfl
  · exact h.inner e hold
  · exact hvalue

/-! ### Texts -/

theorem distinct_ofJsonMembers (origin : String) {members : List (String × Json)}
    (h : Distinct entries) : Distinct (ofJsonMembers origin members entries) := by
  induction members generalizing entries with
  | nil => simpa [ofJsonMembers] using h
  | cons m members ih =>
    rw [ofJsonMembers]
    exact ih (distinct_putEntry h)

theorem distinct_ofJson (origin : String) (v : Json) : Distinct (ofJson origin v).inner := by
  cases v with
  | object members =>
    rw [ofJson]
    exact distinct_ofJsonMembers origin distinct_nil
  | _ => exact distinct_nil

theorem tidy_ofJsonMembers (origin : String) {members : List (String × Json)} (h : Tidy entries) :
    Tidy (ofJsonMembers origin members entries) := by
  induction members generalizing entries with
  | nil => simpa [ofJsonMembers] using h
  | cons m members ih =>
    rw [ofJsonMembers]
    exact ih (h.putEntry (distinct_ofJson origin m.2))

/-- Members with different names become one entry each. -/
theorem ofJsonMembers_append {origin : String} {ms : List (String × Json)}
    (h : (entries.map Prod.fst ++ ms.map Prod.fst).Nodup) :
    ofJsonMembers origin ms entries = entries ++ ms.map fun m => (m.1, ofJson origin m.2) := by
  induction ms generalizing entries with
  | nil => simp [ofJsonMembers]
  | cons m ms ih =>
    have hnew : m.1 ∉ entries.map Prod.fst := by
      intro hin
      exact (List.nodup_append.mp h).2.2 _ hin _ List.mem_cons_self rfl
    rw [ofJsonMembers, putEntry_of_notMem _ hnew, ih (by simpa using h), List.append_assoc]
    rfl

theorem ofJson_object {origin : String} {ms : List (String × Json)} (h : (ms.map Prod.fst).Nodup) :
    ofJson origin (.object ms) = .table origin (ms.map fun m => (m.1, ofJson origin m.2)) := by
  have hmembers : ofJsonMembers origin ms [] = [] ++ ms.map fun m => (m.1, ofJson origin m.2) :=
    ofJsonMembers_append h
  rw [ofJson, hmembers, List.nil_append]

theorem distinct_ofEntries {origin : String} {nodes : List (Yaml.Node × Yaml.Node)}
    {result : List (String × Setting)} (h : Distinct entries)
    (hread : ofEntries origin nodes entries = .ok result) : Distinct result := by
  induction nodes generalizing entries with
  | nil =>
    rw [ofEntries] at hread
    cases hread
    exact h
  | cons n nodes ih =>
    rw [ofEntries] at hread
    obtain ⟨name, -, hread⟩ := bind_eq_ok hread
    obtain ⟨v, -, hread⟩ := bind_eq_ok hread
    exact ih (distinct_putEntry h) hread

theorem distinct_ofNode {origin : String} {n : Yaml.Node} (h : ofNode origin n = .ok s) :
    Distinct s.inner := by
  cases n with
  | scalar v =>
    rw [ofNode] at h
    obtain ⟨_, -, rfl⟩ := map_eq_ok h
    exact distinct_nil
  | sequence items =>
    rw [ofNode] at h
    obtain ⟨_, -, rfl⟩ := map_eq_ok h
    exact distinct_nil
  | mapping nodes =>
    rw [ofNode] at h
    obtain ⟨_, hentries, rfl⟩ := map_eq_ok h
    exact distinct_ofEntries distinct_nil hentries

theorem tidy_ofEntries {origin : String} {nodes : List (Yaml.Node × Yaml.Node)}
    {result : List (String × Setting)} (h : Tidy entries)
    (hread : ofEntries origin nodes entries = .ok result) : Tidy result := by
  induction nodes generalizing entries with
  | nil =>
    rw [ofEntries] at hread
    cases hread
    exact h
  | cons n nodes ih =>
    rw [ofEntries] at hread
    obtain ⟨name, -, hread⟩ := bind_eq_ok hread
    obtain ⟨v, hv, hread⟩ := bind_eq_ok hread
    exact ih (h.putEntry (distinct_ofNode hv)) hread

theorem tidy_ofJsonText {origin text : String} {result : List (String × Setting)}
    (h : ofJsonText origin text = .ok result) : Tidy result := by
  unfold ofJsonText at h
  split at h
  next v _ =>
    cases v with
    | object members =>
      rw [ofJson] at h
      cases h
      exact tidy_ofJsonMembers origin tidy_nil
    | _ => cases h
  next => cases h

theorem tidy_ofYamlText {origin text : String} {result : List (String × Setting)}
    (h : ofYamlText origin text = .ok result) : Tidy result := by
  unfold ofYamlText at h
  split at h
  next => cases h; exact tidy_nil
  next n _ =>
    obtain ⟨s, hs, htable⟩ := bind_eq_ok h
    cases n with
    | mapping nodes =>
      rw [ofNode] at hs
      obtain ⟨_, hentries, rfl⟩ := map_eq_ok hs
      cases htable
      exact tidy_ofEntries tidy_nil hentries
    | scalar v =>
      rw [ofNode] at hs
      obtain ⟨_, -, rfl⟩ := map_eq_ok hs
      cases htable
    | sequence items =>
      rw [ofNode] at hs
      obtain ⟨_, -, rfl⟩ := map_eq_ok hs
      cases htable
  next => cases h

end Fanout.Setting

namespace Fanout.ConfigFile

/-- The settings of a file have no name twice. -/
theorem tidy_of_settings? {files : FileView} {directory : String} {f : ConfigFile}
    {entries : List (String × Setting)} (h : f.settings? files directory = .ok (some entries)) :
    Setting.Tidy entries := by
  unfold settings? at h
  split at h
  next => cases h
  next path content _ =>
    obtain ⟨found, hfound, hsome⟩ := map_eq_ok h
    cases hsome
    unfold settings at hfound
    split at hfound
    next => cases hfound
    next text _ =>
      dsimp only at hfound
      split at hfound
      next heq =>
        cases hfound
        split at heq
        · exact Setting.tidy_ofJsonText heq
        · exact Setting.tidy_ofYamlText heq
      next => cases hfound
      next => cases hfound

end Fanout.ConfigFile
