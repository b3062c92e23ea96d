import Fanout.Proofs.Settings.Leaves

/-!
Variables as a layer. The key of a variable names one leaf: a plain name outside the sections, or a
section and a name with a double underscore between them. Laying variables over settings changes these
leaves and no others (`Variable.covers_settings`).
-/

namespace Fanout

open Setting

namespace Leaf

theorem mem_sectionNames {outer : String} (h : outer ∈ sectionNames) :
    outer = "distrib" ∨ outer = "workload" := by
  simpa [sectionNames] using h

theorem toList_key (outer name : String) :
    (key ⟨some outer, name⟩).toList = outer.toList ++ '_' :: '_' :: name.toList := by
  simp [key]

/-- Keys tell leaves apart. -/
theorem key_injective {l m : Leaf} (hl : l.IsKnown) (hm : m.IsNamed) (h : l.key = m.key) : l = m := by
  obtain ⟨outer?, k⟩ := l
  obtain ⟨outer?', name⟩ := m
  have hchars := congrArg String.toList h
  cases outer? with
  | none =>
    cases outer?' with
    | none => exact congrArg (Leaf.mk none) h
    | some outer =>
      -- No section begins like the address.
      rw [toList_key] at hchars
      cases hl
      rcases mem_sectionNames hm.2 with rfl | rfl <;> cases hchars
  | some outer =>
    rw [toList_key] at hchars
    cases outer?' with
    | none =>
      have hsame : outer.toList ++ '_' :: '_' :: k.toList = name.toList := hchars
      exact absurd ⟨outer.toList, k.toList, by simpa using hsame⟩ hm.1.single
    | some outer' =>
      rw [toList_key] at hchars
      rcases mem_sectionNames hl with rfl | rfl <;> rcases mem_sectionNames hm.2 with rfl | rfl
      · exact congrArg (Leaf.mk _) (String.toList_inj.mp (by simpa using hchars))
      · cases hchars
      · cases hchars
      · exact congrArg (Leaf.mk _) (String.toList_inj.mp (by simpa using hchars))

end Leaf

namespace Variable

/-- The value of a variable, if it is a text. -/
def value? (v : Variable) : Option Setting :=
  (Text.ofUtf8? v.value).map fun text => .scalar origin (scalarOf text)

/-- What variables say about a leaf. -/
def leaf? (l : Leaf) (vars : List Variable) : Option Setting :=
  vars.findSome? fun v => if v.key? = some l.key then v.value? else none

/-- Variables whose keys name leaves, no leaf twice. Other variables may stand among them. -/
structure OnePerLeaf (vars : List Variable) : Prop where
  named : ∀ v ∈ vars, ∀ key, v.key? = some key → ∃ l : Leaf, l.IsNamed ∧ l.key = key
  readable : ∀ v ∈ vars, v.key? ≠ none → v.value? ≠ none
  distinct : (vars.filterMap key?).Nodup

/-- A key of a leaf outside the sections is the path of one step. -/
theorem path_outside {name : String} (h : IsPlain name) :
    SettingPath.parse (String.ofList (pathChars name.toList)) = ⟨name, []⟩ := by
  rw [pathChars_of_single h.single, String.ofList_toList, SettingPath.parse_of_plain h]

/-- A key of a leaf within a section is a path of two steps. -/
theorem path_section {outer name : String} (houter : outer ∈ sectionNames) (hname : IsPlain name) :
    SettingPath.parse (String.ofList (pathChars (outer ++ "__" ++ name).toList)) =
      ⟨outer, [.name name]⟩ := by
  have hall : ∀ o ∈ sectionNames, ∀ rest, pathChars ((o ++ "__").toList ++ rest) =
      o.toList ++ '.' :: pathChars rest := by
    intro o ho rest
    simp only [sectionNames, List.mem_cons, List.not_mem_nil, or_false] at ho
    rcases ho with rfl | rfl <;> rfl
  rw [String.toList_append, hall outer houter, pathChars_of_single hname.single]
  exact SettingPath.parse_section (isPlain_of_known (List.mem_cons_of_mem _ houter)) hname

/-- The value of a variable is put at the leaf that its key names. -/
theorem covers_variable {l : Leaf} (hl : l.IsNamed) (origin : Option String) (value : Scalar) :
    Covers (fun m => if m = l then some (.scalar origin value) else none)
      (set (SettingPath.parse (String.ofList (pathChars l.key.toList))) (.scalar origin value)) := by
  obtain ⟨outer?, name⟩ := l
  obtain ⟨hname, hsection⟩ := hl
  cases outer? with
  | none =>
    rw [Leaf.key, path_outside hname]
    refine covers_outside hsection fun s => ⟨s.asTable.1, ?_⟩
    change overlay name _ s = _
    rw [overlay_scalar, Text.lower_of_plain hname]
  | some outer =>
    have hpath : SettingPath.parse (String.ofList (pathChars (Leaf.key ⟨some outer, name⟩).toList)) =
        ⟨outer, [.name name]⟩ := path_section hsection hname
    rw [hpath]
    have hsame : ∀ m : Leaf, m.IsKnown →
        (if m.outer? = some outer then
          if m.name = name then some (Setting.scalar origin value) else none else none) =
        if m = ⟨some outer, name⟩ then some (.scalar origin value) else none := by
      intro ⟨outer?, n⟩ _
      by_cases houter : outer? = some outer <;> by_cases hn : n = name <;> simp [houter, hn]
    have hset : ∀ s, set ⟨outer, [.name name]⟩ (.scalar origin value) s =
        .table s.asTable.1 (putEntry outer
          (overlay name (.scalar origin value) ((lookup outer s.inner).getD nil)) s.inner) :=
      fun _ => rfl
    refine (covers_section hsection (fun n => if n = name then some (.scalar origin value) else none)
      fun s hs => ⟨_, _, hset s, ?_⟩).congr hsame
    have hempty : ((lookup outer s.inner).getD nil).inner = ((lookup outer s.inner).getD empty).inner := by
      cases lookup outer s.inner <;> rfl
    rw [overlay_scalar, Text.lower_of_plain hname, hempty]
    refine ⟨(hs.isFlat_below hsection).putEntry ⟨origin, value, rfl⟩ _ name, fun n => ?_⟩
    change lookup n (putEntry name _ ((lookup outer s.inner).getD empty).inner) = _
    rw [lookup_putEntry, lookup_below s outer n rfl]
    split_ifs <;> rfl

theorem leaf?_eq_none {vars : List Variable} {l : Leaf} (h : l.key ∉ vars.filterMap key?) :
    leaf? l vars = none := by
  refine List.findSome?_eq_none_iff.mpr fun v hv => if_neg fun hkey => h ?_
  exact List.mem_filterMap.mpr ⟨v, hv, hkey⟩

/-- Of variables without a leaf in common the first may be looked at last. -/
theorem leaf?_cons {v : Variable} {vars : List Variable} {m l : Leaf} (hm : m.IsNamed)
    (hkey : v.key? = some m.key) (hnew : m.key ∉ vars.filterMap key?) (hl : l.IsKnown) :
    leaf? l (v :: vars) = (leaf? l vars).or (if l = m then v.value? else none) := by
  rw [leaf?, List.findSome?_cons, hkey]
  by_cases hsame : l = m
  · subst hsame
    simp only [if_true, leaf?_eq_none hnew, Option.none_or]
    cases v.value? with
    | none => exact leaf?_eq_none hnew
    | some value => rfl
  · have hdifferent : some m.key ≠ some l.key := fun h =>
      hsame (Leaf.key_injective hl hm (Option.some.inj h).symm)
    simp only [if_neg hdifferent, if_neg hsame, Option.or_none]
    rfl

theorem leaf?_singleton {v : Variable} {l m : Leaf} (hkey : v.key? = some m.key) :
    leaf? l [v] = if m.key = l.key then v.value? else none := by
  simp only [leaf?, List.findSome?_cons, List.findSome?_nil, hkey, Option.some.injEq]
  split_ifs
  · cases v.value? <;> rfl
  · rfl

/-- Without settings among them, variables say nothing. -/
theorem onePerLeaf_of_none {vars : List Variable} (h : ∀ v ∈ vars, v.key? = none) :
    OnePerLeaf vars where
  named := fun v hv key hkey => by rw [h v hv] at hkey; cases hkey
  readable := fun v hv hkey => absurd (h v hv) hkey
  distinct := by
    rw [List.filterMap_eq_nil_iff.mpr h]
    exact List.nodup_nil

theorem leaf?_of_none {vars : List Variable} (h : ∀ v ∈ vars, v.key? = none) (l : Leaf) :
    leaf? l vars = none := by
  refine List.findSome?_eq_none_iff.mpr fun v hv => if_neg ?_
  rw [h v hv]
  exact nofun

/-- A variable that names a leaf. -/
theorem onePerLeaf_singleton {v : Variable} {l : Leaf} (hl : l.IsNamed) (hkey : v.key? = some l.key)
    (hvalue : v.value? ≠ none) : OnePerLeaf [v] where
  named := List.forall_mem_singleton.mpr fun key hsame =>
    ⟨l, hl, Option.some.inj (hkey.symm.trans hsame)⟩
  readable := List.forall_mem_singleton.mpr fun _ => hvalue
  distinct := by
    rw [List.filterMap_cons_some hkey]
    exact List.nodup_cons.mpr ⟨List.not_mem_nil, List.nodup_nil⟩

theorem OnePerLeaf.tail {v : Variable} {vars : List Variable} (h : OnePerLeaf (v :: vars)) :
    OnePerLeaf vars where
  named := fun w hw => h.named w (List.mem_cons_of_mem _ hw)
  readable := fun w hw => h.readable w (List.mem_cons_of_mem _ hw)
  distinct := h.distinct.sublist ((List.sublist_cons_self v vars).filterMap key?)

/-- The settings of variables put the value of each at its leaf. -/
theorem covers_settings {vars : List Variable} (h : OnePerLeaf vars) :
    ∃ entries, settings vars = .ok entries ∧ Covers (leaf? · vars) (layer entries) := by
  induction vars with
  | nil => exact ⟨[], rfl, covers_id⟩
  | cons v vars ih =>
    obtain ⟨entries, hsettings, hcovers⟩ := ih h.tail
    cases hkey : v.key? with
    | none =>
      refine ⟨entries, by rw [settings, hkey]; exact hsettings, hcovers.congr fun l _ => ?_⟩
      rw [leaf?, leaf?, List.findSome?_cons, hkey]
      rfl
    | some key =>
      obtain ⟨m, hm, rfl⟩ := h.named v List.mem_cons_self key hkey
      have hreadable := h.readable v List.mem_cons_self (by rw [hkey]; exact Option.some_ne_none _)
      have hnew : m.key ∉ vars.filterMap key? := by
        have hdistinct := h.distinct
        rw [List.filterMap_cons_some hkey] at hdistinct
        exact (List.nodup_cons.mp hdistinct).1
      cases htext : Text.ofUtf8? v.value with
      | none => exact absurd (by rw [value?, htext]; rfl) hreadable
      | some text =>
        have hvalue : v.value? = some (.scalar origin (scalarOf text)) := by
          rw [value?, htext]
          rfl
        have hfirst := covers_variable hm (some origin) (scalarOf text)
        refine ⟨_, by rw [settings, hkey, htext, hsettings]; rfl, ?_⟩
        refine (hfirst.comp hcovers).congr fun l hl => ?_
        rw [leaf?_cons hm hkey hnew hl, hvalue]

end Variable

end Fanout
