import Mathlib.Data.List.DropRight
import Fanout.Text.Lines

/-!
Texts put together from lines. A text that goes on after a line feed has the lines of both halves
(`charLines_append`), so lines that are written one after the other, each behind a line feed, are found
again when the text is split (`bareLines_append_broken`). What is not found again are carriage returns at
the end of a line, which the line feed behind them takes along; lines are compared without them.
-/

namespace Fanout.Text

/-! ### Lines of characters -/

theorem charLines_cons {c : Char} {rest : List Char} (hfeed : c ≠ '\n')
    (hreturn : c = '\r' → rest.head? ≠ some '\n') :
    charLines (c :: rest) = (c :: (charLines rest).headD []) :: (charLines rest).tail := by
  have hpair : ∀ rest', c = '\r' → rest = '\n' :: rest' → False := by
    rintro rest' hc rfl
    exact hreturn hc rfl
  rw [charLines.eq_4 c rest hfeed hpair]
  cases charLines rest <;> rfl

theorem charLines_ne_nil (text : List Char) (h : text ≠ []) : charLines text ≠ [] := by
  fun_cases charLines text <;> first | exact absurd rfl h | exact List.cons_ne_nil _ _

/-- A text that goes on after a line feed has the lines of both halves. -/
theorem charLines_append (front back : List Char) :
    charLines (front ++ '\n' :: back) = charLines (front ++ ['\n']) ++ charLines back := by
  fun_induction charLines front with
  | case1 => rfl
  | case2 rest ih | case3 rest ih => simp only [List.cons_append, charLines, ih]
  | case4 c rest hfeed hreturn _ ih | case5 c rest hfeed hreturn _ _ _ ih =>
    by_cases hlast : c = '\r' ∧ rest = []
    · -- The carriage return is the end of the front and goes with the line feed.
      obtain ⟨rfl, rfl⟩ := hlast
      rfl
    · have hhead : ∀ more, c = '\r' → (rest ++ '\n' :: more).head? ≠ some '\n' := by
        intro more hc
        cases rest with
        | nil => exact absurd ⟨hc, rfl⟩ hlast
        | cons d rest => exact fun hd => hreturn rest hc (by rw [Option.some.inj hd])
      have hlines := charLines_ne_nil (rest ++ ['\n']) (by simp)
      obtain ⟨line, later, hfirst⟩ := List.exists_cons_of_ne_nil hlines
      rw [List.cons_append, List.cons_append, charLines_cons hfeed (hhead back),
        charLines_cons hfeed (hhead []), ih, hfirst]
      rfl

theorem not_mem_of_mem_charLines {text line : List Char} (h : line ∈ charLines text) :
    '\n' ∉ line := by
  fun_induction charLines text generalizing line with
  | case1 => cases h
  | case2 rest ih | case3 rest ih =>
    rcases List.mem_cons.mp h with rfl | hlater
    · exact List.not_mem_nil
    · exact ih hlater
  | case4 c rest hfeed =>
    obtain rfl := List.mem_singleton.mp h
    exact fun hmem => hfeed (List.mem_singleton.mp hmem).symm
  | case5 c rest hfeed hreturn first later hlines ih =>
    rcases List.mem_cons.mp h with rfl | hlater
    · intro hmem
      rcases List.mem_cons.mp hmem with heq | hrest
      · exact hfeed heq.symm
      · exact ih (hlines ▸ List.mem_cons_self) hrest
    · exact ih (hlines ▸ List.mem_cons_of_mem _ hlater)

/-- What has no line feed is one line. -/
theorem charLines_of_not_mem {line : List Char} (hfeed : '\n' ∉ line) (hne : line ≠ []) :
    charLines line = [line] := by
  induction line with
  | nil => exact absurd rfl hne
  | cons c rest ih =>
    obtain ⟨hc, hrest⟩ := not_or.mp (List.mem_cons.not.mp hfeed)
    have hhead : rest.head? ≠ some '\n' := fun h => hrest (List.mem_of_head? h)
    rw [charLines_cons (Ne.symm hc) fun _ => hhead]
    by_cases hnil : rest = []
    · rw [hnil]
      rfl
    · rw [ih hrest hnil]
      rfl

/-! ### Lines without carriage returns at their ends -/

/-- A line without the carriage returns at its end. -/
def bareChars (line : List Char) : List Char :=
  line.rdropWhile (· = '\r')

theorem bareChars_append (front line : List Char) : bareChars (front ++ line) =
    if bareChars line = [] then bareChars front else front ++ bareChars line := by
  simp only [bareChars, List.rdropWhile, List.reverse_append, List.dropWhile_append,
    List.isEmpty_iff, List.reverse_eq_nil_iff]
  split <;> simp

/-- What stands in front of a line stays, if it does not end with a carriage return itself. -/
theorem bareChars_append_of_bare {front : List Char} (h : bareChars front = front) (line : List Char) :
    bareChars (front ++ line) = front ++ bareChars line := by
  rw [bareChars_append, h]
  split
  next hnil => rw [hnil, List.append_nil]
  next => rfl

/-- The line feed behind a line takes at most carriage returns with it. -/
theorem bareChars_charLines_concat {line : List Char} (hfeed : '\n' ∉ line) :
    (charLines (line ++ ['\n'])).map bareChars = [bareChars line] := by
  induction line with
  | nil => rfl
  | cons c rest ih =>
    obtain ⟨hc, hrest⟩ := not_or.mp (List.mem_cons.not.mp hfeed)
    by_cases hlast : c = '\r' ∧ rest = []
    · obtain ⟨rfl, rfl⟩ := hlast
      rfl
    · have hhead : c = '\r' → (rest ++ ['\n']).head? ≠ some '\n' := by
        intro hreturn
        cases rest with
        | nil => exact absurd ⟨hreturn, rfl⟩ hlast
        | cons d rest => exact fun hd => hrest (Option.some.inj hd ▸ List.mem_cons_self)
      obtain ⟨line, hlines, hline⟩ := List.map_eq_singleton_iff.mp (ih hrest)
      rw [List.cons_append, charLines_cons (Ne.symm hc) hhead, hlines]
      show [bareChars ([c] ++ line)] = [bareChars ([c] ++ rest)]
      rw [bareChars_append, bareChars_append, hline]

/-- A line feed behind the last line of a text opens no further line. -/
theorem map_bareChars_charLines_concat {text : List Char} (hne : text ≠ [])
    (hlast : text.getLast? ≠ some '\n') :
    (charLines (text ++ ['\n'])).map bareChars = (charLines text).map bareChars := by
  by_cases hmem : '\n' ∈ text
  · obtain ⟨line, front, hsplit, hline⟩ :=
      List.eq_append_cons_of_mem (List.mem_reverse.mpr hmem)
    obtain rfl : text = front.reverse ++ '\n' :: line.reverse := by
      simpa using congrArg List.reverse hsplit
    have hrest : line.reverse ≠ [] := fun hnil => hlast (by simp [hnil])
    have hfeed : '\n' ∉ line.reverse := fun h => hline (List.mem_reverse.mp h)
    rw [List.append_assoc, List.cons_append, charLines_append front.reverse (line.reverse ++ ['\n']),
      charLines_append front.reverse line.reverse, List.map_append, List.map_append,
      bareChars_charLines_concat hfeed, charLines_of_not_mem hfeed hrest]
    rfl
  · rw [bareChars_charLines_concat hmem, charLines_of_not_mem hmem hne]
    rfl

/-! ### Texts -/

/-- A line without the carriage returns at its end. -/
def bare (line : String) : String :=
  String.ofList (bareChars line.toList)

/-- The lines of a text, without carriage returns at their ends. -/
def bareLines (text : String) : List String :=
  (lines text).map bare

/-- Lines of which each is written behind a line feed. -/
def broken (ls : List String) : String :=
  String.join (ls.map ("\n" ++ ·))

/-- What can be written as one line. -/
def IsLine (line : String) : Prop :=
  line ≠ "" ∧ '\n' ∉ line.toList

instance (line : String) : Decidable (IsLine line) :=
  inferInstanceAs (Decidable (line ≠ "" ∧ '\n' ∉ line.toList))

theorem bareLines_eq (text : String) :
    bareLines text = ((charLines text.toList).map bareChars).map String.ofList := by
  simp [bareLines, lines, bare, Function.comp_def]

theorem length_bareLines (text : String) : (bareLines text).length = (lines text).length :=
  List.length_map _

theorem bareLines_ne_nil (text : String) (h : text ≠ "") : bareLines text ≠ [] := by
  rw [bareLines_eq, ne_eq, List.map_eq_nil_iff, List.map_eq_nil_iff]
  exact charLines_ne_nil _ fun hnil => h (String.toList_eq_nil_iff.mp hnil)

theorem broken_append (first second : List String) :
    broken (first ++ second) = broken first ++ broken second := by
  simp [broken]

theorem bareLines_append (front back : String) :
    bareLines (front ++ "\n" ++ back) = bareLines (front ++ "\n") ++ bareLines back := by
  simp only [bareLines_eq, String.toList_append, List.append_assoc, ← List.map_append]
  exact congrArg (fun ls => (ls.map bareChars).map String.ofList) (charLines_append _ _)

theorem IsLine.bareLines_eq {line : String} (h : IsLine line) : bareLines line = [bare line] := by
  rw [Text.bareLines_eq, charLines_of_not_mem h.2 fun hnil => h.1 (String.toList_eq_nil_iff.mp hnil)]
  rfl

theorem IsLine.bareLines_newline {line : String} (h : IsLine line) :
    bareLines (line ++ "\n") = [bare line] := by
  rw [Text.bareLines_eq, String.toList_append]
  exact congrArg (List.map String.ofList) (bareChars_charLines_concat h.2)

theorem IsLine.bareLines_append_broken {line : String} (h : IsLine line) {ls : List String}
    (hls : ∀ l ∈ ls, IsLine l) : bareLines (line ++ broken ls) = bare line :: ls.map bare := by
  -- Every line is ended by the line feed of the next one, and the last one by the end of the text.
  induction ls generalizing line with
  | nil => simpa [broken] using h.bareLines_eq
  | cons next ls ih =>
    obtain ⟨hnext, hls⟩ := List.forall_mem_cons.mp hls
    have hbroken : line ++ broken (next :: ls) = line ++ "\n" ++ (next ++ broken ls) := by
      simp [broken, String.append_assoc]
    rw [hbroken, bareLines_append, h.bareLines_newline, ih hnext hls]
    rfl

/-- Lines that are written behind a text, each after a line feed, are found again. -/
theorem bareLines_append_broken (text : String) {ls : List String} (hls : ∀ l ∈ ls, IsLine l)
    (hne : ls ≠ []) : bareLines (text ++ broken ls) = bareLines (text ++ "\n") ++ ls.map bare := by
  obtain ⟨first, ls, rfl⟩ := List.exists_cons_of_ne_nil hne
  obtain ⟨hfirst, hls⟩ := List.forall_mem_cons.mp hls
  have hbroken : text ++ broken (first :: ls) = text ++ "\n" ++ (first ++ broken ls) := by
    simp [broken, String.append_assoc]
  rw [hbroken, bareLines_append, hfirst.bareLines_append_broken hls]
  rfl

/-- They are found behind a text that ends within a line, be there any or none. -/
theorem bareLines_append_broken_of_getLast? {text : String} (hne : text ≠ "")
    (hlast : text.toList.getLast? ≠ some '\n') {ls : List String} (hls : ∀ l ∈ ls, IsLine l) :
    bareLines (text ++ broken ls) = bareLines text ++ ls.map bare := by
  have hfeed : bareLines (text ++ "\n") = bareLines text := by
    rw [bareLines_eq, bareLines_eq, String.toList_append]
    refine congrArg (List.map String.ofList) (map_bareChars_charLines_concat ?_ hlast)
    exact fun hnil => hne (String.toList_eq_nil_iff.mp hnil)
  cases ls with
  | nil => simp [broken]
  | cons first ls => rw [bareLines_append_broken text hls (List.cons_ne_nil _ _), hfeed]

theorem IsLine.append_left {front line : String} (hfront : IsLine front) (h : '\n' ∉ line.toList) :
    IsLine (front ++ line) := by
  refine ⟨fun hnil => hfront.1 ?_, ?_⟩
  · exact (String.append_eq_empty_iff.mp hnil).1
  · rw [String.toList_append, List.mem_append]
    exact not_or.mpr ⟨hfront.2, h⟩

theorem not_mem_of_mem_lines {text line : String} (h : line ∈ lines text) : '\n' ∉ line.toList := by
  obtain ⟨chars, hchars, rfl⟩ := List.mem_map.mp h
  rw [String.toList_ofList]
  exact not_mem_of_mem_charLines hchars

theorem bare_eq_self (line : String) (h : line.toList.getLast? ≠ some '\r') : bare line = line := by
  have hchars : bareChars line.toList = line.toList := by
    refine List.rdropWhile_eq_self_iff.mpr fun hne heq => h ?_
    rw [List.getLast?_eq_some_getLast hne, of_decide_eq_true heq]
  rw [bare, hchars, String.ofList_toList]

/-- What stands in front of a line stays, if it does not end with a carriage return itself. -/
theorem bare_append {front : String} (h : bare front = front) (line : String) :
    bare (front ++ line) = front ++ bare line := by
  have hchars : bareChars front.toList = front.toList :=
    String.toList_ofList.symm.trans (congrArg String.toList h)
  rw [bare, String.toList_append, bareChars_append_of_bare hchars, String.ofList_append,
    String.ofList_toList]
  rfl

end Fanout.Text
