import Mathlib.Algebra.GroupWithZero.Nat
import Fanout.Proofs.Failure.Sameness
import Fanout.Proofs.Text.Lines

/-!
The text of a failure, line by line. An aggregate is written as a heading and, for each part, the lines of
that part's own text behind a number and blanks. The text of a part is split into lines again each time
that it becomes part of a larger one, and all its lines are found in the text of the whole, in their order
and further to the right the deeper the part lies (`display_keeps_every_line`). What may be lost are
carriage returns at the end of a line. The detail and the backtrace of a single failure are any texts.
-/

namespace Fanout

open Text

namespace Failure

/-- What the text of a failure begins with, before its detail or its parts. -/
def heading : Failure → String
  | .single kind description _ _ origin =>
    "[" ++ kind.label ++ "] " ++ description ++ " @ " ++ origin.place
  | .many parts place =>
    "[Many] " ++ toString parts.length ++ " error" ++ (if parts.length = 1 then "" else "s")
      ++ " aggregated @ " ++ place

/-- Lines as an entry of an aggregate: the first one behind its number, the others behind as many
blanks. -/
def numbered (number : Nat) : List String → List String
  | [] => []
  | first :: rest => ("  " ++ toString number ++ ". " ++ first) :: rest.map ("     " ++ ·)

/-- Lines as an entry of an aggregate that itself lies so deep. -/
def nested (depth number : Nat) (ls : List String) : List String :=
  (numbered number ls).map (String.ofList (List.replicate (5 * depth) ' ') ++ ·)

/-- Lines below a header, each behind four blanks. -/
def headed (header : String) (ls : List String) : List String :=
  ("  " ++ header ++ ":") :: ls.map ("    " ++ ·)

/-- What stands below the heading of a single failure: a detail if there is one, and a backtrace that is
not blank. -/
def blocks (detail : Option String) (backtrace : String) (split : String → List String) : List String :=
  detail.elim [] (fun d => headed "Detail" (split d)) ++
    if trim backtrace = "" then [] else headed "Backtrace" (split backtrace)

/-- The part to which a path leads; a path tells which part to go on with, at each aggregate. -/
def partAt? : List Nat → Failure → Option Failure
  | [], f => some f
  | _ :: _, .single .. => none
  | i :: path, .many parts _ => parts[i]?.bind (partAt? path)

variable {f g : Failure} {parts : List Failure} {place header : String}

/-! ### Texts as lines -/

theorem indented_eq (indent : String) (ls : List String) :
    indented indent ls = broken (ls.map (indent ++ ·)) := by
  simp [indented, broken, Function.comp_def, String.append_assoc]

theorem block_eq (header text : String) : block header text = broken (headed header (lines text)) := by
  rw [block, indented_eq, show "\n  " = "\n" ++ "  " from rfl]
  simp [headed, broken, String.append_assoc, -String.reduceAppend]

theorem display_single (kind : FailureKind) (description : String) (detail cause : Option String)
    (origin : Origin) : (single kind description detail cause origin).display =
      (single kind description detail cause origin).heading ++
        broken (blocks detail origin.backtrace lines) := by
  have hdetail : detail.elim "" (block "Detail") =
      broken (detail.elim [] fun d => headed "Detail" (lines d)) := by
    cases detail with
    | none => rfl
    | some d => exact block_eq "Detail" d
  have hbacktrace : (if trim origin.backtrace = "" then "" else block "Backtrace" origin.backtrace) =
      broken (if trim origin.backtrace = "" then [] else headed "Backtrace" (lines origin.backtrace)) := by
    split
    · rfl
    · exact block_eq "Backtrace" origin.backtrace
  rw [display, hdetail, hbacktrace, blocks, broken_append, heading, String.append_assoc]

theorem entry_eq {ls : List String} (h : ls ≠ []) (number : Nat) :
    entry number ls = broken (numbered number ls) := by
  obtain ⟨first, rest, rfl⟩ := List.exists_cons_of_ne_nil h
  rw [entry, indented_eq, show "\n  " = "\n" ++ "  " from rfl]
  simp [numbered, broken, String.append_assoc, -String.reduceAppend]

theorem display_ne_empty (f : Failure) : f.display ≠ "" := by
  cases f with
  | single => simp [display]
  | many => simp [display]

theorem lines_display_ne_nil (f : Failure) : lines f.display ≠ [] := by
  have hlines := bareLines_ne_nil _ (display_ne_empty f)
  exact fun hnil => hlines (by rw [bareLines, hnil]; rfl)

theorem displayEntries_eq (number : Nat) (parts : List Failure) : displayEntries number parts =
    broken (parts.mapIdx fun i f => numbered (number + i) (lines f.display)).flatten := by
  induction parts generalizing number with
  | nil => rfl
  | cons f parts ih =>
    rw [displayEntries, entry_eq (lines_display_ne_nil f), ih, List.mapIdx_cons, List.flatten_cons,
      broken_append]
    simp only [Nat.add_zero, Nat.add_assoc, Nat.add_comm 1]

theorem display_many (parts : List Failure) (place : String) :
    (many parts place).display = (many parts place).heading ++
      broken (parts.mapIdx fun i f => numbered (i + 1) (lines f.display)).flatten := by
  rw [display, displayEntries_eq]
  simp only [heading, Nat.add_comm 1]

/-! ### Lines as lines -/

theorem not_newline_mem_toString (n : Nat) : '\n' ∉ (toString n).toList := by
  intro h
  rw [show (toString n).toList = Nat.toDigits 10 n from String.toList_ofList] at h
  have hdigit := Nat.isDigit_of_mem_toDigits (by decide) (by decide) h
  cases hdigit

theorem isLine_numbered {ls : List String} (hls : ∀ l ∈ ls, '\n' ∉ l.toList) (number : Nat) :
    ∀ l ∈ numbered number ls, IsLine l := by
  cases ls with
  | nil => exact nofun
  | cons first rest =>
    obtain ⟨hfirst, hrest⟩ := List.forall_mem_cons.mp hls
    refine List.forall_mem_cons.mpr ⟨IsLine.append_left ⟨by simp, ?_⟩ hfirst, ?_⟩
    · simpa using not_newline_mem_toString number
    · intro l hl
      obtain ⟨line, hline, rfl⟩ := List.mem_map.mp hl
      exact IsLine.append_left ⟨by decide, by decide⟩ (hrest line hline)

theorem isLine_entries (parts : List Failure) :
    ∀ l ∈ (parts.mapIdx fun i f => numbered (i + 1) (lines f.display)).flatten, IsLine l := by
  intro l hl
  obtain ⟨ls, hls, hmem⟩ := List.mem_flatten.mp hl
  obtain ⟨i, hi, rfl⟩ := List.mem_mapIdx.mp hls
  exact isLine_numbered (fun _ => not_mem_of_mem_lines) _ l hmem

theorem isLine_headed (hheader : '\n' ∉ header.toList) (text : String) :
    ∀ l ∈ headed header (lines text), IsLine l := by
  refine List.forall_mem_cons.mpr ⟨⟨by simp, by simpa using hheader⟩, fun l hl => ?_⟩
  obtain ⟨line, hline, rfl⟩ := List.mem_map.mp hl
  exact IsLine.append_left ⟨by decide, by decide⟩ (not_mem_of_mem_lines hline)

theorem isLine_blocks (detail : Option String) (backtrace : String) :
    ∀ l ∈ blocks detail backtrace lines, IsLine l := by
  refine List.forall_mem_append.mpr ⟨?_, ?_⟩
  · cases detail with
    | none => exact nofun
    | some d => exact isLine_headed (by decide) d
  · split
    · exact nofun
    · exact isLine_headed (by decide) backtrace

theorem isLine_heading (h : '\n' ∉ place.toList) : IsLine (many parts place).heading := by
  refine IsLine.append_left ⟨by simp, ?_⟩ h
  have hcount := not_newline_mem_toString parts.length
  split <;> simpa using hcount

theorem map_bare_numbered (number : Nat) (ls : List String) :
    (numbered number ls).map bare = numbered number (ls.map bare) := by
  cases ls with
  | nil => rfl
  | cons first rest =>
    have hnumber : bare ("  " ++ toString number ++ ". ") = "  " ++ toString number ++ ". " :=
      bare_eq_self _ (by simp [List.getLast?_cons, List.getLast?_append])
    have hblanks : bare "     " = "     " := bare_eq_self _ (by decide)
    simp only [numbered, List.map_cons, List.map_map, Function.comp_def, bare_append hnumber,
      bare_append hblanks]

theorem map_bare_headed (hheader : bare ("  " ++ header ++ ":") = "  " ++ header ++ ":") (text : String) :
    (headed header (lines text)).map bare = headed header (bareLines text) := by
  have hblanks : bare "    " = "    " := bare_eq_self _ (by decide)
  simp only [headed, List.map_cons, List.map_map, Function.comp_def, bare_append hblanks, bareLines,
    hheader]

theorem map_bare_blocks (detail : Option String) (backtrace : String) :
    (blocks detail backtrace lines).map bare = blocks detail backtrace bareLines := by
  rw [blocks, blocks, List.map_append]
  congr 1
  · cases detail with
    | none => rfl
    | some d => exact map_bare_headed (bare_eq_self _ (by decide)) d
  · split
    · rfl
    · exact map_bare_headed (bare_eq_self _ (by decide)) backtrace

theorem getLast?_heading_single {origin : Origin} (h : '\n' ∉ origin.place.toList) (kind : FailureKind)
    (description : String) (detail cause : Option String) :
    (single kind description detail cause origin).heading.toList.getLast? ≠ some '\n' := by
  have hplace : origin.place.toList.getLast? ≠ some '\n' := fun hlast => h (List.mem_of_getLast? hlast)
  rw [heading, String.toList_append, List.getLast?_append, String.toList_append, List.getLast?_append]
  cases hlast : origin.place.toList.getLast? with
  | none => exact fun heq => nomatch heq
  | some c => exact fun heq => hplace (hlast.trans heq)

/-- A single failure that is raised in a place on one line has its blocks below the lines of its
heading. -/
theorem bareLines_display_single {origin : Origin} (h : '\n' ∉ origin.place.toList) (kind : FailureKind)
    (description : String) (detail cause : Option String) :
    bareLines (single kind description detail cause origin).display =
      bareLines (single kind description detail cause origin).heading ++
        blocks detail origin.backtrace bareLines := by
  rw [display_single, bareLines_append_broken_of_getLast? (by simp [heading])
    (getLast?_heading_single h kind description detail cause) (isLine_blocks detail origin.backtrace),
    map_bare_blocks]

/-- What stands below the heading of an aggregate. -/
theorem bareLines_entries (parts : List Failure) :
    (parts.mapIdx fun i f => numbered (i + 1) (lines f.display)).flatten.map bare =
      (parts.mapIdx fun i f => numbered (i + 1) (bareLines f.display)).flatten := by
  rw [List.map_flatten]
  refine congrArg List.flatten (List.ext_getElem? fun i => ?_)
  simp only [List.getElem?_map, List.getElem?_mapIdx, Option.map_map, Function.comp_def,
    map_bare_numbered]
  rfl

theorem length_numbered (number : Nat) (ls : List String) :
    (numbered number ls).length = ls.length := by
  cases ls <;> simp [numbered]

theorem bareLines_display_many (h : parts ≠ []) (place : String) :
    bareLines (many parts place).display = bareLines ((many parts place).heading ++ "\n") ++
      (parts.mapIdx fun i f => numbered (i + 1) (bareLines f.display)).flatten := by
  obtain ⟨f, rest, rfl⟩ := List.exists_cons_of_ne_nil h
  have hfirst : numbered 1 (lines f.display) ≠ [] := by
    rw [← List.length_pos_iff, length_numbered]
    exact List.length_pos_iff.mpr (lines_display_ne_nil f)
  rw [display_many, bareLines_append_broken _ (isLine_entries (f :: rest)), bareLines_entries]
  rw [List.mapIdx_cons, List.flatten_cons]
  exact List.append_ne_nil_of_left_ne_nil hfirst _

/-- An aggregate that is raised in a place on one line has its heading on one line. -/
theorem bareLines_display_many_of_place (h : '\n' ∉ place.toList) (parts : List Failure) :
    bareLines (many parts place).display = bare (many parts place).heading ::
      (parts.mapIdx fun i f => numbered (i + 1) (bareLines f.display)).flatten := by
  rw [display_many, (isLine_heading h).bareLines_append_broken (isLine_entries parts),
    bareLines_entries]

theorem length_lines_display_many (h : '\n' ∉ place.toList) (parts : List Failure) :
    (lines (many parts place).display).length =
      1 + (parts.map fun f => (lines f.display).length).sum := by
  rw [← length_bareLines, bareLines_display_many_of_place h, List.length_cons, Nat.add_comm,
    List.length_flatten]
  refine congrArg (1 + List.sum ·) (List.ext_getElem? fun i => ?_)
  simp only [List.getElem?_map, List.getElem?_mapIdx, Option.map_map, Function.comp_def,
    length_numbered, length_bareLines]

/-! ### Parts of parts -/

theorem nested_succ (depth number : Nat) (ls : List String) :
    nested (depth + 1) number ls = (nested depth number ls).map ("     " ++ ·) := by
  have hblanks : String.ofList (List.replicate (5 * (depth + 1)) ' ') =
      "     " ++ String.ofList (List.replicate (5 * depth) ' ') := by
    rw [show "     " = String.ofList (List.replicate 5 ' ') from rfl, ← String.ofList_append,
      List.replicate_append_replicate]
    congr 2
    omega
  simp only [nested, List.map_map, Function.comp_def, hblanks, String.append_assoc]

/-- The entry of a part stands below the heading. -/
theorem entry_infix {j : Nat} (h : parts[j]? = some f) (place : String) :
    numbered (j + 1) (bareLines f.display) <:+: (bareLines (many parts place).display).tail := by
  obtain ⟨hj, rfl⟩ := List.getElem?_eq_some_iff.mp h
  have hheading := bareLines_ne_nil ((many parts place).heading ++ "\n") (by simp)
  rw [bareLines_display_many (List.ne_nil_of_mem (List.getElem_mem hj)),
    List.tail_append_of_ne_nil hheading]
  refine List.IsInfix.trans (List.infix_of_mem_flatten ?_) (List.suffix_append _ _).isInfix
  exact List.mem_mapIdx.mpr ⟨j, hj, rfl⟩

/-- The lines of a part are found in one piece, in their order, below the heading of the whole. -/
theorem nested_infix {path : List Nat} {i : Nat} (h : f.partAt? (path ++ [i]) = some g) :
    nested path.length (i + 1) (bareLines g.display) <:+: (bareLines f.display).tail := by
  -- The piece of a part's part is below a heading, so its lines are no first lines of an entry.
  induction path generalizing f with
  | nil =>
    cases f with
    | single => cases h
    | many parts place =>
      obtain ⟨part, hpart, hg⟩ := Option.bind_eq_some_iff.mp h
      cases hg
      simpa [nested] using entry_infix hpart place
  | cons j path ih =>
    cases f with
    | single => cases h
    | many parts place =>
      obtain ⟨part, hpart, hg⟩ := Option.bind_eq_some_iff.mp h
      have hentry := entry_infix hpart place
      obtain ⟨first, rest, hlines⟩ :=
        List.exists_cons_of_ne_nil (bareLines_ne_nil _ (display_ne_empty part))
      have hpiece := (ih hg).map ("     " ++ ·)
      rw [hlines] at hpiece hentry
      rw [List.length_cons, nested_succ]
      exact hpiece.trans ((List.suffix_cons _ _).isInfix.trans hentry)

/-- Every line of every part is kept. The lines of an aggregate are its heading and then, for each part in
turn, the lines of that part's own text, the first one behind its number and the others behind five blanks;
so there is one line more than the parts have together. The lines of a part that lies deeper are found in
one piece, in their order, behind five more blanks for each aggregate between. A single failure has the
lines of its detail below one header and those of its backtrace below another, where it has them. All this
is up to carriage returns at the ends of lines, and whatever the texts are; only the place where a failure
was raised is on one line. -/
theorem display_keeps_every_line :
    (∀ parts place, '\n' ∉ place.toList →
      bareLines (many parts place).display = bare (many parts place).heading ::
        (parts.mapIdx fun i f => numbered (i + 1) (bareLines f.display)).flatten ∧
      (lines (many parts place).display).length =
        1 + (parts.map fun f => (lines f.display).length).sum) ∧
    (∀ (f g : Failure) (path : List Nat) (i : Nat), f.partAt? (path ++ [i]) = some g →
      nested path.length (i + 1) (bareLines g.display) <:+: (bareLines f.display).tail) ∧
    ∀ kind description detail cause origin, '\n' ∉ origin.place.toList →
      bareLines (single kind description detail cause origin).display =
        bareLines (single kind description detail cause origin).heading ++
          (detail.elim [] (fun d => "  Detail:" :: (bareLines d).map ("    " ++ ·)) ++
            if trim origin.backtrace = "" then []
            else "  Backtrace:" :: (bareLines origin.backtrace).map ("    " ++ ·)) :=
  ⟨fun parts _ hplace =>
      ⟨bareLines_display_many_of_place hplace parts, length_lines_display_many hplace parts⟩,
    fun _ _ _ _ => nested_infix,
    fun kind description detail cause _ hplace =>
      bareLines_display_single hplace kind description detail cause⟩

/-- The detail and the backtrace of the second part of the second part stand one level further to the
right, without the carriage returns that the line feeds behind them take along. A blank backtrace is left
out. -/
theorem display_keeps_every_line_of_nested :
    let here : Origin := { place := "core:7", backtrace := "0: run\r\n1: main\n" }
    let gone := single .runtime "Runtime gone" (some "first\r\n\nthird\r") none here
    let blank := single .unknown "In two\r\nlines" none none { here with backtrace := " \n" }
    let f := ofList [blank, ofList [ofList [] here.place, gone] here.place] here.place
    f.partAt? [1, 1] = some gone ∧ '\n' ∉ here.place.toList ∧
    nested 1 2 (bareLines gone.display) =
      ["       2. [RuntimeError] Runtime gone @ core:7", "            Detail:", "              first",
        "              ", "              third", "            Backtrace:", "              0: run",
        "              1: main"] ∧
    nested 1 2 (bareLines gone.display) <:+: (bareLines f.display).tail ∧
    bareLines blank.display = ["[Unknown] In two", "lines @ core:7"] ∧
    (lines f.display).length = 1 + (2 + (1 + (1 + 8))) := by
  intro here gone blank f
  obtain ⟨hmany, hnested, hsingle⟩ := display_keeps_every_line
  refine ⟨rfl, by decide, by decide +kernel, hnested f gone [1] 1 rfl, ?_, ?_⟩
  · exact (hsingle _ _ _ _ _ (by decide)).trans (by decide +kernel)
  · exact (hmany _ here.place (by decide)).2.trans (by decide +kernel)

end Failure

end Fanout
