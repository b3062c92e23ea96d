import Mathlib.Data.List.Forall2
import Fanout.Pipeline.Report

/-!
When two failures are the same. Failures are trees with kinds at their leaves, and two of them are the same
when every path leads to the same mark in both, be it a kind or a number of parts
(`sameness_by_shape_and_kinds`). What a failure says beside its kinds plays no part. The trees that can be
put together are those in which no aggregate has a single part, which would stand for that part.
-/

namespace Fanout

namespace Failure

/-! ### Trees of failures -/

/-- What holds of single failures, and of an aggregate whenever it holds of its parts, holds of all. -/
@[elab_as_elim, induction_eliminator]
theorem induction {motive : Failure → Prop}
    (single : ∀ kind description detail cause origin,
      motive (.single kind description detail cause origin))
    (many : ∀ parts place, (∀ f ∈ parts, motive f) → motive (.many parts place)) :
    ∀ f, motive f
  | .single _ _ _ _ _ => single _ _ _ _ _
  | .many parts place => many parts place fun f _ => induction single many f

/-- A failure is another one or a part of it, at any depth. -/
inductive IsWithin : Failure → Failure → Prop
  | refl (f : Failure) : IsWithin f f
  | part {f g : Failure} {parts : List Failure} (place : String) (hg : g ∈ parts) (h : IsWithin f g) :
    IsWithin f (.many parts place)

theorem IsWithin.of_single {f : Failure} {kind description detail cause origin}
    (h : f.IsWithin (.single kind description detail cause origin)) :
    f = .single kind description detail cause origin := by
  cases h with
  | refl => rfl

/-- What can be put together: single failures with or without detail and cause, defects of
configurations, aggregates of lists, and failures to which a cause is added. -/
inductive IsBuilt : Failure → Prop
  | single (kind : FailureKind) (description : String) (detail cause : Option String) (origin : Origin) :
    IsBuilt (.single kind description detail cause origin)
  | defect (d : ConfigDefect) (origin : Origin) : IsBuilt (d.failure origin)
  | aggregate {parts : List Failure} (place : String) (h : ∀ f ∈ parts, IsBuilt f) :
    IsBuilt (ofList parts place)
  | caused {f : Failure} (cause : String) (h : IsBuilt f) : IsBuilt (f.withCause cause)

theorem ofList_of_length_ne_one {parts : List Failure} (place : String) (h : parts.length ≠ 1) :
    ofList parts place = .many parts place := by
  unfold ofList
  split
  · exact absurd rfl h
  · rfl

theorem isWithin_many_withCause {f : Failure} {cause place : String} {parts : List Failure} :
    (Failure.many parts place).IsWithin (f.withCause cause) ↔ (Failure.many parts place).IsWithin f := by
  cases f with
  | single => exact iff_of_false (fun h => nomatch h.of_single) (fun h => nomatch h.of_single)
  | many => rfl

/-- No aggregate within a failure has a single part. -/
def HasNoLonePart (f : Failure) : Prop :=
  ∀ parts place, (Failure.many parts place).IsWithin f → parts.length ≠ 1

theorem hasNoLonePart_single (kind : FailureKind) (description : String) (detail cause : Option String)
    (origin : Origin) : (Failure.single kind description detail cause origin).HasNoLonePart :=
  fun _ _ h => nomatch h.of_single

theorem hasNoLonePart_many_iff {parts : List Failure} {place : String} :
    (Failure.many parts place).HasNoLonePart ↔ parts.length ≠ 1 ∧ ∀ f ∈ parts, f.HasNoLonePart := by
  constructor
  · intro h
    exact ⟨h _ _ (.refl _), fun f hf parts' place' hwithin => h _ _ (.part place hf hwithin)⟩
  · rintro ⟨hlength, hparts⟩ parts' place' hwithin
    cases hwithin with
    | refl => exact hlength
    | part _ hg h => exact hparts _ hg _ _ h

theorem hasNoLonePart_ofList {parts : List Failure} (place : String)
    (h : ∀ f ∈ parts, f.HasNoLonePart) : (ofList parts place).HasNoLonePart := by
  by_cases hone : parts.length = 1
  · obtain ⟨f, rfl⟩ := List.length_eq_one_iff.mp hone
    exact h f (List.mem_singleton_self f)
  · rw [ofList_of_length_ne_one place hone]
    exact hasNoLonePart_many_iff.mpr ⟨hone, h⟩

/-- The trees without an aggregate of a single part are the ones that can be put together. -/
theorem isBuilt_iff {f : Failure} : f.IsBuilt ↔ f.HasNoLonePart := by
  constructor
  · intro h
    induction h with
    | single kind description detail cause origin =>
      exact hasNoLonePart_single kind description detail cause origin
    | defect d origin => exact hasNoLonePart_single _ _ _ _ _
    | aggregate place _ ih => exact hasNoLonePart_ofList place ih
    | caused cause _ ih => exact fun parts place h => ih parts place (isWithin_many_withCause.mp h)
  · intro h
    induction f with
    | single kind description detail cause origin => exact .single kind description detail cause origin
    | many parts place ih =>
      obtain ⟨hlength, hparts⟩ := hasNoLonePart_many_iff.mp h
      rw [← ofList_of_length_ne_one place hlength]
      exact .aggregate place fun f hf => ih f hf (hparts f hf)

/-! ### Accessors by parts -/

theorem kind_many (parts : List Failure) (place : String) :
    (Failure.many parts place).kind = (parts.head?.map kind).getD .unknown := by
  cases parts <;> rfl

theorem kindsOfAll_eq_flatMap (parts : List Failure) : kindsOfAll parts = parts.flatMap kinds := by
  induction parts with
  | nil => rfl
  | cons f parts ih => rw [kindsOfAll, ih, List.flatMap_cons]

theorem kinds_many (parts : List Failure) (place : String) :
    (Failure.many parts place).kinds = parts.flatMap kinds :=
  kindsOfAll_eq_flatMap parts

/-! ### Sameness by parts -/

variable {f g : Failure} {fs gs : List Failure} {p q : String}

theorem sameAll_iff : sameAll fs gs = true ↔ List.Forall₂ (fun f g => f.same g = true) fs gs := by
  induction fs generalizing gs with
  | nil => cases gs <;> simp [sameAll]
  | cons f fs ih => cases gs <;> simp [sameAll, ih]

theorem same_many_iff : (Failure.many fs p).same (.many gs q) = true ↔
    List.Forall₂ (fun f g => f.same g = true) fs gs :=
  sameAll_iff

/-- What is found at a node of the tree. -/
inductive Mark
  | kind (k : FailureKind)
  | parts (count : Nat)
  deriving DecidableEq, Repr

/-- The mark to which a path leads; a path tells which part to go on with, at each aggregate. -/
def markAt : List Nat → Failure → Option Mark
  | [], .single k _ _ _ _ => some (.kind k)
  | [], .many parts _ => some (.parts parts.length)
  | _ :: _, .single .. => none
  | i :: path, .many parts _ => parts[i]?.bind (markAt path)

@[simp] theorem markAt_many_cons (i : Nat) (path : List Nat) :
    (Failure.many fs p).markAt (i :: path) = fs[i]?.bind (markAt path) := rfl

/-- Lists of trees with the same marks have as many members, and those have the same marks. -/
theorem markAt_many_congr_iff :
    (∀ path, (Failure.many fs p).markAt path = (Failure.many gs q).markAt path) ↔
      fs.length = gs.length ∧
        ∀ i (hf : i < fs.length) (hg : i < gs.length) path, fs[i].markAt path = gs[i].markAt path := by
  constructor
  · intro h
    refine ⟨by simpa [markAt] using h [], fun i hf hg path => ?_⟩
    simpa [List.getElem?_eq_getElem hf, List.getElem?_eq_getElem hg] using h (i :: path)
  · rintro ⟨hlength, hparts⟩ (_ | ⟨i, path⟩)
    · simp [markAt, hlength]
    · by_cases hf : i < fs.length
      · have hg : i < gs.length := hlength ▸ hf
        simpa [List.getElem?_eq_getElem hf, List.getElem?_eq_getElem hg] using hparts i hf hg path
      · have hg : ¬ i < gs.length := hlength ▸ hf
        simp [List.getElem?_eq_none (Nat.le_of_not_lt hf), List.getElem?_eq_none (Nat.le_of_not_lt hg)]

/-- Same shape and same kinds: in both trees every path leads to the same mark. -/
theorem same_iff_markAt : f.same g = true ↔ ∀ path, f.markAt path = g.markAt path := by
  induction f generalizing g with
  | single kind description detail cause origin =>
    cases g with
    | single kind' description' detail' cause' origin' =>
      constructor
      · intro h path
        obtain rfl : kind = kind' := by simpa [same] using h
        cases path <;> rfl
      · intro h
        simpa [same, markAt] using h []
    | many parts place' => exact iff_of_false nofun fun h => nomatch h []
  | many parts place ih =>
    cases g with
    | single => exact iff_of_false nofun fun h => nomatch h []
    | many parts' place' =>
      rw [same_many_iff, List.forall₂_iff_get, markAt_many_congr_iff]
      refine and_congr_right fun _ => ⟨fun h i hf hg path => ?_, fun h i hf hg => ?_⟩
      · exact (ih _ (List.getElem_mem hf)).mp (h i hf hg) path
      · exact (ih _ (List.getElem_mem hf)).mpr (h i hf hg)

theorem same_equivalence : Equivalence fun f g : Failure => f.same g = true where
  refl _ := same_iff_markAt.mpr fun _ => rfl
  symm h := same_iff_markAt.mpr fun path => (same_iff_markAt.mp h path).symm
  trans h h' := same_iff_markAt.mpr fun path =>
    (same_iff_markAt.mp h path).trans (same_iff_markAt.mp h' path)

/-- Nothing but the marks of a tree is compared. -/
theorem same_congr_left {f' : Failure} (h : ∀ path, f.markAt path = f'.markAt path) :
    f.same g = f'.same g := by
  rw [Bool.eq_iff_iff, same_iff_markAt, same_iff_markAt]
  exact forall_congr' fun path => by rw [h path]

theorem markAt_withCause (f : Failure) (cause : String) (path : List Nat) :
    (f.withCause cause).markAt path = f.markAt path := by
  cases f with
  | single => cases path <;> rfl
  | many => rfl

/-- Lists of same failures have same aggregates, those of one failure included. -/
theorem same_ofList (h : List.Forall₂ (fun f g => f.same g = true) fs gs) (p q : String) :
    (ofList fs p).same (ofList gs q) = true := by
  cases h with
  | nil => rfl
  | cons hfirst hrest =>
    cases hrest with
    | nil => exact hfirst
    | cons hsecond hrest => exact same_many_iff.mpr (.cons hfirst (.cons hsecond hrest))

/-- What holds of single failures of one kind, and of aggregates whenever it holds of corresponding parts,
holds of same failures. -/
@[elab_as_elim]
theorem same_induction {motive : Failure → Failure → Prop}
    (single : ∀ kind description detail cause origin description' detail' cause' origin',
      motive (.single kind description detail cause origin)
        (.single kind description' detail' cause' origin'))
    (many : ∀ fs gs place place', List.Forall₂ motive fs gs → motive (.many fs place) (.many gs place')) :
    ∀ {f g : Failure}, f.same g = true → motive f g := by
  intro f g h
  induction f generalizing g with
  | single kind description detail cause origin =>
    cases g with
    | single kind' description' detail' cause' origin' =>
      obtain rfl : kind = kind' := by simpa [same] using h
      exact single _ _ _ _ _ _ _ _ _
    | many => cases h
  | many fs place ih =>
    cases g with
    | single => cases h
    | many gs place' =>
      refine many fs gs place place' ?_
      obtain ⟨hlength, hparts⟩ := List.forall₂_iff_get.mp (same_many_iff.mp h)
      exact List.forall₂_iff_get.mpr
        ⟨hlength, fun i hf hg => ih _ (List.getElem_mem hf) (hparts i hf hg)⟩

theorem kinds_eq_of_same (h : f.same g = true) : f.kinds = g.kinds := by
  refine same_induction (fun _ _ _ _ _ _ _ _ _ => rfl) (fun fs gs place place' hparts => ?_) h
  rw [kinds_many, kinds_many]
  induction hparts with
  | nil => rfl
  | cons hfirst _ ih => rw [List.flatMap_cons, List.flatMap_cons, hfirst, ih]

theorem kind_eq_of_same (h : f.same g = true) : f.kind = g.kind := by
  refine same_induction (fun _ _ _ _ _ _ _ _ _ => rfl) (fun fs gs place place' hparts => ?_) h
  rw [kind_many, kind_many]
  cases hparts with
  | nil => rfl
  | cons hfirst _ => exact hfirst

/-- Sameness is an equivalence, and two failures are the same when in both every path leads to the same
kind or the same number of parts. It carries over to aggregates, does not look at descriptions, details,
causes and places, and same failures answer with the same kind and the same kinds. The failures that can be
put together are those without an aggregate of a single part. -/
theorem sameness_by_shape_and_kinds :
    Equivalence (fun f g : Failure => f.same g = true) ∧
    (∀ f g : Failure, f.same g = true ↔ ∀ path, f.markAt path = g.markAt path) ∧
    (∀ (fs gs : List Failure) (place place' : String),
      List.Forall₂ (fun f g => f.same g = true) fs gs →
        (ofList fs place).same (ofList gs place') = true) ∧
    (∀ (kind : FailureKind) (description description' : String) (detail detail' cause cause' : Option String)
      (origin origin' : Origin) (g : Failure),
      (Failure.single kind description detail cause origin).same g =
        (Failure.single kind description' detail' cause' origin').same g) ∧
    (∀ (parts : List Failure) (place place' : String) (g : Failure),
      (Failure.many parts place).same g = (Failure.many parts place').same g) ∧
    (∀ (f g : Failure) (cause : String), (f.withCause cause).same g = f.same g) ∧
    (∀ f g : Failure, f.same g = true → f.kind = g.kind ∧ f.kinds = g.kinds) ∧
    ∀ f : Failure, f.IsBuilt ↔ f.HasNoLonePart := by
  refine ⟨same_equivalence, fun f g => same_iff_markAt, fun fs gs place place' h => same_ofList h _ _,
    ?_, ?_, ?_, ?_, fun f => isBuilt_iff⟩
  · intro kind description description' detail detail' cause cause' origin origin' g
    refine same_congr_left fun path => ?_
    cases path <;> rfl
  · intro parts place place' g
    refine same_congr_left fun path => ?_
    cases path <;> rfl
  · exact fun f g cause => same_congr_left (markAt_withCause f cause)
  · exact fun f g h => ⟨kind_eq_of_same h, kinds_eq_of_same h⟩

/-- A panic that is reported in two ways, alone in a list and as it is, beside an aggregate of nothing. -/
theorem sameness_by_shape_and_kinds_of_nested :
    let here : Origin := { place := "pool:75", backtrace := "0: wait\n1: run" }
    let panicked := Failure.single .workerPanic "Worker panicked" (some "task 3") none here
    let lost := (Failure.single .workerPanic "Worker lost" none none ⟨"elsewhere", ""⟩).withCause "signal"
    let f := ofList [ofList [] here.place, ofList [panicked] here.place] here.place
    let g := ofList [ofList [] "elsewhere", lost] "elsewhere"
    panicked.same lost = true ∧ f.same g = true ∧ g.same f = true ∧ f.kind = g.kind ∧
      f.kinds = g.kinds ∧ f.IsBuilt ∧ f.HasNoLonePart := by
  intro here panicked lost f g
  obtain ⟨hequivalence, hmarks, hlists, -, -, -, hkinds, hbuilt⟩ := sameness_by_shape_and_kinds
  have hpanicked : panicked.same lost = true := (hmarks _ _).mpr fun path => by cases path <;> rfl
  have hsame : f.same g = true :=
    hlists _ _ _ _ (.cons (hlists _ _ _ _ .nil) (.cons hpanicked .nil))
  have hf : f.IsBuilt := .aggregate _ <| List.forall_mem_cons.mpr ⟨.aggregate _ nofun,
    List.forall_mem_singleton.mpr (.single _ _ _ _ _)⟩
  exact ⟨hpanicked, hsame, hequivalence.symm hsame, (hkinds _ _ hsame).1, (hkinds _ _ hsame).2, hf,
    (hbuilt _).mp hf⟩

end Failure

end Fanout
