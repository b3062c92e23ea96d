import Fanout.Proofs.Failure.Sameness

/-!
The kind that stands for a failure, against the kinds of all that it contains. The one is found by following
first parts, the others by going through all parts; they agree as long as first parts lead to a single
failure (`kind_by_first_parts`). An aggregate of nothing in first place hides the kinds behind it.
-/

namespace Fanout

namespace Failure

/-- Following first parts from a failure one comes to one that has no first part. -/
inductive LeadsTo : Failure → Failure → Prop
  | single (kind : FailureKind) (description : String) (detail cause : Option String) (origin : Origin) :
    LeadsTo (.single kind description detail cause origin) (.single kind description detail cause origin)
  | nothing (place : String) : LeadsTo (.many [] place) (.many [] place)
  | first {f e : Failure} (rest : List Failure) (place : String) (h : LeadsTo f e) :
    LeadsTo (.many (f :: rest) place) e

variable {f e e' : Failure}

theorem exists_leadsTo (f : Failure) : ∃ e, f.LeadsTo e := by
  induction f with
  | single => exact ⟨_, .single _ _ _ _ _⟩
  | many parts place ih =>
    cases parts with
    | nil => exact ⟨_, .nothing place⟩
    | cons g rest =>
      obtain ⟨e, h⟩ := ih g List.mem_cons_self
      exact ⟨e, .first rest place h⟩

theorem LeadsTo.unique (h : f.LeadsTo e) (h' : f.LeadsTo e') : e' = e := by
  induction h with
  | single => cases h'; rfl
  | nothing => cases h'; rfl
  | first rest place _ ih =>
    cases h' with
    | first _ _ h' => exact ih h'

theorem LeadsTo.isWithin (h : f.LeadsTo e) : e.IsWithin f := by
  induction h with
  | single => exact .refl _
  | nothing => exact .refl _
  | first rest place _ ih => exact .part place List.mem_cons_self ih

theorem LeadsTo.kind_eq (h : f.LeadsTo e) : f.kind = e.kind := by
  induction h with
  | single => rfl
  | nothing => rfl
  | first rest place _ ih => exact (kind_many _ place).trans ih

/-- Where first parts do not lead to an aggregate of nothing, the first kind stands for the failure. -/
theorem LeadsTo.head?_kinds_or (h : f.LeadsTo e) :
    f.kinds.head? = some f.kind ∨ ∃ place, e = .many [] place := by
  induction h with
  | single => exact .inl rfl
  | nothing place => exact .inr ⟨place, rfl⟩
  | @first f e rest place _ ih =>
    refine ih.imp_left fun hhead => ?_
    rw [kinds_many, List.flatMap_cons, List.head?_append, hhead, kind_many]
    rfl

theorem head?_kinds_of_not_leadsTo (h : ∀ place, ¬ f.LeadsTo (.many [] place)) :
    f.kinds.head? = some f.kind := by
  obtain ⟨e, he⟩ := exists_leadsTo f
  refine he.head?_kinds_or.resolve_right ?_
  rintro ⟨place, rfl⟩
  exact h place he

theorem kind_eq_unknown_of_leadsTo {place : String} (h : f.LeadsTo (.many [] place)) :
    f.kind = .unknown :=
  h.kind_eq

theorem head?_kinds_eq_iff : f.kinds.head? = some f.kind ↔
    (∀ place, ¬ f.LeadsTo (.many [] place)) ∨ f.kinds.head? = some .unknown := by
  by_cases hnothing : ∃ place, f.LeadsTo (.many [] place)
  · obtain ⟨place, h⟩ := hnothing
    rw [kind_eq_unknown_of_leadsTo h, or_iff_right fun hnot => hnot place h]
  · have hnot := not_exists.mp hnothing
    exact iff_of_true (head?_kinds_of_not_leadsTo hnot) (.inl hnot)

/-- First parts lead to one failure only. If that is a single one, its kind is the first of all kinds and
stands for the failure. If it is an aggregate of nothing, the kind is unknown, which is the first of all
kinds only where a single failure of unknown kind is. So it is for a failure without any kinds; and a
failure in which there is no aggregate of nothing has a first kind, which stands for it. -/
theorem kind_by_first_parts (f : Failure) :
    (∃! e, f.LeadsTo e) ∧
    (∀ kind description detail cause origin,
      f.LeadsTo (.single kind description detail cause origin) →
        f.kinds.head? = some kind ∧ f.kind = kind) ∧
    (∀ place, f.LeadsTo (.many [] place) → f.kind = .unknown) ∧
    (f.kinds = [] → f.kind = .unknown) ∧
    (f.kinds.head? = some f.kind ↔
      (∀ place, ¬ f.LeadsTo (.many [] place)) ∨ f.kinds.head? = some .unknown) ∧
    ((∀ place, ¬ (Failure.many [] place).IsWithin f) → f.kinds.head? = some f.kind ∧ f.kind ∈ f.kinds) := by
  refine ⟨?_, ?_, fun place h => kind_eq_unknown_of_leadsTo h, ?_, head?_kinds_eq_iff, fun hfull => ?_⟩
  · obtain ⟨e, h⟩ := exists_leadsTo f
    exact ⟨e, h, fun e' h' => h.unique h'⟩
  · intro kind description detail cause origin h
    have hhead := h.head?_kinds_or.resolve_right nofun
    rw [h.kind_eq] at hhead
    exact ⟨hhead, h.kind_eq⟩
  · intro hnone
    by_contra hknown
    have hhead := head?_kinds_of_not_leadsTo fun place h => hknown (kind_eq_unknown_of_leadsTo h)
    rw [hnone] at hhead
    cases hhead
  · have hhead := head?_kinds_of_not_leadsTo fun place h => hfull place h.isWithin
    exact ⟨hhead, List.mem_of_head? hhead⟩

/-- First parts lead past an aggregate of nothing in second place. -/
theorem kind_by_first_parts_of_nested :
    let here : Origin := { place := "pipeline:123", backtrace := "disabled backtrace" }
    let gone := Failure.single .runtime "Runtime gone" none none here
    let f := ofList [ofList [gone, ofList [] here.place] here.place,
      .single .workerPanic "Worker panicked" none none here] here.place
    f.LeadsTo gone ∧ f.kinds = [.runtime, .workerPanic] ∧ f.kinds.head? = some .runtime ∧
      f.kind = .runtime := by
  intro here gone f
  have hleads : f.LeadsTo gone := .first _ _ (.first _ _ (.single _ _ _ _ _))
  obtain ⟨-, hsingle, -⟩ := kind_by_first_parts f
  exact ⟨hleads, rfl, hsingle _ _ _ _ _ hleads⟩

/-- An aggregate of nothing hides the only kind behind it. -/
theorem kind_hidden_by_nothing :
    let here : Origin := { place := "pipeline:123", backtrace := "disabled backtrace" }
    let f := ofList [ofList [] here.place, .single .workerPanic "Worker panicked" none none here] here.place
    f.IsBuilt ∧ f.kinds = [.workerPanic] ∧ f.kind = .unknown ∧
      ¬ (f.kinds ≠ [] → f.kinds.head? = some f.kind) := by
  refine ⟨.aggregate _ ?_, rfl, rfl, fun h => nomatch h (List.cons_ne_nil _ _)⟩
  exact List.forall_mem_cons.mpr ⟨.aggregate _ nofun, List.forall_mem_singleton.mpr (.single _ _ _ _ _)⟩

end Failure

end Fanout
