import SqlStatement.Scope

/-! # Resolution of names

The innermost scope that holds a table decides how its columns are qualified. Scopes inside that do
not hold it, and all scopes outside, have no say.
-/

namespace SqlStatement.Scopes

variable {τ : Scopes} {t : Table}

theorem qualifier_append_of_not_holds (h : ∀ s ∈ τ, s.holds t = false) (σ : Scopes) :
    qualifier (τ ++ σ) t = qualifier σ t := by
  induction τ with
  | nil => rfl
  | cons s τ ih =>
    rw [List.forall_mem_cons] at h
    rw [List.cons_append, qualifier_cons_of_not_holds h.1, ih h.2]

theorem qualifier_append_of_holds (h : ∃ s ∈ τ, s.holds t = true) (σ : Scopes) :
    qualifier (τ ++ σ) t = qualifier τ t := by
  induction τ with
  | nil => simp at h
  | cons s τ ih =>
    cases hs : s.holds t with
    | true => rw [List.cons_append, qualifier_cons_of_holds hs, qualifier_cons_of_holds hs]
    | false =>
      have ht : ∃ s ∈ τ, s.holds t = true := by simpa [hs] using h
      rw [List.cons_append, qualifier_cons_of_not_holds hs, qualifier_cons_of_not_holds hs, ih ht]

/-- A column with a qualifier of its own, or of a table that is held inside, has the same name under
whatever scopes outside. -/
theorem columnName_append {c : Column}
    (h : c.qualifier.isSome = true ∨ ∃ s ∈ τ, s.holds c.table = true) (σ : Scopes) :
    (τ ++ σ).columnName c = τ.columnName c := by
  rw [columnName, columnName]
  rcases h with hq | ht
  · obtain ⟨q, hq⟩ := Option.isSome_iff_exists.1 hq
    rw [hq, Option.some_or, Option.some_or]
  · rw [qualifier_append_of_holds ht]

end SqlStatement.Scopes
