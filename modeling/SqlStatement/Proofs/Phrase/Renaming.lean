import SqlStatement.Proofs.Phrase.Line
import SqlStatement.Proofs.Phrase.Numbering

/-! # Other numbers

A phrase that is written from another number on has the same text and parameters under other
names, whatever the strategy makes of the names.
-/

namespace SqlStatement

namespace Parameters

/-- The name that a parameter gets where numbers start from the given one and not from one. -/
def renumber (n : Nat) (key : String) : String :=
  match (String.ofList (key.toList.drop 1)).toNat? with
  | some i => name (i + n - 1)
  | none => key

theorem renumber_name (n i : Nat) : renumber n (name i) = name (i + n - 1) := by
  have hd : String.ofList ((name i).toList.drop 1) = i.repr := by
    rw [name, String.toList_append]
    exact String.ofList_toList
  rw [renumber, hd, Nat.toNat?_repr]

end Parameters

namespace Strategy

/-- The strategy, with the placeholders that it makes from other keys. -/
def rekeyed (strategy : Strategy) (ρ : String → String) : Strategy :=
  { strategy with parameter := fun column path key => strategy.parameter column path (ρ key) }

theorem Visible.rekeyed {strategy : Strategy} (h : strategy.Visible) (ρ : String → String) :
    (strategy.rekeyed ρ).Visible :=
  ⟨fun column path key => h.parameter column path (ρ key), h.record, h.indexedRecord⟩

end Strategy

variable {ρ : String → String} {strategy : Strategy} {n k : UInt32}

/-- The keys from one number on are taken to the keys from another number on. -/
def Renames (ρ : String → String) (n k : UInt32) (count : Nat) : Prop :=
  ∀ i < count, ρ (Binding.key (n + .ofNat i)) = Binding.key (k + .ofNat i)

namespace Renames

variable {count : Nat}

theorem head (h : Renames ρ n k (count + 1)) : ρ (Binding.key n) = Binding.key k := by
  simpa using h 0 (Nat.succ_pos count)

theorem append {more : Nat} (h : Renames ρ n k (count + more)) :
    Renames ρ n k count ∧ Renames ρ (n + .ofNat count) (k + .ofNat count) more := by
  refine ⟨fun i hi => h i (by omega), fun i hi => ?_⟩
  have hc := h (count + i) (by omega)
  rwa [UInt32.ofNat_add, ← UInt32.add_assoc, ← UInt32.add_assoc] at hc

theorem renumber (h : k.toNat + count < 2 ^ 32) :
    Renames (Parameters.renumber k.toNat) 1 k count := by
  intro i hi
  have h1 : (1 : UInt32) + .ofNat i = .ofNat (1 + i) := (UInt32.ofNat_add 1 i).symm
  have hk : k + .ofNat i = .ofNat (k.toNat + i) := by
    rw [UInt32.ofNat_add, UInt32.ofNat_toNat]
  have hi' : 1 + i + k.toNat - 1 = k.toNat + i := by omega
  rw [h1, hk, Binding.key_ofNat (by omega), Binding.key_ofNat (by omega),
    Parameters.renumber_name, hi']

end Renames

namespace Binding

theorem log_renamed {bs : List Binding} (h : Renames ρ n k bs.length) (m : Memory) :
    (log n bs m).map (Prod.map ρ id) = log k bs m := by
  induction bs generalizing n k m with
  | nil => rfl
  | cons b bs ih =>
    have ht : Renames ρ (n + 1) (k + 1) bs.length := by
      rw [List.length_cons, Nat.add_comm] at h
      exact h.append.2
    rw [log, log, List.map_cons, ih ht, Prod.map, h.head, id]

end Binding

namespace Phrase

@[simp] theorem faults_rekeyed (strategy : Strategy) (ρ : String → String) (p : Phrase) :
    p.faults (strategy.rekeyed ρ) = p.faults strategy := by
  induction p using parts_induction with
  | text | parameter | property | fail => rfl
  | needs style => rfl
  | join separator parts ih =>
    rw [faults, faults, faultsOfAll_eq, faultsOfAll_eq]
    exact List.flatMap_congr ih

theorem wordings_rekeyed {ps : List Phrase} (ih : ∀ p ∈ ps, ∀ n k : UInt32,
      Renames ρ n k p.bindings.length →
        p.wording (strategy.rekeyed ρ) n = p.wording strategy k)
    (h : Renames ρ n k (ps.flatMap bindings).length) :
    wordings (strategy.rekeyed ρ) n ps = wordings strategy k ps := by
  induction ps generalizing n k with
  | nil => rfl
  | cons p ps ihs =>
    rw [List.forall_mem_cons] at ih
    rw [List.flatMap_cons, List.length_append] at h
    rw [wordings, wordings, ih.1 n k h.append.1, ihs ih.2 h.append.2]

/-- A phrase that is worded with other numbers has the placeholders of the other keys. -/
theorem wording_rekeyed {p : Phrase} (h : Renames ρ n k p.bindings.length) :
    p.wording (strategy.rekeyed ρ) n = p.wording strategy k := by
  induction p using parts_induction generalizing n k with
  | text s => rfl
  | parameter column d =>
    rw [wording, wording]
    exact congrArg (strategy.parameter column strategy.parameterPath) h.head
  | property column path name => cases path <;> rfl
  | needs style => rfl
  | fail e => rfl
  | join separator parts ih =>
    rw [bindings, bindingsOfAll_eq] at h
    rw [wording, wording, wordings_rekeyed (fun p hp n k h => ih p hp h) h]

end Phrase

end SqlStatement
