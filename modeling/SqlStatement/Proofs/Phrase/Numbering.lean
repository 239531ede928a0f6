import Mathlib.Algebra.Ring.Nat
import Mathlib.Data.List.Nodup
import Std.Data.String.ToNat
import SqlStatement.Proofs.Phrase.Writing

/-! # Numbered parameters

The parameters of a statement are named by their numbers. As long as the numbers do not run over,
no name comes twice, and so nothing that is bound takes the place of anything else.
-/

namespace SqlStatement

namespace Parameters

def name (i : Nat) : String := "p" ++ toString i

def numbered (n : Nat) (values : List Value) : List (String × Value) :=
  (values.zipIdx n).map fun v => (name v.2, v.1)

theorem name_injective : Function.Injective name := by
  intro i j h
  exact Nat.repr_injective ((String.append_right_inj "p").1 h)

theorem keys_numbered (n : Nat) (values : List Value) :
    (numbered n values).map Prod.fst = (List.range' n values.length).map name := by
  rw [← List.zipIdx_map_snd n values, numbered, List.map_map, List.map_map]
  rfl

theorem nodup_keys_numbered (n : Nat) (values : List Value) :
    ((numbered n values).map Prod.fst).Nodup := by
  rw [keys_numbered]
  exact List.Nodup.map name_injective List.nodup_range'

end Parameters

namespace Binding

theorem key_ofNat {n : Nat} (h : n < 2 ^ 32) : key (.ofNat n) = Parameters.name n := by
  rw [key, UInt32.toNat_ofNat_of_lt' h, Parameters.name]

theorem remembered_eq_mapM (bs : List Binding) (m : Memory) :
    remembered bs m = ((bs.mapM bound).run m).2 := by
  induction bs generalizing m with
  | nil => rfl
  | cons b bs ih =>
    rw [remembered, ih, List.mapM_cons]
    rfl

theorem length_mapM_bound (bs : List Binding) (m : Memory) :
    ((bs.mapM bound).run m).1.length = bs.length := by
  induction bs generalizing m with
  | nil => rfl
  | cons b bs ih =>
    rw [List.mapM_cons]
    exact congrArg Nat.succ (ih (b.bound m).2)

theorem log_eq_numbered {n : Nat} (bs : List Binding) (m : Memory) (h : n + bs.length ≤ 2 ^ 32) :
    log (.ofNat n) bs m = Parameters.numbered n ((bs.mapM bound).run m).1 := by
  induction bs generalizing n m with
  | nil => rfl
  | cons b bs ih =>
    rw [List.length_cons] at h
    have hk : key (.ofNat n) = Parameters.name n := key_ofNat (by omega)
    have hn : UInt32.ofNat n + 1 = .ofNat (n + 1) := (UInt32.ofNat_add n 1).symm
    rw [log, hk, hn, ih _ (by omega), List.mapM_cons]
    rfl

end Binding

namespace Phrase

variable {strategy : Strategy} {p : Phrase} {s : Session} {f : Fragment}

/-- As long as the numbers do not run over, the parameters of what is written are the log of the
bindings. -/
theorem Written.toList_eq_log (hw : p.Written strategy s f)
    (h : s.next.toNat + p.bindings.length ≤ 2 ^ 32) :
    f.parameters.toList = Binding.log s.next p.bindings s.memory := by
  have hl : Binding.log s.next p.bindings s.memory =
      Parameters.numbered s.next.toNat ((p.bindings.mapM Binding.bound).run s.memory).1 := by
    rw [← Binding.log_eq_numbered _ _ h, UInt32.ofNat_toNat]
  exact hw.entries.trans
    (Parameters.puts_of_nodup (hl ▸ Parameters.nodup_keys_numbered _ _))

theorem Written.size_parameters (hw : p.Written strategy s f)
    (h : s.next.toNat + p.bindings.length ≤ 2 ^ 32) :
    f.parameters.size = p.bindings.length := by
  have hl : f.parameters.size = f.parameters.toList.length := Array.length_toList.symm
  rw [hl, hw.toList_eq_log h, Binding.length_log]

/-- The parameters of what is written are the values as they are bound, numbered from one. -/
theorem Written.parameters_eq (hw : p.Written strategy { s with next := 1 } f)
    (h : p.bindings.length < 2 ^ 32 - 1) :
    f.parameters.toList =
      Parameters.numbered 1 ((p.bindings.mapM Binding.bound).run s.memory).1 := by
  have hn : (1 : UInt32).toNat + p.bindings.length ≤ 2 ^ 32 := by
    rw [UInt32.toNat_one]
    omega
  exact (hw.toList_eq_log hn).trans (Binding.log_eq_numbered _ _ hn)

end Phrase

end SqlStatement
