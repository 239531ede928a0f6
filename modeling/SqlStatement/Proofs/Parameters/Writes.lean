import Mathlib.Data.List.Induction
import SqlStatement.Parameters.Index

/-! # Parameters as written

A map is known from the writes that made it. To write the entries of a map into another map comes
to the same as to repeat the writes themselves, also where names meet.
-/

namespace SqlStatement.Parameters

/-- Entries after further writes. -/
def puts (kvs writes : List (String × Value)) : List (String × Value) :=
  writes.foldl (fun l kv => put kv.1 kv.2 l) kvs

section Put

variable {k k' : String} {v v' : Value} {kvs lvs : List (String × Value)}

@[simp] theorem puts_nil (kvs : List (String × Value)) : puts kvs [] = kvs := rfl

@[simp] theorem puts_cons (kvs : List (String × Value)) (kv : String × Value)
    (writes : List (String × Value)) :
    puts kvs (kv :: writes) = puts (put kv.1 kv.2 kvs) writes := rfl

theorem puts_append (kvs writes writes' : List (String × Value)) :
    puts kvs (writes ++ writes') = puts (puts kvs writes) writes' := by
  simp only [puts, List.foldl_append]

theorem puts_of_nodup (h : ((kvs ++ lvs).map Prod.fst).Nodup) : puts kvs lvs = kvs ++ lvs :=
  foldl_put_of_nodup h

theorem mem_keys_put (h : k ∈ kvs.map Prod.fst) : k ∈ (put k' v' kvs).map Prod.fst := by
  induction kvs with
  | nil => simp at h
  | cons kv kvs ih =>
    rw [put]
    split
    next he => simpa [he] using h
    next =>
      rcases List.mem_cons.1 h with rfl | hm
      · exact List.mem_cons_self
      · exact List.mem_cons_of_mem _ (ih hm)

theorem mem_keys_put_self : k ∈ (put k v kvs).map Prod.fst := by
  induction kvs with
  | nil => simp [put]
  | cons kv kvs ih => by_cases h : kv.1 = k <;> simp_all [put]

@[simp] theorem put_put (k : String) (v w : Value) (kvs : List (String × Value)) :
    put k v (put k w kvs) = put k v kvs := by
  induction kvs with
  | nil => simp [put]
  | cons kv kvs ih => by_cases h : kv.1 = k <;> simp [put, h, ih]

/-- A write to a name that is there already may be made before or after one to another name. -/
theorem put_comm (hne : k ≠ k') (h : k ∈ kvs.map Prod.fst) :
    put k v (put k' v' kvs) = put k' v' (put k v kvs) := by
  induction kvs with
  | nil => simp at h
  | cons kv kvs ih =>
    by_cases hk : kv.1 = k
    · have hk' : kv.1 ≠ k' := fun e => hne (hk.symm.trans e)
      simp [put, hk, hne]
    · have hm : k ∈ kvs.map Prod.fst := by simpa [Ne.symm hk] using h
      by_cases hk' : kv.1 = k'
      · simp [put, hk', Ne.symm hne]
      · simp [put, hk, hk', ih hm]

theorem put_puts_comm (h : k ∈ kvs.map Prod.fst) (hn : k ∉ lvs.map Prod.fst) :
    put k v (puts kvs lvs) = puts (put k v kvs) lvs := by
  induction lvs generalizing kvs with
  | nil => rfl
  | cons lv lvs ih =>
    rw [List.map_cons, List.mem_cons, not_or] at hn
    rw [puts_cons, ih (mem_keys_put h) hn.2, put_comm hn.1 h, puts_cons]

theorem puts_put (hn : (lvs.map Prod.fst).Nodup) :
    puts kvs (put k v lvs) = put k v (puts kvs lvs) := by
  induction lvs generalizing kvs with
  | nil => rfl
  | cons lv lvs ih =>
    rw [List.map_cons, List.nodup_cons] at hn
    by_cases h : lv.1 = k
    · subst h
      rw [puts_cons, put_puts_comm mem_keys_put_self hn.1, put_put]
      simp [put]
    · simp only [put, h, if_false, puts_cons]
      exact ih hn.2

end Put

theorem toList_ofList (writes : List (String × Value)) : (ofList writes).toList = puts [] writes :=
  indexed_empty.toList_insertMany writes

theorem nodup_puts (writes : List (String × Value)) : ((puts [] writes).map Prod.fst).Nodup := by
  rw [← toList_ofList]
  exact (indexed_ofList writes).nodup_keys

theorem puts_puts (kvs writes : List (String × Value)) :
    puts kvs (puts [] writes) = puts kvs writes := by
  induction writes using List.reverseRecOn with
  | nil => rfl
  | append_singleton writes w ih =>
    rw [puts_append, puts_append, ← ih]
    exact puts_put (nodup_puts writes)

theorem puts_flatMap_puts {α : Type} (kvs : List (String × Value))
    (writes : α → List (String × Value)) (groups : List (List α)) :
    puts kvs (groups.flatMap fun group => puts [] (group.flatMap writes)) =
      puts kvs (groups.flatten.flatMap writes) := by
  induction groups generalizing kvs with
  | nil => rfl
  | cons group groups ih =>
    rw [List.flatMap_cons, puts_append, puts_puts, ih, List.flatten_cons, List.flatMap_append,
      puts_append]

theorem Indexed.toList_extend_of_writes {p q : Parameters} (hp : p.Indexed) (hq : q.Indexed)
    {writes : List (String × Value)} (h : q.toList = puts [] writes) :
    (p.extend q).toList = puts p.toList writes := by
  rw [hp.toList_extend hq, h]
  exact puts_puts p.toList writes

theorem toList_singleton (key : String) (value : Value) :
    (singleton key value).toList = [(key, value)] := indexed_empty.toList_insert key value

theorem indexed_singleton (key : String) (value : Value) : (singleton key value).Indexed :=
  indexed_empty.insert key value

end SqlStatement.Parameters
