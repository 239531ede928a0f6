import SqlStatement.Parameters

/-! # The index of parameters

The index of a map holds the names of its entries, each at its position. Every operation keeps
this, and so each is an operation on the list of entries: an insertion changes the entry of its
name or comes last, and a search finds the only entry of a name.
-/

namespace SqlStatement.Parameters

/-- Each name stands in the index at its position among the entries, and nothing else does. -/
def Indexed (p : Parameters) : Prop :=
  ∀ (key : String) (i : Nat), p.index[key]? = some i ↔ p.keys[i]? = some key

theorem indexed_empty : empty.Indexed := by
  intro key i
  simp [empty, keys, toList]

namespace Indexed

variable {p q : Parameters}

theorem nodup_keys (h : p.Indexed) : p.keys.Nodup := by
  rw [List.nodup_iff_pairwise_ne, List.pairwise_iff_getElem]
  intro i j hi hj hij he
  have h₁ := (h _ _).2 (List.getElem?_eq_getElem hi)
  have h₂ := (h _ _).2 (List.getElem?_eq_getElem hj)
  rw [he, h₂] at h₁
  exact Nat.ne_of_gt hij (Option.some.inj h₁)

theorem index_eq_none (h : p.Indexed) {key : String} : p.index[key]? = none ↔ key ∉ p.keys := by
  rw [List.mem_iff_getElem?, Option.eq_none_iff_forall_ne_some, not_exists]
  exact forall_congr' fun i => not_congr (h key i)

end Indexed

def put (key : String) (value : Value) : List (String × Value) → List (String × Value)
  | [] => [(key, value)]
  | kv :: kvs => if kv.1 = key then (key, value) :: kvs else kv :: put key value kvs

section Put

variable {key : String} {value : Value} {kvs : List (String × Value)}

theorem put_of_notMem (h : key ∉ kvs.map Prod.fst) : put key value kvs = kvs ++ [(key, value)] := by
  induction kvs with
  | nil => rfl
  | cons kv kvs ih =>
    simp only [List.map_cons, List.mem_cons, not_or] at h
    simp [put, Ne.symm h.1, ih h.2]

theorem put_of_getElem? {i : Nat} (h : (kvs.map Prod.fst)[i]? = some key)
    (hn : (kvs.map Prod.fst).Nodup) : put key value kvs = kvs.set i (key, value) := by
  induction kvs generalizing i with
  | nil => simp at h
  | cons kv kvs ih =>
    rw [List.map_cons, List.nodup_cons] at hn
    cases i with
    | zero => simp_all [put]
    | succ i =>
      simp only [List.map_cons, List.getElem?_cons_succ] at h
      have hne : kv.1 ≠ key := fun e => hn.1 (e ▸ List.mem_of_getElem? h)
      simp [put, hne, ih h hn.2]

theorem lookup_put (k : String) :
    (put key value kvs).lookup k = if k = key then some value else kvs.lookup k := by
  induction kvs with
  | nil => grind [put]
  | cons kv kvs ih => by_cases h : kv.1 = key <;> grind [put]

theorem lookup_of_getElem? {i : Nat} (h : kvs[i]? = some (key, value))
    (hn : (kvs.map Prod.fst).Nodup) : kvs.lookup key = some value := by
  induction kvs generalizing i with
  | nil => simp at h
  | cons kv kvs ih =>
    rw [List.map_cons, List.nodup_cons] at hn
    cases i with
    | zero => simp_all
    | succ i =>
      rw [List.getElem?_cons_succ] at h
      have hne : key ≠ kv.1 := fun e => hn.1 (e ▸ List.mem_map_of_mem (List.mem_of_getElem? h))
      rw [List.lookup_cons, beq_false_of_ne hne]
      exact ih h hn.2

theorem lookup_of_notMem (h : key ∉ kvs.map Prod.fst) : kvs.lookup key = none := by
  rw [List.lookup_eq_none_iff]
  intro kv hm
  have hne : key ≠ kv.1 := fun e => h (e ▸ List.mem_map_of_mem hm)
  simpa using hne

theorem foldl_put_of_nodup {lvs : List (String × Value)}
    (h : ((kvs ++ lvs).map Prod.fst).Nodup) :
    lvs.foldl (fun l kv => put kv.1 kv.2 l) kvs = kvs ++ lvs := by
  induction lvs generalizing kvs with
  | nil => simp
  | cons lv lvs ih =>
    have hm : lv.1 ∉ kvs.map Prod.fst := by
      rw [List.map_append, List.nodup_append] at h
      exact fun hk => h.2.2 _ hk _ (by simp) rfl
    rw [List.foldl_cons, put_of_notMem hm, ih (by simpa using h)]
    simp

end Put

namespace Indexed

variable {p q : Parameters}

theorem toList_insert (h : p.Indexed) (key : String) (value : Value) :
    (p.insert key value).toList = put key value p.toList := by
  unfold Parameters.insert
  split
  next i hi => rw [put_of_getElem? ((h key i).1 hi) h.nodup_keys]; simp [toList]
  next hi => rw [put_of_notMem (h.index_eq_none.1 hi)]; simp [toList]

theorem insert (h : p.Indexed) (key : String) (value : Value) : (p.insert key value).Indexed := by
  intro k j
  rw [keys, h.toList_insert]
  unfold Parameters.insert
  split
  next i hi =>
    have hk := (h key i).1 hi
    rw [put_of_getElem? hk h.nodup_keys, List.map_set, h k j]
    have hs : p.keys.set i key = p.keys := by
      refine List.ext_getElem? fun m => ?_
      rw [List.getElem?_set]
      split <;> grind
    exact hs ▸ Iff.rfl
  next hi =>
    have hk := h.index_eq_none.1 hi
    have hl : p.keys.length = p.entries.size := by simp [keys, toList]
    rw [put_of_notMem hk, List.map_append, Std.TreeMap.getElem?_insert]
    simp only [Std.LawfulEqOrd.compare_eq_iff_eq]
    change _ ↔ (p.keys ++ [key])[j]? = some k
    rw [List.getElem?_append, ← hl]
    split
    next e => subst e; grind
    next e => rw [h k j]; grind

theorem toList_insertMany (h : p.Indexed) (kvs : List (String × Value)) :
    (p.insertMany kvs).toList = kvs.foldl (fun l kv => put kv.1 kv.2 l) p.toList := by
  induction kvs generalizing p with
  | nil => rfl
  | cons kv kvs ih => rw [insertMany_cons, ih (h.insert _ _), h.toList_insert]; rfl

theorem insertMany (h : p.Indexed) (kvs : List (String × Value)) : (p.insertMany kvs).Indexed := by
  induction kvs generalizing p with
  | nil => exact h
  | cons kv kvs ih => exact ih (h.insert _ _)

theorem extend (h : p.Indexed) (hq : q.Indexed) : (p.extend q).Indexed := by
  unfold Parameters.extend
  split
  · exact hq
  · exact h.insertMany _

/-- Replacing an empty map outright and inserting into it come to the same. -/
theorem toList_extend (h : p.Indexed) (hq : q.Indexed) :
    (p.extend q).toList = q.toList.foldl (fun l kv => put kv.1 kv.2 l) p.toList := by
  unfold Parameters.extend
  split
  next he =>
    have hp : p.toList = [] := by simpa [isEmpty, toList] using he
    rw [hp]
    have hn : (([] ++ q.toList).map Prod.fst).Nodup := hq.nodup_keys
    exact (foldl_put_of_nodup hn).symm
  · exact h.toList_insertMany _

end Indexed

theorem indexed_ofList (kvs : List (String × Value)) : (ofList kvs).Indexed :=
  indexed_empty.insertMany kvs

theorem Indexed.get?_eq_lookup {p : Parameters} (h : p.Indexed) (key : String) :
    p.get? key = p.toList.lookup key := by
  unfold get?
  cases hi : p.index[key]? with
  | none => exact (lookup_of_notMem (h.index_eq_none.1 hi)).symm
  | some i =>
    have hk := (h key i).1 hi
    rw [keys, List.getElem?_map, Option.map_eq_some_iff] at hk
    obtain ⟨kv, hkv, rfl⟩ := hk
    rw [lookup_of_getElem? hkv h.nodup_keys]
    rw [toList, Array.getElem?_toList] at hkv
    simp [hkv]

end SqlStatement.Parameters
