import Mathlib.Data.List.Nodup
import SqlStatement.Fragment
import SqlStatement.Proofs.Parameters.Writes

/-! # Merging parameters

A map is made from the empty one by insertions and merges, in whatever order. All that can be asked
of it is told by the writes that made it: names stand in the order of their first write, each with
the value of the last. To merge is to go on writing, so that it does not matter which two of three
maps are merged first, nor whether an empty map is replaced or filled, also where names meet.
-/

namespace SqlStatement

namespace Parameters

/-- The map is made from the empty one by these writes, also as the parameters of a fragment. -/
inductive Made : List (String × Value) → Parameters → Prop
  | empty : Made [] ∅
  | ofList (writes : List (String × Value)) : Made writes (ofList writes)
  | insert {writes : List (String × Value)} {p : Parameters} (h : Made writes p) (key : String)
      (value : Value) : Made (writes ++ [(key, value)]) (p.insert key value)
  | extend {writes writes' : List (String × Value)} {p q : Parameters} (hp : Made writes p)
      (hq : Made writes' q) : Made (writes ++ writes') (p.extend q)
  | withParameter {writes : List (String × Value)} {f : Fragment} (h : Made writes f.parameters)
      (key : String) (value : Value) :
      Made (writes ++ [(key, value)]) (f.withParameter key value).parameters
  | withParameters {writes writes' : List (String × Value)} {f : Fragment} {p : Parameters}
      (hf : Made writes f.parameters) (hp : Made writes' p) :
      Made (writes ++ writes') (f.withParameters p).parameters
  | append {writes writes' : List (String × Value)} {f g : Fragment}
      (hf : Made writes f.parameters) (hg : Made writes' g.parameters) :
      Made (writes ++ writes') (f ++ g).parameters

section Writes

variable {k : String} {v : Value} {kvs : List (String × Value)}

theorem keys_put (k : String) (v : Value) (kvs : List (String × Value)) :
    (put k v kvs).map Prod.fst =
      if k ∈ kvs.map Prod.fst then kvs.map Prod.fst else kvs.map Prod.fst ++ [k] := by
  split
  next h =>
    induction kvs with
    | nil => simp at h
    | cons kv kvs ih =>
      by_cases he : kv.1 = k
      · simp [put, he]
      · have hm : k ∈ kvs.map Prod.fst := by simpa [Ne.symm he] using h
        simp [put, he, ih hm]
  next h => rw [put_of_notMem h, List.map_append, List.map_singleton]

theorem keys_puts (writes : List (String × Value)) :
    (puts [] writes).map Prod.fst = (writes.map Prod.fst).eraseDups := by
  induction writes using List.reverseRecOn with
  | nil => rfl
  | append_singleton writes w ih =>
    have hp : puts [] (writes ++ [w]) = put w.1 w.2 (puts [] writes) := puts_append ..
    rw [hp, keys_put, ih, List.map_append, List.eraseDups_append]
    by_cases h : w.1 ∈ writes.map Prod.fst
    · simp [h, List.removeAll]
    · simp [h, List.removeAll, List.eraseDups_cons]

theorem lookup_puts (writes : List (String × Value)) (k : String) :
    (puts [] writes).lookup k = writes.reverse.lookup k := by
  induction writes using List.reverseRecOn with
  | nil => rfl
  | append_singleton writes w ih =>
    have hp : puts [] (writes ++ [w]) = put w.1 w.2 (puts [] writes) := puts_append ..
    rw [hp, lookup_put, ih, List.reverse_append, List.reverse_singleton, List.singleton_append,
      List.lookup_cons]
    split
    next h => simp [h]
    next h => rw [beq_false_of_ne h]

theorem mem_iff_lookup (h : (kvs.map Prod.fst).Nodup) : (k, v) ∈ kvs ↔ kvs.lookup k = some v := by
  constructor
  · intro hm
    obtain ⟨i, hi⟩ := List.mem_iff_getElem?.1 hm
    exact lookup_of_getElem? hi h
  · intro hl
    obtain ⟨before, after, rfl, -⟩ := List.lookup_eq_some_iff.1 hl
    simp

theorem getElem?_foldl_insert (kvs : List (String × Value)) (k : String) :
    (kvs.foldl (fun m kv => m.insert kv.1 kv.2) (∅ : Std.TreeMap String Value))[k]? =
      kvs.reverse.lookup k := by
  induction kvs using List.reverseRecOn with
  | nil => simp
  | append_singleton kvs kv ih =>
    rw [List.foldl_append, List.foldl_cons, List.foldl_nil, Std.TreeMap.getElem?_insert, ih,
      List.reverse_append, List.reverse_singleton, List.singleton_append, List.lookup_cons]
    by_cases h : k = kv.1
    · simp [h]
    · rw [beq_false_of_ne h, if_neg fun he => h (Std.LawfulEqOrd.eq_of_compare he).symm]

end Writes

/-- The index and all views of the map show its entries. -/
structure Coherent (p : Parameters) : Prop where
  index : ∀ (key : String) (i : Nat),
    p.index[key]? = some i ↔ (p.entries[i]?).map Prod.fst = some key
  nodup : p.keys.Nodup
  size : p.size = p.keys.length
  isEmpty : p.isEmpty = true ↔ p.size = 0
  zip : p.keys.zip p.values = p.toList
  get : ∀ key value, p.get? key = some value ↔ (key, value) ∈ p.toList
  contains : ∀ key, p.contains key = true ↔ key ∈ p.keys
  sorted : p.sorted.Perm p.toList
  ordered : p.sorted.Pairwise fun kv kv' => compare kv.1 kv'.1 = .lt

/-- The same entries in the same order, found in the same places. -/
structure Alike (p q : Parameters) : Prop where
  entries : p.entries = q.entries
  index : ∀ key : String, p.index[key]? = q.index[key]?
  get : ∀ key, p.get? key = q.get? key

/-- What is shown of a map leaves nothing of it open. -/
theorem Coherent.alike {p q : Parameters} (hp : p.Coherent) (hq : q.Coherent)
    (hk : p.keys = q.keys) (hg : ∀ key, p.get? key = q.get? key) : p.Alike q := by
  have hv : ∀ kv ∈ p.toList, ∀ kv' ∈ q.toList, kv.1 = kv'.1 → kv = kv' := by
    rintro ⟨key, value⟩ hm ⟨_, value'⟩ hm' rfl
    have he : some value = some value' := by
      rw [← (hp.get key value).2 hm, hg, (hq.get key value').2 hm']
    rw [Option.some.inj he]
  have hl : p.toList = q.toList := by
    have hn : p.toList.length = q.toList.length := by simpa [keys] using congrArg List.length hk
    refine List.ext_getElem hn fun i hi hi' => ?_
    have hki : (p.toList[i]).1 = (q.toList[i]).1 := by
      simpa [keys, hi, hi'] using congrArg (·[i]?) hk
    exact hv _ (List.getElem_mem hi) _ (List.getElem_mem hi') hki
  have he : p.entries = q.entries := Array.toList_inj.1 hl
  refine ⟨he, fun key => Option.ext fun i => ?_, hg⟩
  rw [hp.index, hq.index, he]

namespace Indexed

variable {p q r : Parameters}

theorem alike (hp : p.Indexed) (hq : q.Indexed) (h : p.toList = q.toList) : p.Alike q where
  entries := Array.toList_inj.1 h
  index key := by
    refine Option.ext fun i => ?_
    rw [hp key i, hq key i, keys, keys, h]
  get key := by rw [hp.get?_eq_lookup, hq.get?_eq_lookup, h]

theorem puts_toList (h : p.Indexed) : puts [] p.toList = p.toList := by
  have hn : (([] ++ p.toList).map Prod.fst).Nodup := h.nodup_keys
  exact puts_of_nodup hn

theorem mem_toList_iff (h : p.Indexed) {key : String} {value : Value} :
    (key, value) ∈ p.toList ↔ p.get? key = some value := by
  rw [h.get?_eq_lookup, mem_iff_lookup h.nodup_keys]

theorem mem_sorted_iff (h : p.Indexed) {key : String} {value : Value} :
    (key, value) ∈ p.sorted ↔ (key, value) ∈ p.toList := by
  rw [sorted, Std.TreeMap.mem_toList_iff_getElem?_eq_some, getElem?_foldl_insert, ← lookup_puts,
    h.puts_toList, mem_iff_lookup h.nodup_keys]

theorem contains_iff (h : p.Indexed) {key : String} : p.contains key = true ↔ key ∈ p.keys := by
  rw [contains, Option.isSome_iff_exists, keys, List.mem_map]
  constructor
  · rintro ⟨value, hv⟩
    exact ⟨(key, value), h.mem_toList_iff.2 hv, rfl⟩
  · rintro ⟨⟨_, value⟩, hm, rfl⟩
    exact ⟨value, h.mem_toList_iff.1 hm⟩

theorem coherent (h : p.Indexed) : p.Coherent where
  index key i := by rw [h key i, keys, List.getElem?_map, toList, Array.getElem?_toList]
  nodup := h.nodup_keys
  size := by simp [size, keys, toList]
  isEmpty := by simp [isEmpty, size]
  zip := (List.zip_of_prod rfl rfl).symm
  get _ _ := h.mem_toList_iff.symm
  contains _ := h.contains_iff
  sorted := by
    have hs : p.sorted.Nodup := Std.TreeMap.distinct_keys_toList.imp fun {kv kv'} hne he => by
      rw [he] at hne
      exact hne Std.ReflCmp.compare_self
    have hn : p.toList.Nodup := List.Nodup.of_map Prod.fst h.nodup_keys
    exact (List.perm_ext_iff_of_nodup hs hn).2 fun _ => h.mem_sorted_iff
  ordered := Std.TreeMap.ordered_keys_toList

end Indexed

end Parameters

structure Fragment.Alike (f g : Fragment) : Prop where
  text : f.text = g.text
  parameters : f.parameters.Alike g.parameters

namespace Parameters

namespace Indexed

variable {p q r : Parameters}

theorem toList_extend_eq_puts (hp : p.Indexed) (hq : q.Indexed) :
    (p.extend q).toList = puts p.toList q.toList :=
  hp.toList_extend hq

theorem extend_alike_insertMany (hp : p.Indexed) (hq : q.Indexed) :
    (p.extend q).Alike (p.insertMany q.toList) :=
  (hp.extend hq).alike (hp.insertMany _) <| by
    rw [hp.toList_extend_eq_puts hq, hp.toList_insertMany]
    rfl

theorem extend_extend_alike (hp : p.Indexed) (hq : q.Indexed) (hr : r.Indexed) :
    ((p.extend q).extend r).Alike (p.extend (q.extend r)) := by
  refine ((hp.extend hq).extend hr).alike (hp.extend (hq.extend hr)) ?_
  have hqr : (q.extend r).toList = puts [] (q.toList ++ r.toList) := by
    rw [hq.toList_extend_eq_puts hr, puts_append, hq.puts_toList]
  calc ((p.extend q).extend r).toList
      = puts (puts p.toList q.toList) r.toList := by
        rw [(hp.extend hq).toList_extend_eq_puts hr, hp.toList_extend_eq_puts hq]
    _ = puts p.toList (q.toList ++ r.toList) := (puts_append ..).symm
    _ = (p.extend (q.extend r)).toList :=
        (hp.toList_extend_of_writes (hq.extend hr) hqr).symm

theorem extend_empty_alike (hp : p.Indexed) : (p.extend ∅).Alike p :=
  (hp.extend indexed_empty).alike hp (hp.toList_extend_eq_puts indexed_empty)

end Indexed

section Many

variable {p : Parameters} {ps : List Parameters}

theorem Indexed.foldl_extend (hp : p.Indexed) (h : ∀ q ∈ ps, q.Indexed) :
    (ps.foldl Parameters.extend p).Indexed ∧
      (ps.foldl Parameters.extend p).toList = puts p.toList (ps.flatMap toList) := by
  induction ps generalizing p with
  | nil => exact ⟨hp, rfl⟩
  | cons q ps ih =>
    rw [List.forall_mem_cons] at h
    obtain ⟨hi, he⟩ := ih (hp.extend h.1) h.2
    refine ⟨hi, ?_⟩
    rw [List.foldl_cons, he, hp.toList_extend_eq_puts h.1, List.flatMap_cons, puts_append]

theorem lookup_reverse_flatMap (h : ∀ q ∈ ps, q.Indexed) (key : String) :
    (ps.flatMap toList).reverse.lookup key = ps.reverse.findSome? fun q => q.get? key := by
  induction ps with
  | nil => rfl
  | cons q ps ih =>
    rw [List.forall_mem_cons] at h
    have hq : q.toList.reverse.lookup key = q.get? key := by
      rw [← lookup_puts, h.1.puts_toList, h.1.get?_eq_lookup]
    rw [List.flatMap_cons, List.reverse_append, List.lookup_append, ih h.2, hq, List.reverse_cons,
      List.findSome?_append, List.findSome?_singleton]

end Many

/-- What holds of three maps that are merged, and of fragments with their texts. -/
structure Merging (p q r : Parameters) : Prop where
  shortcut : (p.extend q).Alike (p.insertMany q.toList)
  assoc : ((p.extend q).extend r).Alike (p.extend (q.extend r))
  empty_extend : (∅ : Parameters).extend p = p
  extend_empty : (p.extend ∅).Alike p
  append_assoc : ∀ s t u : String,
    (⟨s, p⟩ ++ ⟨t, q⟩ ++ ⟨u, r⟩ : Fragment).Alike (⟨s, p⟩ ++ (⟨t, q⟩ ++ ⟨u, r⟩))
  empty_append : ∀ s : String, (∅ ++ ⟨s, p⟩ : Fragment) = ⟨s, p⟩
  append_empty : ∀ s : String, (⟨s, p⟩ ++ ∅ : Fragment).Alike ⟨s, p⟩

theorem Indexed.merging {p q r : Parameters} (hp : p.Indexed) (hq : q.Indexed) (hr : r.Indexed) :
    Merging p q r where
  shortcut := hp.extend_alike_insertMany hq
  assoc := hp.extend_extend_alike hq hr
  empty_extend := rfl
  extend_empty := hp.extend_empty_alike
  append_assoc _ _ _ := ⟨String.append_assoc, hp.extend_extend_alike hq hr⟩
  empty_append _ := congrArg (Fragment.mk · p) String.empty_append
  append_empty _ := ⟨String.append_empty, hp.extend_empty_alike⟩

namespace Made

variable {p q r : Parameters} {writes writes' writes'' : List (String × Value)}

theorem indexed (h : Made writes p) : p.Indexed := by
  induction h with
  | empty => exact indexed_empty
  | ofList writes => exact indexed_ofList writes
  | insert _ key value ih | withParameter _ key value ih => exact ih.insert key value
  | extend _ _ ihp ihq | withParameters _ _ ihp ihq | append _ _ ihp ihq => exact ihp.extend ihq

theorem toList_eq (h : Made writes p) : p.toList = puts [] writes := by
  induction h with
  | empty => rfl
  | ofList writes => exact toList_ofList writes
  | insert h key value ih | withParameter h key value ih =>
    rw [puts_append, ← ih]
    exact h.indexed.toList_insert key value
  | extend hp hq ihp ihq | withParameters hp hq ihp ihq | append hp hq ihp ihq =>
    rw [puts_append, ← ihp]
    exact hp.indexed.toList_extend_of_writes hq.indexed ihq

/-- A map that is made by writes holds their names in the order of the first write, each with the
value of the last, and shows the same entries however it is looked at. It is merged with others in
any grouping, and with empty ones to no effect. -/
theorem last_write_wins (hp : Made writes p) (hq : Made writes' q) (hr : Made writes'' r) :
    p.Coherent ∧ p.keys = (writes.map Prod.fst).eraseDups ∧
      (∀ key, p.get? key = writes.reverse.lookup key) ∧ Merging p q r := by
  refine ⟨hp.indexed.coherent, ?_, fun key => ?_, hp.indexed.merging hq.indexed hr.indexed⟩
  · rw [keys, hp.toList_eq, keys_puts]
  · rw [hp.indexed.get?_eq_lookup, hp.toList_eq, lookup_puts]

/-- The second map has a name of the first. -/
theorem last_write_wins_of_overlap :
    let p := ((singleton "p2" (.int 2)).insert "p1" (.int 1)).insert "p2" (.int 22)
    let q := Parameters.ofList [("p3", .int 3), ("p1", .int 11)]
    Made [("p2", .int 2), ("p1", .int 1), ("p2", .int 22), ("p3", .int 3), ("p1", .int 11)]
        (p.extend q) ∧
      (p.extend q).keys = ["p2", "p1", "p3"] ∧ (p.extend q).get? "p1" = some (.int 11) ∧
      Merging (p.extend q) q ∅ := by
  intro p q
  have hq : Made _ q := .ofList _
  have h : Made _ (p.extend q) := .extend (.insert (.insert (.insert .empty _ _) _ _) _ _) hq
  obtain ⟨-, hk, hg, hm⟩ := last_write_wins h hq .empty
  exact ⟨h, hk, hg "p1", hm⟩

end Made

end Parameters

end SqlStatement
