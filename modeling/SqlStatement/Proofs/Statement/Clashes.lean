import SqlStatement.Proofs.Statement.Records

/-! # Names of properties and of parameters

With named parameters, the properties of a record and the values of the statement share their names.
A property that has the name of a parameter has its placeholder too, and one value is bound for
both.
-/

namespace SqlStatement

open Rendering

namespace Mapping

/-- With named parameters, the content reads as the placeholder with the key, though it binds no
value: a property of that name, or a text that spells the placeholder. -/
def readsAs (key : String) (m : Mapping) : Bool :=
  match m.content with
  | .property name => name == key
  | .constant text => text == ":" ++ key
  | _ => false

theorem ne_placeholder {s : String} (h : s.toList.head? ≠ some ':') (key : String) :
    s ≠ ":" ++ key := by
  rintro rfl
  simp at h

variable {paging : PagingSupport} {m : Mapping} {p : Phrase}

theorem binds_or_reads (hp : m.phrase? [] .row .insert = some p)
    (hf : p.faults (.springNamed paging) = []) :
    (∃ b, p.bindings = [b] ∧ (∀ n, p.wording (.springNamed paging) n = ":" ++ Binding.key n) ∧
      ∀ key, m.readsAs key = false) ∨
    (p.bindings = [] ∧
      ∀ n key, p.wording (.springNamed paging) n = ":" ++ key ↔ m.readsAs key = true) := by
  obtain ⟨target, content⟩ := m
  cases content with
  | absent => cases hp
  | null =>
    cases hp
    right
    have hs : "null".toList.head? ≠ some ':' := by decide
    exact ⟨rfl, fun n key => iff_of_false (ne_placeholder hs key) Bool.false_ne_true⟩
  | constant text =>
    cases hp
    right
    exact ⟨rfl, fun n key => by simp [Phrase.wording, readsAs]⟩
  | stringConstant text =>
    cases hp
    right
    refine ⟨rfl, fun n key => iff_of_false (ne_placeholder ?_ key) Bool.false_ne_true⟩
    simp [Phrase.wording, Text.quoteChars, Text.quoteMark]
  | value v =>
    cases hp
    left
    exact ⟨_, rfl, fun n => rfl, fun key => rfl⟩
  | supplied s =>
    cases hp
    left
    exact ⟨_, rfl, fun n => rfl, fun key => rfl⟩
  | property name =>
    cases hp
    right
    exact ⟨rfl, fun n key => by simp [Phrase.wording, readsAs, Strategy.springNamed]⟩
  | expr | subselect =>
    cases hp
    cases hf

/-- A key stands in the row as often as it is bound, and once more for each mapping that reads as
its placeholder. -/
theorem count_wordings {mappings : List Mapping}
    (hf : ∀ p ∈ mappings.filterMap (phrase? [] .row .insert),
      p.faults (.springNamed paging) = []) (n : UInt32) (memory : Memory) (key : String) :
    (Phrase.wordings (.springNamed paging) n
      (mappings.filterMap (phrase? [] .row .insert))).count (":" ++ key) =
    ((Binding.log n ((mappings.filterMap (phrase? [] .row .insert)).flatMap Phrase.bindings)
      memory).map Prod.fst).count key + mappings.countP (readsAs key) := by
  induction mappings generalizing n memory with
  | nil => rfl
  | cons m mappings ih =>
    cases hp : m.phrase? [] .row .insert with
    | none =>
      have hr : m.readsAs key = false := by
        have ha := phrase?_eq_none_iff.1 hp
        obtain ⟨target, content⟩ := m
        cases content with
        | absent => rfl
        | _ => cases ha
      rw [List.filterMap_cons_none hp] at hf ⊢
      rw [List.countP_cons_of_neg (by simp [hr])]
      exact ih hf n memory
    | some p =>
      rw [List.filterMap_cons_some hp] at hf ⊢
      rw [List.forall_mem_cons] at hf
      rw [Phrase.wordings, List.flatMap_cons, List.count_cons, List.countP_cons]
      rcases binds_or_reads hp hf.1 with ⟨b, hb, hw, hr⟩ | ⟨hb, hr⟩
      · have hk : ":" ++ Binding.key n = ":" ++ key ↔ Binding.key n = key :=
          String.append_right_inj ":"
        have ht := ih hf.2 (n + 1) (b.bound memory).2
        rw [hb, hw, hr, List.singleton_append, Binding.log, List.map_cons, List.count_cons]
        simp only [beq_iff_eq, hk, Bool.false_eq_true, if_false]
        change List.count _ (Phrase.wordings _ (n + 1) _) + _ = _
        omega
      · have hn : n + .ofNat p.bindings.length = n := by rw [hb]; exact UInt32.add_zero n
        have ht := ih hf.2 n memory
        rw [hn, hb, List.nil_append]
        simp only [beq_iff_eq, hr n key]
        omega

end Mapping

namespace Insert

variable {ρ : Type} {i : Insert ρ} {strategy : Strategy} {s u : Session} {r : RowStatement ρ}

def contents (i : Insert ρ) : List Phrase :=
  (RowPhrase.ofMappings i.insertion.mappings .row .insert).contents

theorem written_of_outcome (h : (i.render strategy).outcome s = (.ok r, u)) :
    (∃ t, i.insertion.table = some t ∧ r.sql = i.insertion.heading t ++ "(" ++
      Phrase.joined ", " (Phrase.wordings strategy 1 i.contents) ++ ")") ∧
    (∀ p ∈ i.contents, p.faults strategy = []) ∧
    ((i.insertion.mappings.flatMap Mapping.bindings).length < 2 ^ 32 - 1 →
      r.parameters.toList = Binding.log 1 (i.contents.flatMap Phrase.bindings) s.memory ∧
      r.parameters.keys = (List.range' 1
        (i.insertion.mappings.flatMap Mapping.bindings).length).map Parameters.name) := by
  have hm : ((Model.insert i).render strategy).outcome s =
      (.ok (some ⟨r.sql, r.parameters⟩), u) := by
    rw [Model.render, outcome_map, h]
    rfl
  obtain ⟨p, f, hp, hf, hst, hw, -⟩ := Model.written_of_outcome hm
  obtain ⟨hsql, hparameters⟩ : r.sql = f.text ∧ r.parameters = f.parameters := by
    simpa [Model.finished, Model.recordsOnly] using hst
  have hb : p.bindings = i.insertion.mappings.flatMap Mapping.bindings :=
    Model.binds_of_written hp hf
  have hplan : (Model.insert i).rowPlan? = some ⟨i.insertion, [.row], .insert⟩ := rfl
  obtain ⟨t, ht, -, rfl, hrows⟩ := Model.insertion_of_faultless hplan hp hf
  refine ⟨⟨t, ht, ?_⟩, hrows _ (List.mem_singleton_self _), fun hn => ⟨?_, ?_⟩⟩
  · have hg : Phrase.joined ", " (Phrase.wordings strategy 1
        [(RowPhrase.ofMappings i.insertion.mappings .row .insert).group]) =
          "(" ++ Phrase.joined ", " (Phrase.wordings strategy 1 i.contents) ++ ")" := by
      rw [Phrase.wordings, Phrase.wordings, Phrase.joined_singleton, RowPhrase.group,
        Phrase.wording_between, Phrase.wording, contents]
    have hx := hw.text
    rw [Phrase.wording_after, Phrase.wording] at hx
    refine (hsql.trans hx).trans ((congrArg (i.insertion.heading t ++ ·) hg).trans ?_)
    simp only [String.append_assoc]
  · have hl : (1 : UInt32).toNat + (i.insertion.mappings.flatMap Mapping.bindings).length ≤
        2 ^ 32 := by
      rw [UInt32.toNat_one]
      omega
    rw [hparameters, hw.toList_eq_log (hb ▸ hl)]
    simp [RowPlan.rows, RowPlan.row, RowPhrase.group, contents]
  · have hl := Model.parameters_of_outcome (m := .insert i) hn hm
    rw [Parameters.keys, hl, Parameters.keys_numbered, Binding.length_mapM_bound]
    rfl

/-- With named parameters, the row of a record has the placeholder of each parameter once, and once
more for each property that has its name and each text that spells it. The placeholder of a
parameter stands alone exactly if there are none of these. -/
theorem placeholder_once_iff (i : Insert ρ) (paging : PagingSupport) {s u : Session}
    {r : RowStatement ρ} (hn : (i.insertion.mappings.flatMap Mapping.bindings).length < 2 ^ 32 - 1)
    (h : (i.render (.springNamed paging)).outcome s = (.ok r, u)) :
    let texts := Phrase.wordings (.springNamed paging) 1 i.contents
    (∃ t, i.insertion.table = some t ∧
      r.sql = i.insertion.heading t ++ "(" ++ Phrase.joined ", " texts ++ ")") ∧
    r.parameters.keys = (List.range' 1
      (i.insertion.mappings.flatMap Mapping.bindings).length).map Parameters.name ∧
    ∀ key ∈ r.parameters.keys,
      texts.count (":" ++ key) = 1 + i.insertion.mappings.countP (·.readsAs key) ∧
      (texts.count (":" ++ key) = 1 ↔ ∀ m ∈ i.insertion.mappings, m.readsAs key = false) := by
  intro texts
  obtain ⟨hsql, hf, hp⟩ := written_of_outcome h
  obtain ⟨hlog, hkeys⟩ := hp hn
  refine ⟨hsql, hkeys, ?_⟩
  intro key hkey
  have hnodup : r.parameters.keys.Nodup := by
    rw [hkeys]
    exact List.Nodup.map Parameters.name_injective List.nodup_range'
  have hc : texts.count (":" ++ key) = 1 + i.insertion.mappings.countP (·.readsAs key) := by
    have hcontents : i.contents =
        i.insertion.mappings.filterMap (Mapping.phrase? [] .row .insert) :=
      RowPhrase.contents_ofMappings i.insertion.mappings .row .insert
    rw [← List.count_eq_one_of_mem hnodup hkey, Parameters.keys, hlog]
    simp only [texts, hcontents] at hf ⊢
    exact Mapping.count_wordings hf 1 s.memory key
  refine ⟨hc, ?_⟩
  have hz : texts.count (":" ++ key) = 1 ↔ i.insertion.mappings.countP (·.readsAs key) = 0 := by
    omega
  simp only [hz, List.countP_eq_zero, Bool.not_eq_true]

def named (property : String) : Insert Unit :=
  let t : Table := ⟨⟨0⟩, "t"⟩
  ⟨(), { table := some t, mappings := [⟨t.column "a", .value (.int 7)⟩,
    ⟨t.column "b", .property property⟩, ⟨t.column "c", .value (.int 8)⟩] }⟩

theorem placeholder_once_iff_of_named :
    (∃ r u, ((named "b").render .springNamed).outcome {} = (.ok r, u) ∧
      r.sql = "insert into t (a, b, c) values (:p1, :b, :p2)" ∧
      ∀ key ∈ r.parameters.keys,
        (Phrase.wordings .springNamed 1 (named "b").contents).count (":" ++ key) = 1) ∧
    ∃ r u, ((named "p2").render .springNamed).outcome {} = (.ok r, u) ∧
      r.sql = "insert into t (a, b, c) values (:p1, :p2, :p2)" ∧
      (Phrase.wordings .springNamed 1 (named "p2").contents).count ":p2" = 2 := by
  constructor
  · refine ⟨_, _, rfl, rfl, ?_⟩
    obtain ⟨-, hkeys, h⟩ := placeholder_once_iff (named "b") .all (s := {}) (by decide) rfl
    intro key hkey
    rw [(h key hkey).2]
    rw [hkeys] at hkey
    revert key
    decide
  · refine ⟨_, _, rfl, rfl, ?_⟩
    obtain ⟨-, hkeys, h⟩ := placeholder_once_iff (named "p2") .all (s := {}) (by decide) rfl
    exact (h "p2" (by rw [hkeys]; decide)).1

/-- A property with the name of a parameter: one placeholder stands for both in the row. -/
theorem placeholder_twice :
    let t : Table := ⟨⟨0⟩, "t"⟩
    let i : Insert Unit := ⟨(), { table := some t, mappings :=
      [⟨t.column "a", .property "p1"⟩, ⟨t.column "b", .value (.int 7)⟩] }⟩
    ∃ r u, (i.render .springNamed).outcome {} = (.ok r, u) ∧
      r.sql = "insert into t (a, b) values (:p1, :p1)" ∧ r.parameters.keys = ["p1"] ∧
      (Phrase.wordings .springNamed 1 i.contents).count ":p1" = 2 :=
  ⟨_, _, rfl, rfl, rfl, rfl⟩

end Insert

end SqlStatement
