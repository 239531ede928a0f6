import SqlStatement.Proofs.Query.Resolution
import SqlStatement.Proofs.Query.Sites
import SqlStatement.Statement.Update

/-! # Qualifiers and clauses

A column is qualified as the clause of its table says: by the alias that stands behind the table, or
by the table's name where the block joins. The clause is that of the innermost block that reads the
table, or of the update or delete around all blocks. Tables are told apart by identity alone.
-/

namespace SqlStatement

/-- The text of a column, where the clause of its table has the text `printed` for the table. -/
inductive Column.Follows (c : Column) (t : Table) (printed : String) (joined : Prop) :
    String → Prop
  | aliased (a : String) (h : printed = t.name ++ " " ++ a) :
      Follows c t printed joined (a ++ "." ++ c.name)
  | named (h : printed = t.name) (hj : joined) :
      Follows c t printed joined (c.table.name ++ "." ++ c.name)
  | bare (h : printed = t.name) (hj : ¬ joined) : Follows c t printed joined c.name

namespace QueryBlock

/-- The block reads the table in its from clause or in a join. -/
def Reads (b : QueryBlock) (t : Table) : Prop := ∃ u ∈ b.tables, u.id = t.id

instance (b : QueryBlock) (t : Table) : Decidable (b.Reads t) :=
  inferInstanceAs (Decidable (∃ u ∈ b.tables, u.id = t.id))

/-- The block gives aliases to no tables but its own. -/
def AliasesOwn (b : QueryBlock) : Prop :=
  ∀ id name, b.aliases.find? id = some name → ∃ u ∈ b.tables, u.id = id

theorem holds_scope_iff {b : QueryBlock} (h : b.AliasesOwn) {t : Table} :
    b.scope.holds t = true ↔ b.Reads t := by
  have ht : (b.tables.map Table.id).contains t.id = true ↔ b.Reads t := by
    simp [Reads]
  rw [Scope.holds, Bool.or_eq_true, scope, ht]
  constructor
  · rintro (ha | hr)
    · obtain ⟨name, ha⟩ := Option.isSome_iff_exists.1 ha
      exact h t.id name ha
    · exact hr
  · exact .inr

end QueryBlock

namespace QueryBlock.AliasesOwn

variable {b d : QueryBlock}

theorem mono (h : b.AliasesOwn) (ha : d.aliases = b.aliases) (ht : ∀ u ∈ b.tables, u ∈ d.tables) :
    d.AliasesOwn := by
  intro id name hf
  rw [ha] at hf
  obtain ⟨u, hu, hid⟩ := h id name hf
  exact ⟨u, ht u hu, hid⟩

theorem insert {t : Table} {a : String} (h : b.AliasesOwn)
    (ha : d.aliases = b.aliases.insert t.id a) (ht : ∀ u ∈ b.tables, u ∈ d.tables)
    (hm : t ∈ d.tables) : d.AliasesOwn := by
  intro id name hf
  rw [ha, Aliases.find?_insert] at hf
  split at hf
  · next hid => exact ⟨t, hm, hid.symm⟩
  · obtain ⟨u, hu, hid⟩ := h id name hf
    exact ⟨u, ht u hu, hid⟩

theorem opened (k : Option SetOperator) : (QueryBlock.opened k).AliasesOwn :=
  fun _ _ hf => nomatch hf

end QueryBlock.AliasesOwn

namespace SelectStep

def isFrom : SelectStep → Bool
  | .from _ | .fromAs .. | .fromSubquery .. => true
  | _ => false

/-- Whether the block at hand has been told what it starts from, after the call. -/
def tells (told : Bool) : SelectStep → Bool
  | combine _ => false
  | .from _ | fromAs .. | fromSubquery .. => true
  | _ => told

/-- No block is told twice what it starts from; the block at hand may have been told. A second call
would replace the table and leave its alias behind. -/
def FromOnce (told : Bool) : List SelectStep → Prop
  | [] => True
  | step :: steps => (step.isFrom = true → told = false) ∧ FromOnce (step.tells told) steps

instance decidableFromOnce : (told : Bool) → (steps : List SelectStep) →
    Decidable (FromOnce told steps)
  | _, [] => inferInstanceAs (Decidable True)
  | told, step :: steps =>
    have := decidableFromOnce (step.tells told) steps
    inferInstanceAs (Decidable ((step.isFrom = true → told = false) ∧ _))

end SelectStep

namespace SelectDraft

/-- All blocks give aliases to their own tables, and the block at hand has no table to lose unless
it has been told what it starts from. -/
structure AliasesOwn (told : Bool) (d : SelectDraft) : Prop where
  closed : ∀ b ∈ d.closed, b.AliasesOwn
  current : d.current.AliasesOwn
  source : told = false → d.current.source = none

theorem mem_tables_addJoin (d : SelectDraft) (j : Join) {u : Table}
    (hu : u ∈ d.current.tables ++ j.source.table?.toList) :
    u ∈ (d.addJoin j).current.tables := by
  have ht : (d.addJoin j).current.tables = d.current.tables ++ j.source.table?.toList := by
    rw [addJoin, QueryBlock.tables, QueryBlock.tables, List.map_append, ← List.append_assoc,
      List.filterMap_append]
    cases hj : j.source.table? <;> simp [hj]
  rwa [ht]

namespace AliasesOwn

variable {told : Bool} {d : SelectDraft}

theorem keep {e : SelectDraft} (h : d.AliasesOwn told) (hc : e.closed = d.closed)
    (hs : e.current.source = d.current.source) (ha : e.current.aliases = d.current.aliases)
    (hj : e.current.joins = d.current.joins) : e.AliasesOwn told := by
  have ht : e.current.tables = d.current.tables := by
    rw [QueryBlock.tables, hs, hj, QueryBlock.tables]
  refine ⟨hc ▸ h.closed, h.current.mono ha fun u hu => ?_, fun hn => ?_⟩
  · exact ht ▸ hu
  · exact hs.trans (h.source hn)

theorem mem_tables_fromSource (h : d.AliasesOwn told) (hn : told = false) (s : Source) {u : Table}
    (hu : u ∈ s.table?.toList ++ d.current.tables) : u ∈ (d.fromSource s).current.tables := by
  rw [QueryBlock.tables, h.source hn, Option.toList_none, List.nil_append] at hu
  rw [fromSource, QueryBlock.tables, Option.toList_some, List.singleton_append, List.filterMap_cons]
  cases hs : s.table? with
  | none => simpa [hs] using hu
  | some t => simpa [hs] using hu

theorem step (h : d.AliasesOwn told) (step : SelectStep) (hn : step.isFrom = true → told = false) :
    (d.step step).AliasesOwn (step.tells told) := by
  cases step with
  | «from» t =>
    have ht : ∀ u ∈ d.current.tables, u ∈ (d.fromSource (.table t)).current.tables :=
      fun u hu => mem_tables_fromSource h (hn rfl) _ (List.mem_append_right _ hu)
    exact ⟨h.closed, h.current.mono rfl ht, nofun⟩
  | fromAs t a =>
    -- The alias is that of the table that the block starts from now.
    have ht : ∀ u ∈ t :: d.current.tables, u ∈ (d.fromSource (.table t)).current.tables :=
      fun u hu => mem_tables_fromSource h (hn rfl) _ hu
    rw [List.forall_mem_cons] at ht
    exact ⟨h.closed, h.current.insert rfl ht.2 ht.1, nofun⟩
  | fromSubquery q a =>
    have ht : ∀ u ∈ d.current.tables, u ∈ (d.fromSource (.subquery q a)).current.tables :=
      fun u hu => mem_tables_fromSource h (hn rfl) _ (List.mem_append_right _ hu)
    exact ⟨h.closed, h.current.mono rfl ht, nofun⟩
  | join k t a cs =>
    have ht : ∀ u ∈ d.current.tables ++ [t], u ∈ (d.addJoin ⟨k, .table t, cs⟩).current.tables :=
      fun u hu => d.mem_tables_addJoin ⟨k, .table t, cs⟩ hu
    rw [List.forall_mem_append, List.forall_mem_singleton] at ht
    cases a with
    | none => exact ⟨h.closed, h.current.mono rfl ht.1, h.source⟩
    | some a => exact ⟨h.closed, h.current.insert rfl ht.1 ht.2, h.source⟩
  | joinSubquery k q a cs =>
    have ht : ∀ u ∈ d.current.tables, u ∈ (d.addJoin ⟨k, .subquery q a, cs⟩).current.tables :=
      fun u hu => d.mem_tables_addJoin _ (List.mem_append_left _ hu)
    exact ⟨h.closed, h.current.mono rfl ht, h.source⟩
  | combine k =>
    refine ⟨fun b hb => ?_, .opened _, fun _ => rfl⟩
    rcases List.mem_append.1 hb with hb | hb
    · exact h.closed b hb
    · obtain rfl := List.mem_singleton.1 hb
      exact h.current
  | _ => exact h.keep rfl rfl rfl rfl

theorem run (steps : List SelectStep) (hs : SelectStep.FromOnce told steps)
    (h : d.AliasesOwn told) : ∃ told, (steps.foldl SelectDraft.step d).AliasesOwn told := by
  induction steps generalizing told d with
  | nil => exact ⟨told, h⟩
  | cons step steps ih => exact ih hs.2 (h.step step hs.1)

end AliasesOwn

theorem aliasesOwn_build {steps : List SelectStep} (hs : SelectStep.FromOnce false steps) :
    ∀ b ∈ (run steps).build.blocks, b.AliasesOwn := by
  have h : ({} : SelectDraft).AliasesOwn false := ⟨nofun, .opened none, fun _ => rfl⟩
  obtain ⟨told, hd⟩ := h.run steps hs
  intro b hb
  rcases List.mem_append.1 hb with hb | hb
  · exact hd.closed b hb
  · obtain rfl := List.mem_singleton.1 hb
    exact hd.current

end SelectDraft

namespace Target

/-- The scopes of the statement that changes the target. -/
def scopes (target : Target) : Scopes := (target.table.map target.scope).toList

theorem scope_qualifiesAll (target : Target) (t : Table) :
    (target.scope t).qualifiesAll = false := rfl

theorem find?_aliases_of_ne (target : Target) {t u : Table} (h : u.id ≠ t.id) :
    (target.scope u).aliases.find? t.id = none := by
  rw [scope]
  cases target.aliasName with
  | none => rfl
  | some a =>
    have hi : (Aliases.empty.insert u.id a).find? t.id = none := by
      rw [Aliases.find?_insert, if_neg h.symm, Aliases.find?_empty]
    exact hi

end Target

namespace Nesting

/-- The scopes that are open inside the blocks, where an update or delete may stand around them. -/
def openScopes (n : Nesting) (changed : Option Target) : Scopes :=
  n.scopes ++ (changed.map Target.scopes).getD []

end Nesting

namespace Column.Follows

theorem ne_append (s a : String) : s ≠ s ++ " " ++ a := by
  intro h
  rw [String.append_assoc] at h
  have he : s ++ "" = s ++ (" " ++ a) := by rwa [String.append_empty]
  have hs : "" = " " ++ a := (String.append_right_inj s).1 he
  simpa using congrArg String.toList hs

variable {c : Column} {t : Table} {joined : Prop} {text : String}

theorem iff_of_aliased (a : String) :
    Follows c t (t.name ++ " " ++ a) joined text ↔ text = a ++ "." ++ c.name := by
  constructor
  · rintro (⟨b, h⟩ | ⟨h, -⟩ | ⟨h, -⟩)
    · have hb : a = b := (String.append_right_inj _).1 h
      rw [hb]
    · exact absurd h.symm (ne_append t.name a)
    · exact absurd h.symm (ne_append t.name a)
  · rintro rfl
    exact .aliased a rfl

theorem iff_of_named (hj : joined) :
    Follows c t t.name joined text ↔ text = c.table.name ++ "." ++ c.name := by
  constructor
  · rintro (⟨a, h⟩ | - | ⟨-, hn⟩)
    · exact absurd h (ne_append t.name a)
    · rfl
    · exact absurd hj hn
  · rintro rfl
    exact .named rfl hj

theorem iff_of_bare (hj : ¬ joined) : Follows c t t.name joined text ↔ text = c.name := by
  constructor
  · rintro (⟨a, h⟩ | ⟨-, h⟩ | -)
    · exact absurd h (ne_append t.name a)
    · exact absurd h hj
    · rfl
  · rintro rfl
    exact .bare rfl hj

end Column.Follows

namespace Scopes

variable {c : Column} {t : Table} {s : Scope} {σ : Scopes}

theorem qualifier_singleton (h : s.qualifiesAll = false) (t : Table) :
    qualifier [s] t = s.aliases.find? t.id := by
  cases hs : s.holds t with
  | true =>
    rw [qualifier_cons_of_holds hs, Scope.ownQualifier, h, if_neg Bool.false_ne_true,
      Option.or_none]
  | false =>
    have ha : (s.aliases.find? t.id).isSome = false := (Bool.or_eq_false_iff.1 hs).1
    rw [Option.isSome_eq_false_iff, Option.isNone_iff_eq_none] at ha
    rw [qualifier_cons_of_not_holds hs, qualifier_nil, ha]

theorem columnName_iff_follows (hc : c.qualifier = none) (ht : t.id = c.table.id)
    (hσ : σ.qualifier c.table = s.ownQualifier c.table) (outer : Scopes) {text : String} :
    σ.columnName c = text ↔
      c.Follows t (tableName (s :: outer) t) (s.qualifiesAll = true) text := by
  have ha : tableAlias (s :: outer) t = s.aliases.find? c.table.id := by rw [← ht]; rfl
  rw [columnName, tableName, ha, hc, hσ, Scope.ownQualifier, Option.none_or]
  cases s.aliases.find? c.table.id with
  | some a => exact eq_comm.trans (Column.Follows.iff_of_aliased a).symm
  | none =>
    cases s.qualifiesAll with
    | true => exact eq_comm.trans (Column.Follows.iff_of_named rfl).symm
    | false => exact eq_comm.trans (Column.Follows.iff_of_bare Bool.false_ne_true).symm

end Scopes

namespace Target

theorem qualifier_scopes_of_ne {changed : Option Target} {t : Table}
    (h : ∀ target ∈ changed, ∀ u ∈ target.table, u.id ≠ t.id) :
    Scopes.qualifier ((changed.map scopes).getD []) t = none := by
  cases changed with
  | none => rfl
  | some target =>
    rw [Option.map_some, Option.getD_some, scopes]
    cases hu : target.table with
    | none => rfl
    | some u =>
      exact (Scopes.qualifier_singleton (target.scope_qualifiesAll u) t).trans
        (target.find?_aliases_of_ne (h target rfl u hu))

end Target

namespace Nesting

variable {n : Nesting} {t : Table}

theorem qualifier_scopes_append (hn : ∀ b ∈ n.blocks, b.AliasesOwn)
    (ht : ∀ b ∈ n.blocks, ¬ b.Reads t) (σ : Scopes) :
    Scopes.qualifier (n.scopes ++ σ) t = Scopes.qualifier σ t := by
  refine Scopes.qualifier_append_of_not_holds (fun s hs => ?_) σ
  obtain ⟨b, hb, rfl⟩ := List.mem_map.1 hs
  rw [Bool.eq_false_iff, ne_eq, QueryBlock.holds_scope_iff (hn b hb)]
  exact ht b hb

theorem qualifier_openScopes {changed : Option Target} {inner outer : List QueryBlock}
    {b : QueryBlock} (hb : n.blocks = inner ++ b :: outer) (hn : ∀ b ∈ n.blocks, b.AliasesOwn)
    (hi : ∀ d ∈ inner, ¬ d.Reads t) (ht : b.Reads t) :
    Scopes.qualifier (n.openScopes changed) t = b.scope.ownQualifier t := by
  rw [hb, List.forall_mem_append, List.forall_mem_cons] at hn
  obtain ⟨hin, hbn, -⟩ := hn
  have hs : n.openScopes changed =
      scopes ⟨inner⟩ ++ (b.scope :: openScopes ⟨outer⟩ changed) := by
    simp [openScopes, scopes, hb]
  rw [hs, qualifier_scopes_append hin hi,
    Scopes.qualifier_cons_of_holds ((QueryBlock.holds_scope_iff hbn).2 ht)]

end Nesting

namespace Column

/-- A column is named as the clause of its table says: by itself where no clause around it has the
table, as the innermost block that reads the table says where there is one, and else as the update
or delete says. -/
theorem follows_clause (n : Nesting) (changed : Option Target) (c : Column)
    (hc : c.qualifier = none) (hn : ∀ b ∈ n.blocks, b.AliasesOwn) :
    ((∀ b ∈ n.blocks, ¬ b.Reads c.table) →
      (∀ target ∈ changed, ∀ t ∈ target.table, t.id ≠ c.table.id) →
      (Expr.column c).phrase (n.openScopes changed) = .text c.name) ∧
    (∀ inner b outer t printed, n.blocks = inner ++ b :: outer →
      (∀ d ∈ inner, ¬ d.Reads c.table) → t ∈ b.tables → t.id = c.table.id →
      (Source.table t).phrase (b.scope :: Nesting.openScopes ⟨outer⟩ changed) = .text printed →
      ∀ text, (Expr.column c).phrase (n.openScopes changed) = .text text ↔
        c.Follows t printed (b.joins ≠ []) text) ∧
    (∀ target t, changed = some target → target.table = some t → t.id = c.table.id →
      (∀ b ∈ n.blocks, ¬ b.Reads c.table) →
      ∀ text, (Expr.column c).phrase (n.openScopes changed) = .text text ↔
        c.Follows t (target.scopes.tableName t) False text) := by
  simp only [Expr.phrase, Phrase.text.injEq]
  refine ⟨fun hr hw => ?_, ?_, ?_⟩
  · have hq : Scopes.qualifier (n.openScopes changed) c.table = none := by
      rw [Nesting.openScopes, Nesting.qualifier_scopes_append hn hr,
        Target.qualifier_scopes_of_ne hw]
    rw [Scopes.columnName, hc, hq, Option.none_or]
  · intro inner b outer t printed hb hi ht hid hp text
    have hq : Scopes.qualifier (n.openScopes changed) c.table = b.scope.ownQualifier c.table :=
      Nesting.qualifier_openScopes hb hn hi ⟨t, ht, hid⟩
    have hj : (b.scope.qualifiesAll = true) = (b.joins ≠ []) := by simp [QueryBlock.scope]
    rw [Source.phrase, Phrase.text.injEq] at hp
    rw [Scopes.columnName_iff_follows hc hid hq (Nesting.openScopes ⟨outer⟩ changed), hp, hj]
  · rintro target t rfl ht hid hr text
    have hs : (some target |>.map Target.scopes).getD [] = [target.scope t] := by
      rw [Option.map_some, Option.getD_some, Target.scopes, ht, Option.map_some, Option.toList_some]
    have hq : Scopes.qualifier (n.openScopes (some target)) c.table =
        (target.scope t).ownQualifier c.table := by
      rw [Nesting.openScopes, Nesting.qualifier_scopes_append hn hr, hs,
        Scopes.qualifier_singleton (target.scope_qualifiesAll t), Scope.ownQualifier,
        target.scope_qualifiesAll, if_neg Bool.false_ne_true, Option.or_none]
    have hj : ((target.scope t).qualifiesAll = true) = False := by
      rw [target.scope_qualifiesAll, eq_false Bool.false_ne_true]
    rw [Scopes.columnName_iff_follows hc hid hq [], hj, Target.scopes, ht, Option.map_some,
      Option.toList_some]

/-- Four tables, two of them of one name, in a select inside a select inside a delete: the inner
block reads `orders` again, the outer one joins `users` without an alias, and the other `users` is
what rows are deleted from. -/
theorem follows_clause_of_nested :
    let orders : Table := ⟨⟨0⟩, "orders"⟩
    let users : Table := ⟨⟨1⟩, "users"⟩
    let former : Table := ⟨⟨2⟩, "users"⟩
    let inner := (SelectDraft.run [.fromAs orders "p"]).build
    let outer := (SelectDraft.run [.fromAs orders "o", .join .inner users none []]).build
    let σ := Nesting.openScopes ⟨inner.blocks ++ outer.blocks⟩ (some ⟨some former, some "u"⟩)
    (Expr.column (orders.column "id")).phrase σ = .text "p.id" ∧
      (Expr.column (users.column "id")).phrase σ = .text "users.id" ∧
      (Expr.column (former.column "id")).phrase σ = .text "u.id" ∧
      (Expr.column ((⟨⟨3⟩, "users"⟩ : Table).column "id")).phrase σ = .text "id" := by
  intro orders users former inner outer σ
  have hn : ∀ b ∈ inner.blocks ++ outer.blocks, b.AliasesOwn := by
    rw [List.forall_mem_append]
    exact ⟨SelectDraft.aliasesOwn_build (by decide), SelectDraft.aliasesOwn_build (by decide)⟩
  have hc (t : Table) := follows_clause ⟨inner.blocks ++ outer.blocks⟩
    (some ⟨some former, some "u"⟩) (t.column "id") rfl hn
  refine ⟨?_, ?_, ?_, ?_⟩
  · exact ((hc orders).2.1 [] _ outer.blocks orders "orders p" rfl nofun (.head _) rfl rfl _).2
      (.aliased "p" rfl)
  · exact ((hc users).2.1 inner.blocks _ [] users "users" rfl (by decide) (.tail _ (.head _)) rfl
      rfl _).2 (.named rfl (List.cons_ne_nil _ _))
  · exact ((hc former).2.2 ⟨some former, some "u"⟩ former rfl rfl rfl (by decide) _).2
      (.aliased "u" rfl)
  · exact (hc _).1 (by decide) (by rintro _ ⟨⟩ _ ⟨⟩; decide)

end Column

end SqlStatement
