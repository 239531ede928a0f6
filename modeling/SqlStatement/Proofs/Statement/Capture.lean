import SqlStatement.Proofs.Phrase.Writing
import SqlStatement.Proofs.Statement.Qualifiers
import SqlStatement.Statement.Select

/-! # Columns that are named from outside

A block names the columns of its own tables itself, and leaves all others to the scopes around it,
which may not name them at all: a block that joins qualifies no more than these do. The order of a
select belongs to its block where there is only one. The order of several blocks belongs to none of
them, and is named by the scopes around the select even where a block reads the table.
-/

namespace SqlStatement

def Column.Qualified (c : Column) (text : String) : Prop := ∃ q, text = q ++ "." ++ c.name

theorem Column.not_qualified_name (c : Column) : ¬ c.Qualified c.name := by
  rintro ⟨q, h⟩
  have he : "" ++ c.name = q ++ "." ++ c.name := by rwa [String.empty_append]
  have hq : "" = q ++ "." := (String.append_left_inj c.name).1 he
  simpa using congrArg String.toList hq

namespace Scopes

/-- The innermost of the scopes that holds a table has an alias for it or qualifies all columns. -/
inductive Qualify (t : Table) : Scopes → Prop
  | alias {s : Scope} {outer : Scopes} {a : String} (ha : s.aliases.find? t.id = some a) :
      Qualify t (s :: outer)
  | name {s : Scope} {outer : Scopes} (ht : s.holds t = true) (hs : s.qualifiesAll = true) :
      Qualify t (s :: outer)
  | outside {s : Scope} {outer : Scopes} (ht : s.holds t = false) (ho : Qualify t outer) :
      Qualify t (s :: outer)

variable {σ τ : Scopes} {s : Scope} {t : Table} {c : Column}

theorem qualify_cons_of_holds (h : s.holds t = true) :
    Qualify t (s :: σ) ↔ (∃ a, s.aliases.find? t.id = some a) ∨ s.qualifiesAll = true := by
  constructor
  · rintro (⟨ha⟩ | ⟨-, hs⟩ | ⟨ht, -⟩)
    · exact .inl ⟨_, ha⟩
    · exact .inr hs
    · rw [h] at ht
      exact absurd ht.symm Bool.false_ne_true
  · rintro (⟨a, ha⟩ | hs)
    · exact .alias ha
    · exact .name h hs

theorem qualify_cons_of_not_holds (h : s.holds t = false) :
    Qualify t (s :: σ) ↔ Qualify t σ := by
  constructor
  · rintro (⟨ha⟩ | ⟨ht, -⟩ | ⟨-, ho⟩)
    · simp [Scope.holds, ha] at h
    · rw [h] at ht
      exact absurd ht Bool.false_ne_true
    · exact ho
  · exact .outside h

theorem qualifier_isSome_iff (σ : Scopes) (t : Table) :
    (σ.qualifier t).isSome = true ↔ σ.Qualify t := by
  induction σ with
  | nil => exact ⟨nofun, nofun⟩
  | cons s σ ih =>
    cases h : s.holds t with
    | false => rw [qualifier_cons_of_not_holds h, qualify_cons_of_not_holds h, ih]
    | true =>
      rw [qualifier_cons_of_holds h, qualify_cons_of_holds h, Scope.ownQualifier]
      cases s.aliases.find? t.id <;> cases s.qualifiesAll <;> simp

theorem qualified_columnName_iff (hc : c.qualifier = none) :
    c.Qualified (σ.columnName c) ↔ σ.Qualify c.table := by
  rw [← qualifier_isSome_iff, columnName, hc, Option.none_or]
  cases σ.qualifier c.table with
  | none => exact iff_of_false c.not_qualified_name Bool.false_ne_true
  | some q => exact iff_of_true ⟨q, rfl⟩ rfl

theorem columnName_of_not_qualify (hc : c.qualifier = none) (h : ¬ σ.Qualify c.table) :
    σ.columnName c = c.name := by
  rw [← qualifier_isSome_iff, Bool.not_eq_true, Option.isSome_eq_false_iff,
    Option.isNone_iff_eq_none] at h
  rw [columnName, hc, h, Option.none_or]

theorem columnName_eq_iff (hc : c.qualifier = none) :
    σ.columnName c = τ.columnName c ↔ σ.qualifier c.table = τ.qualifier c.table := by
  have hq (q : String) : c.name ≠ q ++ "." ++ c.name := fun h => c.not_qualified_name ⟨q, h⟩
  rw [columnName, columnName, hc, Option.none_or, Option.none_or]
  cases σ.qualifier c.table with
  | none => cases τ.qualifier c.table <;> simp [hq]
  | some q =>
    cases τ.qualifier c.table with
    | none => simp [(hq q).symm]
    | some r =>
      have hr : q ++ "." ++ c.name = r ++ "." ++ c.name ↔ q = r := by
        rw [String.append_left_inj, String.append_left_inj]
      exact hr.trans Option.some_inj.symm

end Scopes

namespace Column

/-- In a block that joins, a column is qualified if the block holds its table or the scopes around
the block qualify it, and bare otherwise. -/
theorem qualified_joined_iff {b : QueryBlock} (hj : b.joins ≠ []) (σ : Scopes) {c : Column}
    (hc : c.qualifier = none) :
    ∃ text, (Expr.column c).phrase (b.scope :: σ) = .text text ∧
      (c.Qualified text ↔ b.scope.holds c.table = true ∨ σ.Qualify c.table) ∧
      (¬ c.Qualified text → text = c.name) := by
  refine ⟨Scopes.columnName (b.scope :: σ) c, by rw [Expr.phrase], ?_, fun h => ?_⟩
  · have hs : b.scope.qualifiesAll = true := by simpa [QueryBlock.scope] using hj
    rw [Scopes.qualified_columnName_iff hc]
    cases h : b.scope.holds c.table with
    | true => exact iff_of_true (.name h hs) (.inl rfl)
    | false => rw [Scopes.qualify_cons_of_not_holds h, or_iff_right Bool.false_ne_true]
  · rw [Scopes.qualified_columnName_iff hc] at h
    exact Scopes.columnName_of_not_qualify hc h

/-- A block that joins orders and items qualifies their columns, and a column of users only where
users have an alias outside. -/
theorem qualified_joined_iff_of_orders :
    let orders : Table := ⟨⟨0⟩, "orders"⟩
    let items : Table := ⟨⟨1⟩, "items"⟩
    let users : Table := ⟨⟨2⟩, "users"⟩
    let b := (SelectDraft.run [.from orders, .join .inner items none []]).current
    let outside : Scope := { aliases := .ofList [(⟨2⟩, "u")] }
    (∃ text, (Expr.column (orders.column "id")).phrase [b.scope] = .text text ∧
      (orders.column "id").Qualified text) ∧
    ∃ text, (Expr.column (users.column "id")).phrase [b.scope, outside] = .text text ∧
      (users.column "id").Qualified text := by
  intro orders items users b outside
  have hj : b.joins ≠ [] := List.cons_ne_nil _ _
  obtain ⟨text, ht, hq, -⟩ := qualified_joined_iff hj [] (c := orders.column "id") rfl
  obtain ⟨text', ht', hq', -⟩ := qualified_joined_iff hj [outside] (c := users.column "id") rfl
  exact ⟨⟨text, ht, hq.2 (.inl rfl)⟩, text', ht', hq'.2 (.inr (.alias rfl))⟩

end Column

namespace SelectDraft

def madeBy (user : Expr) : SelectDraft :=
  let orders : Table := ⟨⟨0⟩, "orders"⟩
  let items : Table := ⟨⟨1⟩, "items"⟩
  let column (t : Table) (name : String) : Expr := .column (t.column name)
  let same (d e : Expr) : Criterion := .compare d (.ofExpr .equalTo e)
  .run [.select [column orders "id"], .from orders,
    .join .inner items none [same (column items "order_id") (column orders "id")],
    .where .and (same (column orders "user_id") user)]

def buying (user : Column) : SelectDraft :=
  .run [.select [.column user], .from user.table,
    .where .and (.ofExists (madeBy (.column user)).build)]

end SelectDraft

set_option maxRecDepth 2048 in
/-- Users have no alias outside and nothing is joined there. Inside, where two tables are joined
that may have an `id` of their own, the reference to the users outside is bare. -/
theorem Column.bare_in_joined_block :
    let user : Column := (⟨⟨2⟩, "users"⟩ : Table).column "id"
    let b := (SelectDraft.madeBy (.column user)).current
    b.joins ≠ [] ∧
      (Expr.column user).phrase [b.scope, (SelectDraft.buying user).current.scope] = .text "id" ∧
      ¬ user.Qualified "id" ∧
      ∃ t, ((SelectDraft.buying user).build.render .springNamed).outcome {} =
        (.ok ⟨"select id from users where exists (select orders.id from orders " ++
          "join items on items.order_id = orders.id where orders.user_id = id)", ∅⟩, t) :=
  ⟨List.cons_ne_nil _ _, rfl, Column.not_qualified_name _, _, rfl⟩

theorem QueryBlock.holds_scope_of_reads {b : QueryBlock} {t : Table} (h : b.Reads t) :
    b.scope.holds t = true := by
  have ht : (b.tables.map Table.id).contains t.id = true := by simpa [Reads] using h
  rw [Scope.holds, scope, ht, Bool.or_true]

namespace SortItem

theorem text_eq_iff {σ τ : Scopes} {c : Column} (hl : c.label = none) (descending : Bool) :
    text σ ⟨.column c, descending⟩ = text τ ⟨.column c, descending⟩ ↔
      σ.columnName c = τ.columnName c := by
  have ht (σ : Scopes) : text σ ⟨.column c, descending⟩ =
      σ.columnName c ++ if descending then " DESC" else "" := by
    cases descending <;> simp [text, hl]
  rw [ht, ht, String.append_left_inj]

/-- A select with one block orders by a column of its tables under one name wherever it stands. One
with several blocks does so under the name that the scopes around it have for the column. -/
theorem text_orderScopes_iff (q : Select) {c : Column} (hc : c.qualifier = none)
    (hl : c.label = none) (ht : ∃ b ∈ q.blocks, b.Reads c.table) (descending : Bool)
    (σ τ : Scopes) :
    text (Select.orderScopes σ q.blocks) ⟨.column c, descending⟩ =
        text (Select.orderScopes τ q.blocks) ⟨.column c, descending⟩ ↔
      q.blocks.length = 1 ∨ σ.qualifier c.table = τ.qualifier c.table := by
  rw [text_eq_iff hl]
  obtain ⟨blocks, orderBy, paging⟩ := q
  rcases blocks with _ | ⟨b, _ | ⟨b', rest⟩⟩
  · obtain ⟨b, hb, -⟩ := ht
    exact absurd hb List.not_mem_nil
  · have hb : b.Reads c.table := by simpa using ht
    have hs : ∃ s ∈ [b.scope], s.holds c.table = true :=
      ⟨b.scope, .head _, QueryBlock.holds_scope_of_reads hb⟩
    refine iff_of_true ?_ (.inl rfl)
    exact (Scopes.columnName_append (.inr hs) σ).trans (Scopes.columnName_append (.inr hs) τ).symm
  · have hn : (b :: b' :: rest).length ≠ 1 := by simp
    exact (Scopes.columnName_eq_iff hc).trans (or_iff_right hn).symm

theorem text_orderScopes_iff_of_users :
    let users : Table := ⟨⟨0⟩, "users"⟩
    let id : SortItem := ⟨.column (users.column "id"), true⟩
    let σ : Scopes := [{ aliases := .ofList [(⟨0⟩, "x")] }]
    let alone := (SelectDraft.run [.from users]).build
    let chained := (SelectDraft.run [.from users, .combine .union, .from users]).build
    text (Select.orderScopes σ alone.blocks) id = text (Select.orderScopes [] alone.blocks) id ∧
      text (Select.orderScopes σ chained.blocks) id ≠
        text (Select.orderScopes [] chained.blocks) id := by
  intro users id σ alone chained
  constructor
  · exact (text_orderScopes_iff alone rfl rfl (by decide) true σ []).2 (.inl rfl)
  · rw [Ne, text_orderScopes_iff chained rfl rfl (by decide) true σ []]
    decide

end SortItem

namespace Select

def firstFive (user : Column) : Select :=
  let orders : Table := ⟨⟨1⟩, "orders"⟩
  (SelectDraft.run [.select [.column user], .from user.table, .combine .union,
    .select [.column (orders.column "user_id")], .from orders, .orderBy [⟨.column user, false⟩],
    .limit 5]).build

def amongFirst (user : Column) : Select :=
  (SelectDraft.run [.select [.column user], .fromAs user.table "x",
    .where .and (.compare (.column user) (.amongSelected .positive (firstFive user)))]).build

end Select

set_option maxRecDepth 2048 in
/-- The order of the union is the order by `id` where it stands alone, and an order by `x.id` where
the users outside are called `x`. -/
theorem SortItem.order_captured :
    let user : Column := (⟨⟨0⟩, "users"⟩ : Table).column "id"
    (∃ b ∈ (Select.firstFive user).blocks, b.Reads user.table) ∧
      (∃ t, ((Select.firstFive user).render .springNamed).outcome {} =
        (.ok ⟨"select id from users union select user_id from orders order by id limit :p1",
          .ofList [("p1", .unsigned 5)]⟩, t)) ∧
      ∃ t, ((Select.amongFirst user).render .springNamed).outcome {} =
        (.ok ⟨"select x.id from users x where x.id in (select id from users " ++
          "union select user_id from orders order by x.id limit :p1)",
          .ofList [("p1", .unsigned 5)]⟩, t) :=
  ⟨by decide, ⟨_, rfl⟩, _, rfl⟩

end SqlStatement
