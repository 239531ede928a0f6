import SqlStatement.Proofs.Query.Columns
import SqlStatement.Proofs.Statement.Alignment
import SqlStatement.Proofs.Statement.Nested
import SqlStatement.Proofs.Statement.Qualifiers

/-! # The columns of a statement in its text

A finished select, update or delete names its columns under the scopes that are open where they
stand: the names are in its text in the order of the columns, those that an update assigns to
included.
-/

namespace SqlStatement

/-- The text of a column in its place, where an update or delete may stand around the blocks. -/
def Site.nameIn (changed : Option Target) (x : Site) : Option String :=
  match x.part with
  | .column c => some ((x.nesting.openScopes changed).columnName c)
  | _ => none

theorem Site.nameIn_eq_some_iff {changed : Option Target} {x : Site} {text : String} :
    x.nameIn changed = some text ↔
      ∃ c, x.part = .column c ∧
        (Expr.column c).phrase (x.nesting.openScopes changed) = .text text := by
  obtain ⟨n, part⟩ := x
  cases part <;> simp [nameIn, Expr.phrase]

def Content.sites : Content → List Site
  | .expr e => e.sites {}
  | .subselect query => query.sites {}
  | _ => []

def Mapping.sites (m : Mapping) : List Site :=
  if m.isAbsent then [] else ⟨{}, .column m.target⟩ :: m.content.sites

def Reach.sites (r : Reach) : List Site :=
  Criterion.allSites {} r.criteria.criteria ++ r.orderBy.flatMap (SortItem.sites {})

def Update.sites (u : Update) : List Site := u.mappings.flatMap Mapping.sites ++ u.reach.sites

def Delete.sites (d : Delete) : List Site := d.reach.sites

open Phrase (Bears BearAll)

section Changes

variable (σ : Scopes)

theorem Reach.bearAll_phrases (r : Reach) :
    BearAll (r.sites.filterMap (Site.name? σ)) (r.phrases σ) := by
  have hc := (Chain.bearAll_phrase? (Criterion.bearAll_chain σ {} r.criteria.criteria)).clause
    "where"
  have hr := (hc.append (SortItem.bearAll_clause σ {} r.orderBy)).append
    (.silent ((r.limit.map fun n => Paging.phrases ⟨.limitOffset, some n, none⟩).getD []))
  rw [List.append_nil, ← List.filterMap_append] at hr
  exact hr

theorem Mapping.bearAll_phrase? (m : Mapping) :
    BearAll (m.content.sites.filterMap (Site.name? σ)) (m.phrase? σ .none .update).toList := by
  obtain ⟨target, content⟩ := m
  cases content with
  | expr e => exact BearAll.singleton_iff.2 (Expr.bears_phrase σ {} e)
  | subselect query => exact BearAll.singleton_iff.2 ((Select.bears_phrase σ {} query).between _ _)
  | _ => exact .silent _

theorem Update.bearAll_assignment? (m : Mapping) :
    BearAll (m.sites.filterMap (Site.name? σ)) (assignment? σ m).toList := by
  have hn : Site.name? σ ⟨{}, .column m.target⟩ = some (σ.columnName m.target) := rfl
  rw [assignment?, Mapping.sites, apply_ite (List.filterMap (Site.name? σ)),
    List.filterMap_cons_some hn]
  refine .optional (·.map _ |>.toList) Mapping.phrase?_eq_none_iff (m.bearAll_phrase? σ) rfl
    fun p hp => BearAll.singleton_iff.2 fun strategy n => ?_
  rw [Phrase.wording_after]
  exact ((Text.Spread.self _).ahead " = ").append (hp strategy n)

theorem Update.bears_assignments (u : Update) :
    (u.assignments σ).Bears ((u.mappings.flatMap Mapping.sites).filterMap (Site.name? σ)) := by
  have h := BearAll.flatMap (bearAll_assignment? σ) u.mappings
  rw [← List.filterMap_flatMap, ← List.filterMap_eq_flatMap_toList] at h
  rw [assignments]
  cases hp : u.mappings.filterMap (assignment? σ) with
  | nil =>
    rw [hp] at h
    rw [BearAll.nil_iff.1 h]
    exact .silent _
  | cons p ps => exact (hp ▸ h.join ", ").after _

end Changes

section Statements

variable {strategy : Strategy} {kind : StatementKind} {p : Phrase} {s u : Session} {st : Statement}
  {names : List String}

theorem Phrase.Bears.spread_statement (h : p.Bears names)
    (ho : (p.statement kind strategy).outcome s = (.ok st, u)) : Text.Spread names st.sql := by
  obtain ⟨-, g, hg, rfl⟩ := Phrase.written_of_statement ho
  have ht : (Statement.ofFragment g).sql = p.wording strategy 1 := hg.text
  rw [ht]
  exact h strategy 1

/-- The columns of a finished select are written under the scopes of their places. -/
theorem Select.spread_columns (q : Select) (h : (q.render strategy).outcome s = (.ok st, u)) :
    Text.Spread ((q.sites {}).filterMap (Site.nameIn none)) st.sql :=
  (q.bears_phrase [] {}).spread_statement h

theorem Target.spread_clauses {target : Target} {keyword : String}
    {clauses : Scopes → List Phrase} {sites : List Site}
    (hb : ∀ σ, BearAll (sites.filterMap (Site.name? σ)) (clauses σ))
    (h : ((Phrase.ofTable kind target.table fun t =>
      .words (.text (keyword ++ Scopes.tableName [target.scope t] t) ::
        clauses [target.scope t])).statement kind strategy).outcome s = (.ok st, u)) :
    Text.Spread (sites.filterMap (Site.nameIn (some target))) st.sql := by
  obtain ⟨t, ht, hp⟩ := Phrase.ofTable_of_faultless (Phrase.written_of_statement h).1
  have hs : Site.nameIn (some target) = Site.name? [target.scope t] := by
    have ho : target.scopes = [target.scope t] := by
      rw [Target.scopes, ht, Option.map_some, Option.toList_some]
    rw [← ho]
    rfl
  rw [hp] at h
  rw [hs]
  exact ((BearAll.cons (.silent _) (hb _)).join " ").spread_statement h

/-- The columns of a finished update are written under the scopes of their places. -/
theorem Update.spread_columns (d : Update) (h : (d.render strategy).outcome s = (.ok st, u)) :
    Text.Spread (d.sites.filterMap (Site.nameIn (some d.target))) st.sql := by
  have hb (σ : Scopes) : BearAll (d.sites.filterMap (Site.name? σ))
      (d.assignments σ :: d.reach.phrases σ) := by
    rw [sites, List.filterMap_append]
    exact .cons (d.bears_assignments σ) (d.reach.bearAll_phrases σ)
  exact Target.spread_clauses hb h

theorem Delete.spread_columns (d : Delete) (h : (d.render strategy).outcome s = (.ok st, u)) :
    Text.Spread (d.sites.filterMap (Site.nameIn (some d.target))) st.sql :=
  Target.spread_clauses (fun σ => d.reach.bearAll_phrases σ) h

end Statements

set_option maxRecDepth 2048 in
/-- Tables with the same name in and around a select. -/
example :
    let orders : Table := ⟨⟨0⟩, "orders"⟩
    let users : Table := ⟨⟨1⟩, "users"⟩
    let former : Table := ⟨⟨2⟩, "users"⟩
    let id (t : Table) : Expr := .column (t.column "id")
    let same (t u : Table) : Criterion := .compare (id t) (.ofExpr .equalTo (id u))
    let inner : Select := (SelectDraft.run [.select [id orders], .fromAs orders "p",
      .where .and (same users former)]).build
    let outer : Select := (SelectDraft.run [.select [id users], .fromAs orders "o",
      .join .inner users none [same orders users], .where .and (.ofExists inner)]).build
    let d : Delete :=
      { target := ⟨some former, some "u"⟩, reach := { criteria := ⟨[.ofExists outer]⟩ } }
    d.phrase.wording .springNamed 1 =
      "delete from users u where exists (select users.id from orders o join users " ++
        "on o.id = users.id where exists (select p.id from orders p where users.id = u.id))" ∧
      d.sites.filterMap (Site.nameIn (some d.target)) =
        ["users.id", "o.id", "users.id", "p.id", "users.id", "u.id"] := by
  exact ⟨rfl, rfl⟩

end SqlStatement
