import SqlStatement.Proofs.Phrase.Contents

/-! # Phrases about tables with other identities

A strategy is shown the columns that it makes placeholders for, and with them their tables. Where
the tables get other identities, a phrase is rendered as it was by a strategy that is shown the
columns under these identities. A strategy that does not look at identities renders it as before.
-/

namespace SqlStatement

variable {φ : TableId → TableId}

def Table.remap (φ : TableId → TableId) (t : Table) : Table := { t with id := φ t.id }

def Column.remap (φ : TableId → TableId) (c : Column) : Column :=
  { c with table := c.table.remap φ }

namespace Strategy

/-- The strategy that is shown every column under another identity of its table. -/
def comap (φ : TableId → TableId) (S : Strategy) : Strategy where
  name := S.name
  parameter column path key := S.parameter (column.map (Column.remap φ)) path key
  parameterPath := S.parameterPath
  record column name := S.record (column.remap φ) name
  indexedRecord column path name := S.indexedRecord (column.remap φ) path name
  supports := S.supports

/-- No placeholder tells the identity of a table. -/
structure IgnoresIdentity (S : Strategy) : Prop where
  parameter : ∀ φ column path key,
    S.parameter (column.map (Column.remap φ)) path key = S.parameter column path key
  record : ∀ φ column name, S.record (column.remap φ) name = S.record column name
  indexedRecord : ∀ φ column path name,
    S.indexedRecord (column.remap φ) path name = S.indexedRecord column path name

namespace IgnoresIdentity

theorem comap_eq {S : Strategy} (h : S.IgnoresIdentity) (φ : TableId → TableId) :
    S.comap φ = S := by
  have hp : (S.comap φ).parameter = S.parameter := by
    funext column path key
    exact h.parameter φ column path key
  have hr : (S.comap φ).record = S.record := by
    funext column name
    exact h.record φ column name
  have hi : (S.comap φ).indexedRecord = S.indexedRecord := by
    funext column path name
    exact h.indexedRecord φ column path name
  calc S.comap φ
    _ = { S with
          parameter := (S.comap φ).parameter
          record := (S.comap φ).record
          indexedRecord := (S.comap φ).indexedRecord } := rfl
    _ = S := by rw [hp, hr, hi]

theorem springNamed (paging : PagingSupport) : (Strategy.springNamed paging).IgnoresIdentity where
  parameter _ _ _ _ := rfl
  record _ _ _ := rfl
  indexedRecord _ _ _ _ := rfl

theorem positional (paging : PagingSupport) : (Strategy.positional paging).IgnoresIdentity where
  parameter _ _ _ _ := rfl
  record _ _ _ := rfl
  indexedRecord _ _ _ _ := rfl

theorem myBatis3 (path : String) (paging : PagingSupport) :
    (Strategy.myBatis3 path paging).IgnoresIdentity where
  parameter _ column _ _ := by cases column <;> rfl
  record _ _ _ := rfl
  indexedRecord _ _ _ _ := rfl

end IgnoresIdentity

end Strategy

namespace Phrase

mutual

def remap (φ : TableId → TableId) : Phrase → Phrase
  | text s => text s
  | parameter column datum => parameter (column.map (Column.remap φ)) datum
  | property column path name => property (column.remap φ) path name
  | needs style => needs style
  | fail e => fail e
  | join separator parts => join separator (remapAll φ parts)

def remapAll (φ : TableId → TableId) : List Phrase → List Phrase
  | [] => []
  | p :: ps => p.remap φ :: remapAll φ ps

end

theorem remapAll_eq (ps : List Phrase) : remapAll φ ps = ps.map (remap φ) := by
  induction ps with
  | nil => rfl
  | cons p ps ih => rw [remapAll, ih, List.map_cons]

@[simp] theorem remap_text (s : String) : (text s).remap φ = text s := by rw [remap]

@[simp] theorem remap_needs (style : PagingStyle) : (needs style).remap φ = needs style := by
  rw [remap]

@[simp] theorem remap_fail (e : RenderError) : (fail e).remap φ = fail e := by rw [remap]

@[simp] theorem remap_value (column : Option Column) (v : Value) :
    (value column v).remap φ = value (column.map (Column.remap φ)) v := by
  rw [value, remap, value]

@[simp] theorem remap_join (separator : String) (ps : List Phrase) :
    (join separator ps).remap φ = join separator (ps.map (remap φ)) := by
  rw [remap, remapAll_eq]

@[simp] theorem remap_concat (ps : List Phrase) :
    (concat ps).remap φ = concat (ps.map (remap φ)) := remap_join "" ps

@[simp] theorem remap_words (ps : List Phrase) :
    (words ps).remap φ = words (ps.map (remap φ)) := remap_join " " ps

@[simp] theorem remap_between (s t : String) (p : Phrase) :
    (between s p t).remap φ = between s (p.remap φ) t := by simp [between]

@[simp] theorem remap_after (s : String) (p : Phrase) :
    (after s p).remap φ = after s (p.remap φ) := by simp [after]

section Rendering

variable {S : Strategy}

theorem renderAll_remap {ps : List Phrase}
    (ih : ∀ p ∈ ps, (p.remap φ).render S = p.render (S.comap φ)) :
    renderAll S (ps.map (remap φ)) = renderAll (S.comap φ) ps := by
  induction ps with
  | nil => rfl
  | cons p ps ihs =>
    rw [List.forall_mem_cons] at ih
    rw [List.map_cons, renderAll, renderAll, ih.1, ihs ih.2]

theorem render_remap (S : Strategy) (p : Phrase) :
    (p.remap φ).render S = p.render (S.comap φ) := by
  induction p using parts_induction with
  | text s => rfl
  | parameter column d =>
    have hb (v : Value) : Rendering.bind S (column.map (Column.remap φ)) v =
        Rendering.bind (S.comap φ) column v := by
      cases column <;> rfl
    rw [remap, render, render, funext hb]
  | property column path name => cases path <;> rfl
  | needs style => rfl
  | fail e => rfl
  | join separator parts ih => rw [remap_join, render, render, renderAll_remap ih]

end Rendering

end Phrase

end SqlStatement
