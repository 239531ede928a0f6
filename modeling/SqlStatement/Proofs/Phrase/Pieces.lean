import Mathlib.Data.List.Chain
import SqlStatement.Proofs.Phrase.Writing
import SqlStatement.Proofs.Text.Literals

/-! # The pieces of a phrase

The texts and placeholders that a strategy makes of a phrase, one by one. Put side by side they are
its wording. A phrase is fenced where no quote comes straight after a piece that is a literal.
-/

namespace SqlStatement

namespace Text

/-- The text as a piece; an empty text leaves none. -/
def pieces (s : String) : List String := if s = "" then [] else [s]

def joinedPieces (separator : String) : List (List String) → List String
  | [] => []
  | l :: ls =>
    if l = [] then joinedPieces separator ls
    else if joinedPieces separator ls = [] then l
    else l ++ pieces separator ++ joinedPieces separator ls

section

variable {separator s : String} {l : List String} {ls : List (List String)}

@[simp] theorem join_pieces (s : String) : String.join (pieces s) = s := by
  rw [pieces]
  split
  next h => rw [h, String.join_nil]
  next => simp

theorem empty_notMem_pieces (s : String) : "" ∉ pieces s := by
  rw [pieces]
  split
  next => exact List.not_mem_nil
  next h => exact fun hm => h (List.mem_singleton.1 hm).symm

theorem isChain_pieces (s : String) : (pieces s).IsChain Apart := by
  rw [pieces]
  split
  next => exact .nil
  next => exact .singleton s

@[simp] theorem joinedPieces_nil_cons (separator : String) (ls : List (List String)) :
    joinedPieces separator ([] :: ls) = joinedPieces separator ls := rfl

theorem joinedPieces_cons (h : l ≠ []) : joinedPieces separator (l :: ls) =
    if joinedPieces separator ls = [] then l
    else l ++ pieces separator ++ joinedPieces separator ls := by
  rw [joinedPieces, if_neg h]

theorem join_eq_empty_iff (h : "" ∉ l) : String.join l = "" ↔ l = [] := by
  cases l with
  | nil => simp
  | cons t l =>
    rw [String.join_cons, String.append_eq_empty_iff]
    exact iff_of_false (fun he => h (he.1 ▸ List.mem_cons_self)) (List.cons_ne_nil t l)

theorem empty_notMem_joinedPieces (h : ∀ l ∈ ls, "" ∉ l) : "" ∉ joinedPieces separator ls := by
  induction ls with
  | nil => exact List.not_mem_nil
  | cons l ls ih =>
    rw [List.forall_mem_cons] at h
    rcases eq_or_ne l [] with rfl | hl
    · rw [joinedPieces_nil_cons]; exact ih h.2
    · rw [joinedPieces_cons hl]
      split
      next => exact h.1
      next =>
        rw [List.mem_append, List.mem_append, not_or, not_or]
        exact ⟨⟨h.1, empty_notMem_pieces _⟩, ih h.2⟩

theorem join_joinedPieces (h : ∀ l ∈ ls, "" ∉ l) :
    String.join (joinedPieces separator ls) = Phrase.joined separator (ls.map String.join) := by
  induction ls with
  | nil => rw [joinedPieces]; simp
  | cons l ls ih =>
    rw [List.forall_mem_cons] at h
    have hls : "" ∉ joinedPieces separator ls := empty_notMem_joinedPieces h.2
    rcases eq_or_ne l [] with rfl | hl
    · rw [joinedPieces_nil_cons, ih h.2, List.map_cons, String.join_nil, Phrase.joined_empty_cons]
    · have hne : String.join l ≠ "" := fun he => hl ((join_eq_empty_iff h.1).1 he)
      rw [joinedPieces_cons hl, List.map_cons, Phrase.joined_cons hne, ← ih h.2]
      simp only [join_eq_empty_iff hls]
      split
      next => rfl
      next => rw [String.join_append, String.join_append, join_pieces]

theorem flatten_sublist_joinedPieces (separator : String) (ls : List (List String)) :
    ls.flatten.Sublist (joinedPieces separator ls) := by
  induction ls with
  | nil => exact .slnil
  | cons l ls ih =>
    rcases eq_or_ne l [] with rfl | hl
    · exact ih
    · rw [joinedPieces_cons hl, List.flatten_cons]
      split
      next he => rw [he] at ih; rw [List.sublist_nil.1 ih, List.append_nil]
      next => exact (List.sublist_append_left l _).append ih

theorem joinedPieces_empty (ls : List (List String)) : joinedPieces "" ls = ls.flatten := by
  induction ls with
  | nil => rfl
  | cons l ls ih =>
    rcases eq_or_ne l [] with rfl | hl
    · exact ih
    · rw [joinedPieces_cons hl, ih, List.flatten_cons]
      split
      next he => rw [he, List.append_nil]
      next => rw [pieces, if_pos rfl, List.append_nil]

theorem isChain_joinedPieces (hf : Follows separator) (hs : Leads separator)
    (h : ∀ l ∈ ls, l.IsChain Apart) : (joinedPieces separator ls).IsChain Apart := by
  induction ls with
  | nil => exact .nil
  | cons l ls ih =>
    rw [List.forall_mem_cons] at h
    rcases eq_or_ne l [] with rfl | hl
    · exact ih h.2
    · rw [joinedPieces_cons hl]
      split
      next => exact h.1
      next =>
        rw [pieces, if_neg hf.ne_empty, List.append_assoc, List.singleton_append]
        refine h.1.append ((ih h.2).cons fun t _ => hs.apart t) fun t _ u hu => ?_
        obtain rfl : separator = u := Option.some.inj hu
        exact hf.apart t

variable {before after : List String} {u : String}

theorem unquoted_join_of_isChain (h : l.IsChain Apart) (he : "" ∉ l)
    (hl : l = before ++ quote u :: after) : Unquoted (String.join after).toList := by
  subst hl
  cases after with
  | nil => decide
  | cons t after =>
    have ht : Unquoted t.toList :=
      (List.isChain_cons_cons.1 h.right_of_append).1 ⟨u, rfl⟩
    have hne : t.toList ≠ [] := fun hn => he (by simp [String.toList_eq_nil_iff.1 hn])
    rw [String.join_cons, String.toList_append, Unquoted, List.head?_append_of_ne_nil _ hne]
    exact ht

/-- A literal in a row of pieces is read from the place where it starts to its end. -/
theorem literal?_drop_of_isChain (h : l.IsChain Apart) (he : "" ∉ l)
    (hl : l = before ++ quote u :: after) :
    literal? ((String.join l).toList.drop (String.join before).length) =
      some (u.toList, (String.join after).toList) := by
  have hd : (String.join l).toList.drop (String.join before).length =
      (quote u).toList ++ (String.join after).toList := by
    rw [hl, String.join_append, String.toList_append, ← String.length_toList, List.drop_left,
      String.join_cons, String.toList_append]
  rw [hd, literal?_quote u (unquoted_join_of_isChain h he hl)]

end

end Text

namespace Phrase

mutual

/-- What is written for the phrase, piece by piece, when its parameters are numbered from the given
number. -/
def pieces (strategy : Strategy) (n : UInt32) : Phrase → List String
  | join separator parts => Text.joinedPieces separator (piecesOfAll strategy n parts)
  | p => Text.pieces (p.wording strategy n)

def piecesOfAll (strategy : Strategy) (n : UInt32) : List Phrase → List (List String)
  | [] => []
  | p :: ps => p.pieces strategy n :: piecesOfAll strategy (n + .ofNat p.bindings.length) ps

end

section

variable {strategy : Strategy} {ps : List Phrase}

theorem piecesOfAll_append (strategy : Strategy) (n : UInt32) (ps qs : List Phrase) :
    piecesOfAll strategy n (ps ++ qs) = piecesOfAll strategy n ps ++
      piecesOfAll strategy (n + .ofNat (ps.flatMap bindings).length) qs := by
  induction ps generalizing n with
  | nil => simp [piecesOfAll]
  | cons p ps ih =>
    rw [List.cons_append, piecesOfAll, piecesOfAll, ih, List.flatMap_cons, List.length_append,
      UInt32.ofNat_add, UInt32.add_assoc, List.cons_append]

theorem pieces_concat_cons (strategy : Strategy) (n : UInt32) (p : Phrase) (ps : List Phrase) :
    (concat (p :: ps)).pieces strategy n =
      p.pieces strategy n ++ (concat ps).pieces strategy (n + .ofNat p.bindings.length) := by
  rw [concat, concat, pieces, pieces, Text.joinedPieces_empty, Text.joinedPieces_empty,
    piecesOfAll, List.flatten_cons]

theorem pieces_concat_nil (strategy : Strategy) (n : UInt32) :
    (concat []).pieces strategy n = [] := rfl

theorem pieces_text (strategy : Strategy) (n : UInt32) (s : String) :
    (text s).pieces strategy n = Text.pieces s := rfl

theorem pieces_after (strategy : Strategy) (n : UInt32) (s : String) (p : Phrase) :
    (after s p).pieces strategy n = Text.pieces s ++ p.pieces strategy n := by
  have hn : n + .ofNat (text s).bindings.length = n := by simp
  rw [after, pieces_concat_cons, pieces_concat_cons, pieces_concat_nil, pieces_text, hn,
    List.append_nil]

theorem exists_of_mem_piecesOfAll {n : UInt32} {l : List String}
    (h : l ∈ piecesOfAll strategy n ps) : ∃ p ∈ ps, ∃ m, l = p.pieces strategy m := by
  induction ps generalizing n with
  | nil => exact absurd h List.not_mem_nil
  | cons p ps ih =>
    rw [piecesOfAll, List.mem_cons] at h
    rcases h with rfl | h
    · exact ⟨p, List.mem_cons_self, n, rfl⟩
    · obtain ⟨q, hq, m, hm⟩ := ih h
      exact ⟨q, List.mem_cons_of_mem p hq, m, hm⟩

theorem empty_notMem_pieces (p : Phrase) (strategy : Strategy) (n : UInt32) :
    "" ∉ p.pieces strategy n := by
  induction p using parts_induction generalizing n with
  | join separator parts ih =>
    rw [pieces]
    refine Text.empty_notMem_joinedPieces fun l hl => ?_
    obtain ⟨p, hp, m, rfl⟩ := exists_of_mem_piecesOfAll hl
    exact ih p hp m
  | _ => exact Text.empty_notMem_pieces _

theorem join_pieces (p : Phrase) (strategy : Strategy) (n : UInt32) :
    String.join (p.pieces strategy n) = p.wording strategy n := by
  induction p using parts_induction generalizing n with
  | join separator parts ih =>
    have hparts : (piecesOfAll strategy n parts).map String.join = wordings strategy n parts := by
      clear * - ih
      induction parts generalizing n with
      | nil => rfl
      | cons p ps ihs =>
        rw [List.forall_mem_cons] at ih
        rw [piecesOfAll, wordings, List.map_cons, ih.1, ihs ih.2]
    rw [pieces, wording, ← hparts]
    refine Text.join_joinedPieces fun l hl => ?_
    obtain ⟨p, -, m, rfl⟩ := exists_of_mem_piecesOfAll hl
    exact p.empty_notMem_pieces strategy m
  | _ => exact Text.join_pieces _

end

end Phrase

end SqlStatement
