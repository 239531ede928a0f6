import SqlStatement.Text.Quoted

/-! # Reading string literals

A reader takes a literal from the start of a text: a doubled quote in it stands for one, and the
first other quote ends it. It reads back what was quoted, up to the very end of the literal, as
long as no quote comes straight after.
-/

namespace SqlStatement.Text

/-- What a literal holds behind its opening quote, and what follows the literal. -/
def body? : List Char → Option (List Char × List Char)
  | [] => none
  | c :: cs =>
    if c = quoteMark then
      match cs with
      | [] => some ([], [])
      | d :: ds =>
        if d = quoteMark then (body? ds).map (Prod.map (d :: ·) id) else some ([], d :: ds)
    else (body? cs).map (Prod.map (c :: ·) id)

def literal? : List Char → Option (List Char × List Char)
  | [] => none
  | c :: cs => if c = quoteMark then body? cs else none

def Unquoted (cs : List Char) : Prop := cs.head? ≠ some quoteMark

instance (cs : List Char) : Decidable (Unquoted cs) := inferInstanceAs (Decidable (_ ≠ _))

section

variable {c : Char} {cs ds r : List Char} {s t : String}

theorem body?_quote_quote (cs : List Char) :
    body? (quoteMark :: quoteMark :: cs) = (body? cs).map (Prod.map (quoteMark :: ·) id) :=
  (body?.eq_def _).trans ((if_pos rfl).trans (if_pos rfl))

theorem body?_quote (h : Unquoted cs) : body? (quoteMark :: cs) = some ([], cs) := by
  cases cs with
  | nil => rfl
  | cons d ds =>
    have hd : d ≠ quoteMark := fun hd => h (congrArg some hd)
    exact (body?.eq_def _).trans ((if_pos rfl).trans (if_neg hd))

theorem body?_cons (h : c ≠ quoteMark) (cs : List Char) :
    body? (c :: cs) = (body? cs).map (Prod.map (c :: ·) id) :=
  (body?.eq_def _).trans (if_neg h)

theorem body?_doubleQuotes (cs : List Char) (h : Unquoted r) :
    body? (doubleQuotes cs ++ quoteMark :: r) = some (cs, r) := by
  induction cs with
  | nil => exact body?_quote h
  | cons c cs ih =>
    rw [doubleQuotes]
    split
    next hc =>
      subst hc
      rw [List.cons_append, List.cons_append, body?_quote_quote, ih]
      rfl
    next hc =>
      rw [List.cons_append, body?_cons hc, ih]
      rfl

/-- A literal is read as the text that it stands for, up to its end. -/
theorem literal?_quote (s : String) (h : Unquoted r) :
    literal? ((quote s).toList ++ r) = some (s.toList, r) := by
  have hq : (quote s).toList ++ r = quoteMark :: (doubleQuotes s.toList ++ quoteMark :: r) := by
    rw [toList_quote, quoteChars, List.cons_append, List.append_assoc, List.singleton_append]
  rw [hq, literal?, if_pos rfl, body?_doubleQuotes s.toList h]

theorem quote_injective : Function.Injective quote := by
  intro s t h
  have hs := literal?_quote s (r := []) (by decide)
  rw [h, literal?_quote t (by decide)] at hs
  exact String.toList_injective (Prod.mk.inj (Option.some.inj hs)).1.symm

/-- If the first text is a literal, then no quote comes straight after it. -/
def Apart (s t : String) : Prop := (∃ u, s = quote u) → Unquoted t.toList

/-- The text is not empty and starts with something else than a quote. -/
def Follows (s : String) : Prop := s.toList.head?.any (· ≠ quoteMark) = true

/-- The text is not empty and ends with something else than a quote. -/
def Leads (s : String) : Prop := s.toList.getLast?.any (· ≠ quoteMark) = true

instance (s : String) : Decidable (Follows s) := inferInstanceAs (Decidable (_ = _))

instance (s : String) : Decidable (Leads s) := inferInstanceAs (Decidable (_ = _))

theorem Follows.ne_empty (h : Follows s) : s ≠ "" := by
  rintro rfl
  exact absurd h (by decide)

theorem Leads.ne_empty (h : Leads s) : s ≠ "" := by
  rintro rfl
  exact absurd h (by decide)

theorem Follows.unquoted (h : Follows s) : Unquoted s.toList := by
  intro hq
  rw [Follows, hq] at h
  exact absurd h (by decide)

theorem Follows.append (h : Follows s) (t : String) : Follows (s ++ t) := by
  rw [Follows, String.toList_append]
  cases hs : s.toList with
  | nil => simp [Follows, hs] at h
  | cons c cs => simpa [Follows, hs] using h

theorem Leads.append (h : Leads t) (s : String) : Leads (s ++ t) := by
  rw [Leads, String.toList_append, List.getLast?_append]
  rw [Leads] at h
  cases ht : t.toList.getLast? with
  | none => rw [ht] at h; cases h
  | some c => rwa [ht] at h

theorem Leads.apart (h : Leads s) (t : String) : Apart s t := by
  rintro ⟨u, rfl⟩
  rw [Leads, toList_quote, quoteChars, ← List.cons_append, List.getLast?_concat] at h
  exact absurd h (by decide)

theorem Follows.apart (h : Follows t) (s : String) : Apart s t := fun _ => h.unquoted

end

end SqlStatement.Text
