import Mathlib.Data.List.Count
import SqlStatement.Proofs.Phrase.Numbering
import SqlStatement.Query.Phrase

/-! # Legible phrases

The placeholders of a phrase can be read off its text where its own texts hold no marks: named ones
by their colons, with their names in order, and positional ones by counting marks. No text that
starts with a digit comes straight after a named placeholder.
-/

namespace SqlStatement

namespace Text

/-- The names behind colons, from left to right. A name takes all digits that follow it. -/
def placeholders : List Char → List String
  | [] => []
  | ':' :: 'p' :: cs => ("p" ++ String.ofList (cs.takeWhile Char.isDigit)) :: placeholders cs
  | _ :: cs => placeholders cs

def Undigit (cs : List Char) : Prop := cs.head?.all (fun c => !c.isDigit) = true

/-- The text has none of the marks that open placeholders. -/
def Plain (s : String) : Prop := ':' ∉ s.toList ∧ '?' ∉ s.toList

/-- The text has no marks, is not empty and starts with something else than a digit. -/
structure Breaks (s : String) : Prop where
  plain : Plain s
  head : s.toList.head?.any (fun c => !c.isDigit) = true

instance (s : String) : Decidable (Plain s) := inferInstanceAs (Decidable (_ ∧ _))

instance (s : String) : Decidable (Breaks s) :=
  decidable_of_iff (Plain s ∧ s.toList.head?.any (fun c => !c.isDigit) = true)
    ⟨fun h => ⟨h.1, h.2⟩, fun h => ⟨h.1, h.2⟩⟩

section

variable {cs ds : List Char} {s t : String}

theorem placeholders_append_of_notMem (h : ':' ∉ cs) :
    placeholders (cs ++ ds) = placeholders ds := by
  induction cs with
  | nil => rfl
  | cons c cs ih =>
    rw [List.mem_cons, not_or] at h
    rw [List.cons_append, placeholders, ih h.2]
    rintro _ rfl
    exact (h.1 rfl).elim

theorem placeholders_key (i : Nat) (h : Undigit cs) :
    placeholders ((":" ++ Parameters.name i).toList ++ cs) =
      Parameters.name i :: placeholders cs := by
  have hd : ∀ c ∈ Nat.toDigits 10 i, c.isDigit = true := fun c hc =>
    Nat.isDigit_of_mem_toDigits (by decide) (by decide) hc
  have hm : ':' ∉ Nat.toDigits 10 i := fun hc => by simpa using hd _ hc
  have hw : (Nat.toDigits 10 i ++ cs).takeWhile Char.isDigit = Nat.toDigits 10 i := by
    rw [List.takeWhile_append_of_pos hd]
    cases cs with
    | nil => simp
    | cons c cs =>
      have hc : c.isDigit = false := by simpa [Undigit] using h
      simp [hc]
  have hl : (":" ++ Parameters.name i).toList ++ cs =
      ':' :: 'p' :: (Nat.toDigits 10 i ++ cs) := by
    simp [Parameters.name]
  rw [hl, placeholders, hw, placeholders_append_of_notMem hm, Parameters.name,
    Nat.toString_eq_ofList_toDigits]

theorem Plain.append (hs : Plain s) (ht : Plain t) : Plain (s ++ t) := by
  simp only [Plain, String.toList_append, List.mem_append, not_or]
  exact ⟨⟨hs.1, ht.1⟩, hs.2, ht.2⟩

theorem Breaks.append (hs : Breaks s) (ht : Plain t) : Breaks (s ++ t) := by
  refine ⟨hs.plain.append ht, ?_⟩
  have h := hs.head
  rw [String.toList_append]
  cases hc : s.toList with
  | nil => simp [hc] at h
  | cons c cs => simpa [hc] using h

theorem Breaks.undigit (hs : Breaks s) : Undigit (s.toList ++ cs) := by
  have h := hs.head
  cases hc : s.toList with
  | nil => simp [hc] at h
  | cons c cs => simpa [Undigit, hc] using h

theorem mem_doubleQuotes {c : Char} : c ∈ doubleQuotes cs → c ∈ cs := by
  induction cs with
  | nil => exact id
  | cons d cs ih =>
    intro h
    by_cases hd : d = quoteMark <;> grind [doubleQuotes]

theorem Plain.intercalate {separator : String} (hs : Plain separator) {texts : List String}
    (h : ∀ s ∈ texts, Plain s) : Plain (separator.intercalate texts) := by
  induction texts with
  | nil => rw [String.intercalate_nil]; decide
  | cons t texts ih =>
    rw [List.forall_mem_cons] at h
    cases texts with
    | nil => rw [String.intercalate_singleton]; exact h.1
    | cons u texts =>
      rw [String.intercalate_cons_cons]
      exact (h.1.append hs).append (ih h.2)

theorem Plain.quote (h : Plain s) : Plain (quote s) := by
  have hq {c : Char} (hc : c ∈ (Text.quote s).toList) : c = quoteMark ∨ c ∈ s.toList := by
    rw [toList_quote, quoteChars, List.mem_cons, List.mem_append, List.mem_singleton] at hc
    rcases hc with rfl | hc | rfl
    · exact .inl rfl
    · exact .inr (mem_doubleQuotes hc)
    · exact .inl rfl
  constructor
  · intro hc
    rcases hq hc with hc | hc
    · exact absurd hc (by decide)
    · exact h.1 hc
  · intro hc
    rcases hq hc with hc | hc
    · exact absurd hc (by decide)
    · exact h.2 hc

end

end Text

namespace Binding

def keys : UInt32 → Nat → List String
  | _, 0 => []
  | n, count + 1 => key n :: keys (n + 1) count

theorem keys_add (n : UInt32) (i j : Nat) :
    keys n (i + j) = keys n i ++ keys (n + .ofNat i) j := by
  induction i generalizing n with
  | zero => simp [keys]
  | succ i ih =>
    rw [Nat.add_right_comm, keys, keys, ih, add_ofNat_succ, List.cons_append]

theorem keys_ofNat {n count : Nat} (h : n + count ≤ 2 ^ 32) :
    keys (.ofNat n) count = (List.range' n count).map Parameters.name := by
  induction count generalizing n with
  | zero => rfl
  | succ count ih =>
    have hn : UInt32.ofNat n + 1 = .ofNat (n + 1) := (UInt32.ofNat_add n 1).symm
    rw [keys, key_ofNat (by omega), hn, ih (by omega), List.range'_succ, List.map_cons]

end Binding

open Text

namespace Phrase

/-- Placeholders can be read off the text of the phrase: by their names in order, whatever follows
that does not start with a digit, and by their number. -/
structure Legible (p : Phrase) : Prop where
  named : ∀ (paging : PagingSupport) (n : UInt32) (cs : List Char), Undigit cs →
    placeholders ((p.wording (.springNamed paging) n).toList ++ cs) =
      Binding.keys n p.bindings.length ++ placeholders cs
  counted : ∀ (paging : PagingSupport) (n : UInt32),
    (p.wording (.positional paging) n).toList.count '?' = p.bindings.length

/-- The text of the phrase never starts with a digit. -/
def Undigit (p : Phrase) : Prop :=
  ∀ (strategy : Strategy) (n : UInt32) (cs : List Char), Text.Undigit cs →
    Text.Undigit ((p.wording strategy n).toList ++ cs)

section

variable {strategy : Strategy} {p q : Phrase} {ps : List Phrase} {s t : String}

theorem undigit_concat_cons_text (hs : Breaks s) : (concat (.text s :: ps)).Undigit := by
  intro strategy n cs _
  rw [wording_concat_cons, wording, String.toList_append, List.append_assoc]
  exact hs.undigit

theorem undigit_concat_singleton (h : p.Undigit) : (concat [p]).Undigit := by
  intro strategy n cs hcs
  rw [wording_concat_cons, wording_concat_nil, String.append_empty]
  exact h strategy n cs hcs

namespace Legible

theorem text (h : Plain s) : Legible (.text s) where
  named _ n cs _ := by
    rw [wording, bindings, placeholders_append_of_notMem h.1]
    rfl
  counted _ n := by
    rw [wording, bindings]
    exact List.count_eq_zero.2 h.2

theorem blank (hw : ∀ strategy n, p.wording strategy n = "") (hb : p.bindings = []) :
    Legible p where
  named _ n cs _ := by
    rw [hw, hb]
    rfl
  counted _ n := by
    rw [hw, hb]
    rfl

theorem fail (e : RenderError) : Legible (.fail e) :=
  blank (fun _ _ => by rw [wording]) (by rw [bindings])

theorem needs (style : PagingStyle) : Legible (.needs style) :=
  blank (fun _ _ => by rw [wording]) (by rw [bindings])

theorem join_nil (separator : String) : Legible (.join separator []) :=
  blank (fun _ _ => by rw [wording, wordings, joined_nil]) (by simp)

theorem parameter (column : Option Column) (d : Datum) : Legible (.parameter column d) where
  named _ n cs h := placeholders_key n.toNat h
  counted _ n := by simp [wording, Strategy.positional]

theorem concat_cons_text (hs : Plain s) (h : Legible (concat ps)) :
    Legible (concat (.text s :: ps)) where
  named paging n cs hcs := by
    rw [wording_concat_cons, wording, String.toList_append, List.append_assoc,
      placeholders_append_of_notMem hs.1, h.named paging _ cs hcs]
    simp
  counted paging n := by
    rw [wording_concat_cons, wording, String.toList_append, List.count_append,
      List.count_eq_zero.2 hs.2, h.counted paging]
    simp

theorem concat_cons (hp : Legible p) (h : Legible (concat ps)) (hu : (concat ps).Undigit) :
    Legible (concat (p :: ps)) where
  named paging n cs hcs := by
    have hb : (concat (p :: ps)).bindings.length =
        p.bindings.length + (concat ps).bindings.length := by simp
    rw [wording_concat_cons, String.toList_append, List.append_assoc,
      hp.named paging n _ (hu _ _ cs hcs), h.named paging _ cs hcs, hb, Binding.keys_add,
      List.append_assoc]
  counted paging n := by
    rw [wording_concat_cons, String.toList_append, List.count_append, hp.counted paging,
      h.counted paging]
    simp

theorem concat_singleton (h : Legible p) : Legible (concat [p]) :=
  concat_cons h (join_nil "") fun _ _ _ hcs => by simpa using hcs

theorem after (hs : Plain s) (h : Legible p) : Legible (after s p) :=
  concat_cons_text hs h.concat_singleton

theorem between (hs : Plain s) (h : Legible p) (ht : Breaks t) : Legible (between s p t) :=
  concat_cons_text hs
    (concat_cons h (concat_cons_text ht.plain (join_nil "")) (undigit_concat_cons_text ht))

theorem bindings_eq_nil (h : Legible p) {paging : PagingSupport} {n : UInt32}
    (hw : p.wording (.springNamed paging) n = "") : p.bindings = [] := by
  have hk := h.named paging n [] rfl
  rw [hw] at hk
  cases hb : p.bindings with
  | nil => rfl
  | cons b bs => simp [hb, Binding.keys, placeholders] at hk

theorem join {separator : String} (hs : Breaks separator) (h : ∀ p ∈ ps, Legible p) :
    Legible (.join separator ps) := by
  induction ps with
  | nil => exact join_nil separator
  | cons p ps ih =>
    rw [List.forall_mem_cons] at h
    have hps := ih h.2
    have hb : (Phrase.join separator (p :: ps)).bindings.length =
        p.bindings.length + (Phrase.join separator ps).bindings.length := by simp
    constructor
    · intro paging n cs hcs
      have hrest := hps.named paging (n + .ofNat p.bindings.length) cs hcs
      rw [hb, Binding.keys_add, List.append_assoc, ← hrest, wording, wordings]
      rcases eq_or_ne (p.wording (.springNamed paging) n) "" with hw | hw
      · rw [hw, joined_empty_cons, h.1.bindings_eq_nil hw]
        rfl
      · rw [joined_cons hw, wording]
        split
        next he => rw [he]; exact h.1.named paging n cs hcs
        next =>
          have hu : Text.Undigit (separator.toList ++ ((joined separator (wordings
              (.springNamed paging) (n + .ofNat p.bindings.length) ps)).toList ++ cs)) := hs.undigit
          rw [String.toList_append, String.toList_append, List.append_assoc, List.append_assoc,
            h.1.named paging n _ hu, placeholders_append_of_notMem hs.plain.1]
    · intro paging n
      have hp := h.1.counted paging n
      have hrest := hps.counted paging (n + .ofNat p.bindings.length)
      rw [hb, ← hp, ← hrest, wording, wording, wordings]
      rcases eq_or_ne (p.wording (.positional paging) n) "" with hw | hw
      · rw [hw, joined_empty_cons]
        simp
      · rw [joined_cons hw]
        split
        next he => rw [he]; rfl
        next =>
          rw [String.toList_append, String.toList_append, List.count_append, List.count_append,
            List.count_eq_zero.2 hs.plain.2, Nat.add_zero]

theorem values (column : Option Column) (vs : List Value) :
    ∀ p ∈ vs.map (Phrase.value column), Legible p :=
  List.forall_mem_map.2 fun v _ => parameter column (.value v)

theorem clause {keyword : String} (hk : Plain keyword) {q : Option Phrase}
    (h : ∀ p ∈ q, Legible p) : ∀ p ∈ Phrase.clause keyword q, Legible p := by
  cases q with
  | none => simp [Phrase.clause]
  | some p => simpa [Phrase.clause] using (h p rfl).after (hk.append (by decide))

theorem listClause {keyword : String} (hk : Plain keyword) (h : ∀ p ∈ ps, Legible p) :
    ∀ p ∈ Phrase.listClause keyword ps, Legible p := by
  rw [Phrase.listClause]
  split
  next => simp
  next => simpa using (join (by decide) h).after (hk.append (by decide))

end Legible

end

end Phrase

end SqlStatement
