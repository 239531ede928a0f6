import SqlStatement.Query

/-! # The grammar of criteria

Negation binds tighter than conjunction, and conjunction tighter than disjunction. The grammar is
unambiguous: a machine that reads the tokens from left to right, with a stack of open parentheses,
comes to the formula of every derivation.
-/

namespace SqlStatement

/-- A token of written criteria. A leaf is a whole predicate, told apart by its number. -/
inductive Token where
  | leaf (number : Nat) (p : Predicate)
  | connector (k : Connector)
  | not
  | left
  | right

inductive Formula where
  | leaf (number : Nat)
  | not (f : Formula)
  | and (f g : Formula)
  | or (f g : Formula)
deriving DecidableEq, Repr

namespace Formula

def eval (v : Nat → Bool) : Formula → Bool
  | leaf i => v i
  | not f => !f.eval v
  | and f g => f.eval v && g.eval v
  | or f g => f.eval v || g.eval v

def negated : Nat → Formula → Formula
  | 0, f => f
  | n + 1, f => negated n f.not

end Formula

/-- What a run of tokens is read as, from what binds tightest on. -/
inductive Precedence where
  | operand
  | conjunction
  | disjunction
deriving DecidableEq, Repr

inductive Derives : Precedence → List Token → Formula → Prop
  | leaf (i : Nat) (p : Predicate) : Derives .operand [.leaf i p] (.leaf i)
  | not {ts : List Token} {f : Formula} : Derives .operand ts f →
      Derives .operand (.not :: ts) f.not
  | parens {ts : List Token} {f : Formula} : Derives .disjunction ts f →
      Derives .operand (.left :: ts ++ [.right]) f
  | operand {ts : List Token} {f : Formula} : Derives .operand ts f → Derives .conjunction ts f
  | and {ts us : List Token} {f g : Formula} : Derives .conjunction ts f → Derives .operand us g →
      Derives .conjunction (ts ++ .connector .and :: us) (f.and g)
  | conjunction {ts : List Token} {f : Formula} : Derives .conjunction ts f →
      Derives .disjunction ts f
  | or {ts us : List Token} {f g : Formula} : Derives .conjunction ts f →
      Derives .disjunction us g → Derives .disjunction (ts ++ .connector .or :: us) (f.or g)

/-- What has been read since a parenthesis was opened: closed disjuncts, the conjunction at hand
and the negations before the next operand. -/
structure Frame where
  disjuncts : List Formula := []
  conjunct : Option Formula := none
  negations : Nat := 0

namespace Frame

/-- The next operand joins the conjunction at hand. -/
def place (frame : Frame) (f : Formula) : Frame :=
  let g := f.negated frame.negations
  { frame with conjunct := some ((frame.conjunct.map (·.and g)).getD g), negations := 0 }

def close (frame : Frame) : Option Formula :=
  frame.conjunct.map fun f => frame.disjuncts.foldr .or f

end Frame

/-- The machine stands before an operand or behind one, in a frame within others. -/
inductive Machine where
  | before (frame : Frame) (outer : List Frame)
  | behind (frame : Frame) (outer : List Frame)

namespace Machine

def step : Machine → Token → Option Machine
  | before frame outer, .leaf i _ => some (behind (frame.place (.leaf i)) outer)
  | before frame outer, .not =>
    some (before { frame with negations := frame.negations + 1 } outer)
  | before frame outer, .left => some (before {} (frame :: outer))
  | behind frame outer, .connector .and => some (before frame outer)
  | behind frame outer, .connector .or =>
    some (before { disjuncts := frame.disjuncts ++ frame.conjunct.toList } outer)
  | behind frame (f :: outer), .right => frame.close.map fun g => behind (f.place g) outer
  | _, _ => none

def run : Machine → List Token → Option Machine
  | m, [] => some m
  | m, t :: ts => (m.step t).bind fun m' => run m' ts

/-- The formula that the tokens come to, if they come to one. -/
def parse (ts : List Token) : Option Formula :=
  match run (before {} []) ts with
  | some (behind frame []) => frame.close
  | _ => none

theorem run_append (m : Machine) (ts us : List Token) :
    m.run (ts ++ us) = (m.run ts).bind fun m' => m'.run us := by
  induction ts generalizing m with
  | nil => rfl
  | cons t ts ih =>
    rw [List.cons_append, run, run, Option.bind_assoc]
    exact Option.bind_congr fun m' _ => ih m'

/-- The machine takes the tokens for the formula, whatever stands around them. -/
def Takes : Precedence → List Token → Formula → Prop
  | .operand, ts, f => ∀ frame outer,
    (before frame outer).run ts = some (behind (frame.place f) outer)
  | .conjunction, ts, f => ∀ disjuncts outer,
    (before { disjuncts } outer).run ts = some (behind { disjuncts, conjunct := some f } outer)
  | .disjunction, ts, f => ∀ disjuncts outer, ∃ frame,
    (before { disjuncts } outer).run ts = some (behind frame outer) ∧
      frame.close = some (disjuncts.foldr .or f)

theorem takes_of_derives {level : Precedence} {ts : List Token} {f : Formula}
    (h : Derives level ts f) : Takes level ts f := by
  induction h with
  | leaf i p => exact fun _ _ => rfl
  | not _ ih => exact fun frame outer => ih { frame with negations := frame.negations + 1 } outer
  | parens _ ih =>
    intro frame outer
    obtain ⟨inner, hr, hc⟩ := ih [] (frame :: outer)
    rw [List.cons_append, run, step, Option.bind_some, run_append, hr, Option.bind_some, run, step,
      hc]
    rfl
  | operand _ ih => exact fun disjuncts outer => ih { disjuncts } outer
  | and _ _ ihf ihg =>
    intro disjuncts outer
    rw [run_append, ihf, Option.bind_some, run, step, Option.bind_some, ihg]
    rfl
  | conjunction _ ih => exact fun disjuncts outer => ⟨_, ih disjuncts outer, rfl⟩
  | @or _ _ f g _ _ ihf ihg =>
    intro disjuncts outer
    obtain ⟨frame, hr, hc⟩ := ihg (disjuncts ++ [f]) outer
    refine ⟨frame, ?_, by rw [hc, List.foldr_append]; rfl⟩
    rw [run_append, ihf, Option.bind_some, run, step, Option.bind_some]
    exact hr

theorem parse_of_derives {ts : List Token} {f : Formula} (h : Derives .disjunction ts f) :
    parse ts = some f := by
  obtain ⟨frame, hr, hc⟩ := takes_of_derives h [] []
  rw [parse, hr]
  exact hc

example (p : Predicate) :
    parse [.leaf 0 p, .connector .or, .not, .leaf 1 p, .connector .and, .leaf 2 p] =
      some (.or (.leaf 0) (.and (.not (.leaf 1)) (.leaf 2))) := rfl

end Machine

/-- No tokens have two readings. -/
theorem Derives.unique {ts : List Token} {f g : Formula} (hf : Derives .disjunction ts f)
    (hg : Derives .disjunction ts g) : f = g :=
  Option.some.inj ((Machine.parse_of_derives hf).symm.trans (Machine.parse_of_derives hg))

end SqlStatement
