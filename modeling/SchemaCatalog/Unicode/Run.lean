/-! Tables of code points mapped to code points, kept as runs: every `step`-th code point from `first`
to `last` moves by one common distance. Case tables of Unicode are long but made of few such runs.
-/
namespace SchemaCatalog.Unicode

/-- Maps `first` to `target`, and the later members of the run by the same distance. -/
structure Run where
  first : Nat
  last : Nat
  step : Nat
  target : Nat
deriving DecidableEq, Repr

namespace Run

def Holds (run : Run) (code : Nat) : Prop :=
  run.first ≤ code ∧ code ≤ run.last ∧ (code - run.first) % run.step = 0

instance (run : Run) (code : Nat) : Decidable (run.Holds code) :=
  inferInstanceAs (Decidable (_ ∧ _ ∧ _))

def apply (run : Run) (code : Nat) : Nat := run.target + (code - run.first)

end Run

def mapped? (runs : List Run) (c : Char) : Option Char :=
  (runs.find? fun run => run.Holds c.toNat).map fun run => Char.ofNat (run.apply c.toNat)

end SchemaCatalog.Unicode
