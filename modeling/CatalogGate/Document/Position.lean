-- Places in a document. Lines and characters are counted from zero.
namespace CatalogGate

structure Position where
  line : Nat
  character : Nat
deriving Repr, DecidableEq, Inhabited

namespace Position

def zero : Position := ⟨0, 0⟩

/-- Document order: by line, then by character. -/
def before (p q : Position) : Prop := p.line < q.line ∨ (p.line = q.line ∧ p.character < q.character)

instance (p q : Position) : Decidable (p.before q) := inferInstanceAs (Decidable (_ ∨ _))

instance : LT Position := ⟨before⟩

instance : LE Position := ⟨fun p q => ¬ q.before p⟩

instance (p q : Position) : Decidable (p < q) := inferInstanceAs (Decidable (p.before q))

instance (p q : Position) : Decidable (p ≤ q) := inferInstanceAs (Decidable (¬ q.before p))

theorem le_iff {p q : Position} :
    p ≤ q ↔ p.line < q.line ∨ (p.line = q.line ∧ p.character ≤ q.character) := by
  show ¬ (q.line < p.line ∨ (q.line = p.line ∧ q.character < p.character)) ↔ _
  omega

theorem le_rfl (p : Position) : p ≤ p := by rw [le_iff]; omega

end Position

/-- What lies from one place to another. -/
structure Range where
  start : Position
  stop : Position
deriving Repr, DecidableEq, Inhabited

namespace Range

/-- The empty range at a place. -/
def point (p : Position) : Range := ⟨p, p⟩

/-- The empty range at the start of the document. -/
def zero : Range := point .zero

/-- A range may be empty, but it must not end before it starts. -/
def WellFormed (r : Range) : Prop := r.start ≤ r.stop

instance (r : Range) : Decidable r.WellFormed := inferInstanceAs (Decidable (r.start ≤ r.stop))

theorem point_wellFormed (p : Position) : (point p).WellFormed := Position.le_rfl p

end Range

end CatalogGate
