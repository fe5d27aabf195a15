/-!
Sets of characters as spans of code points, the form in which the tables of this library are kept.
-/

namespace GormModels.Text

/-- Every `step`-th code point from `first` to `last`. -/
structure Span where
  first : Nat
  last : Nat
  step : Nat

def Span.contains (s : Span) (n : Nat) : Bool :=
  s.first ≤ n && n ≤ s.last && (n - s.first) % s.step == 0

abbrev Spans := List Span

def Spans.contain (spans : Spans) (c : Char) : Bool :=
  spans.any (·.contains c.toNat)

/-- A span whose characters move by one distance, its first one to `target`. -/
structure Shift where
  span : Span
  target : Nat

def Shift.move? (s : Shift) (c : Char) : Option Char :=
  if s.span.contains c.toNat then some (.ofNat (s.target + (c.toNat - s.span.first))) else none

end GormModels.Text
