import FlowRules.Word

/-!
# Clauses

A condition is made of clauses, each of which can be inverted. A `Clause` that is not
configured holds of everything, and its flag is ignored; this differs from a clause
that is configured with a value everything satisfies, whose flag counts. A
`PortClause` always has its range of ports. The full range holds even of a packet
without ports, every other one only of a known port; a range that starts after its
end holds of no port.
-/

namespace FlowRules

/-- A test that may be configured and may be inverted. -/
structure Clause (α : Type) where
  wanted : Option α := none
  inverted : Bool := false
  deriving DecidableEq

/-- Does the clause hold, where `raw` tells whether the configured value is met? -/
def Clause.holds {α : Type} (c : Clause α) (raw : α → Bool) : Bool :=
  match c.wanted with
  | none => true
  | some a => (raw a).xor c.inverted

/-- A range of transport ports, both ends included. -/
structure PortRange where
  first : Port := 0
  last : Port := 65535
  deriving DecidableEq

namespace PortRange

/-- Does the range hold every port? -/
def isFull (r : PortRange) : Bool := r.first = 0 && r.last = 65535

/-- Does the range hold no port? -/
def isEmpty (r : PortRange) : Bool := r.last.toNat < r.first.toNat

/-- Is the port in the range? -/
def contains (r : PortRange) (p : Port) : Bool := r.first.toNat ≤ p.toNat && p.toNat ≤ r.last.toNat

/-- Does a packet with the port, if it has one, meet the range? -/
def admits (r : PortRange) (port : Option Port) : Bool := r.isFull || port.any r.contains

/-- The ends of the range. -/
def text (r : PortRange) : String := wordText r.first ++ "..=" ++ wordText r.last

end PortRange

/-- A test of a port against a range, which may be inverted. -/
structure PortClause where
  range : PortRange := {}
  inverted : Bool := false
  deriving DecidableEq

/-- Does the clause hold of the port? -/
def PortClause.holds (c : PortClause) (port : Option Port) : Bool :=
  (c.range.admits port).xor c.inverted

/-- Is the clause the one that holds of everything by default? -/
def PortClause.isDefault (c : PortClause) : Bool := c.range.isFull && !c.inverted

end FlowRules
