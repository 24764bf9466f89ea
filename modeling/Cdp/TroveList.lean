import Cdp.Address

/-!
# The list of Troves

The contracts keep open Troves in a list of falling nominal ratio, each Trove under the address of
its owner. A new Trove goes behind the last Trove whose ratio is at least its own, and before the
first one whose ratio is smaller.
-/

set_option autoImplicit false

namespace Cdp

/-- Owners with their nominal ratios, from the head of the list to its tail. -/
abbrev TroveList := List (Address × Word)

namespace TroveList

/-- The owner behind another one. -/
def successor? (id : Address) : List Address → Option Address
  | a :: b :: rest => if a = id then some b else successor? id (b :: rest)
  | _ => none

/-- The owner before another one. -/
def predecessor? (id : Address) : List Address → Option Address
  | a :: b :: rest =>
    if a = id then none else if b = id then some a else predecessor? id (b :: rest)
  | _ => none

def ids (l : TroveList) : List Address := l.map (·.1)

def head? (l : TroveList) : Option Address := l.ids.head?

def tail? (l : TroveList) : Option Address := l.ids.getLast?

def next? (l : TroveList) (id : Address) : Option Address := successor? id l.ids

def prev? (l : TroveList) (id : Address) : Option Address := predecessor? id l.ids

/-- The last owner with at least a ratio. -/
def lastAtLeast? (l : TroveList) (ratio : Word) : Option Address :=
  TroveList.tail? (l.filter fun e => decide (ratio ≤ e.2))

/-- The first owner with less than a ratio. -/
def firstBelow? (l : TroveList) (ratio : Word) : Option Address :=
  TroveList.head? (l.filter fun e => decide (e.2 < ratio))

/-- The neighbours of the place for a ratio; the null address stands for an end of the list. -/
def insertPosition (l : TroveList) (ratio : Word) : Address × Address :=
  ((l.lastAtLeast? ratio).getD .zero, (l.firstBelow? ratio).getD .zero)

end TroveList

end Cdp
