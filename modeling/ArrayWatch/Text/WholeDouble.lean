/-!
# Whole numbers in double precision

A double has 53 significant bits. A whole number is rounded to the nearest double, a half going to
the even neighbour, and a double is written as the whole number with the fewest significant digits
that rounds to it.
-/

namespace ArrayWatch.WholeDouble

/-- The whole numbers up to here are doubles. -/
def exactLimit : Nat := 9007199254740992

/-- The distance of the doubles around a whole number that is not below `exactLimit`, and one below
it. -/
def spacing (n : Nat) : Nat :=
  if n < exactLimit then 1 else 1 <<< (n.log2 - 52)

/-- The double nearest to a whole number. A half goes to the double with an even last bit. -/
def nearest (n : Nat) : Nat :=
  let units := n / spacing n
  let rest := n % spacing n
  if 2 * rest < spacing n || (2 * rest == spacing n && units % 2 == 0) then units * spacing n
  else (units + 1) * spacing n

/-- The multiples of `place` next to a number, the nearer one first. -/
def neighbours (place n : Nat) : List Nat :=
  let below := n / place * place
  if 2 * (n % place) ≤ place then [below, below + place] else [below + place, below]

/-- The powers of ten with 20 digits and fewer, from the greatest. -/
def places : List Nat := (List.range 20).reverse.map (Nat.pow 10)

/-- The whole number with the fewest significant digits that rounds to a double. -/
def shortest (double : Nat) : Nat :=
  (places.findSome? fun place => (neighbours place double).find? (nearest · == double)).getD double

end ArrayWatch.WholeDouble
