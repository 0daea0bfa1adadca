/-!
# Totals

The sum of a list of natural numbers.
-/

namespace Amalgam.Number

def total : List Nat → Nat
  | [] => 0
  | n :: rest => n + total rest

end Amalgam.Number
