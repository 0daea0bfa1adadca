import Amalgam.Value
/-!
# Telling values apart

Equality of values is decidable, and deciding it computes: constructor by constructor, and through lists and mappings
item by item in their order. A text that is read can then be compared with the value that it should have.
-/

namespace Amalgam.Value

mutual

def same : Value → Value → Bool
  | .null, .null => true
  | .bool a, .bool b => a == b
  | .int m, .int n => m == n
  | .float x, .float y => x == y
  | .text s, .text t => s == t
  | .list vs, .list ws => sameItems vs ws
  | .map fields, .map bindings => sameFields fields bindings
  | .tuple vs, .tuple ws => sameItems vs ws
  | .set vs, .set ws => sameItems vs ws
  | .bytes bs, .bytes cs => bs == cs
  | .date d, .date e => d == e
  | .moment m, .moment n => m == n
  | .enclosing a, .enclosing b => a == b
  | _, _ => false

def sameItems : List Value → List Value → Bool
  | [], [] => true
  | v :: vs, w :: ws => same v w && sameItems vs ws
  | _, _ => false

def sameFields : List (Value × Value) → List (Value × Value) → Bool
  | [], [] => true
  | (k, v) :: fields, (l, w) :: bindings => same k l && same v w && sameFields fields bindings
  | _, _ => false

end

mutual

theorem same_iff : ∀ v w : Value, same v w = true ↔ v = w
  | .list vs, w => by
    cases w <;> simp [same, sameItems_iff vs]
  | .map fields, w => by
    cases w <;> simp [same, sameFields_iff fields]
  | .tuple vs, w => by
    cases w <;> simp [same, sameItems_iff vs]
  | .set vs, w => by
    cases w <;> simp [same, sameItems_iff vs]
  | .null, w | .bool _, w | .int _, w | .float _, w | .text _, w | .bytes _, w | .date _, w | .moment _, w
  | .enclosing _, w => by
    cases w <;> simp [same]

theorem sameItems_iff : ∀ vs ws : List Value, sameItems vs ws = true ↔ vs = ws
  | [], ws => by
    cases ws <;> simp [sameItems]
  | v :: vs, ws => by
    cases ws <;> simp [sameItems, same_iff v, sameItems_iff vs]

theorem sameFields_iff : ∀ fields bindings : List (Value × Value), sameFields fields bindings = true ↔ fields = bindings
  | [], bindings => by
    cases bindings <;> simp [sameFields]
  | (k, v) :: fields, bindings => by
    cases bindings <;> simp [sameFields, same_iff k, same_iff v, sameFields_iff fields, Prod.ext_iff]

end

instance : DecidableEq Value := fun v w => decidable_of_iff (same v w = true) (same_iff v w)

end Amalgam.Value
