import Amalgam.Config.Fault
/-!
# Merging configurations

Later configurations win key by key: where both bind a key to a mapping the two mappings are merged, and anywhere else
the later value replaces the earlier one. Keys keep the place where they were first seen.
-/

namespace Amalgam.Config

mutual

/-- What a key is bound to when `later` is laid over what it was bound to before. -/
def overlay (earlier : Option Value) : Value → Value
  | .map later =>
    match earlier with
    | some (.map fields) => .map (mergeInto fields later)
    | _ => .map later
  | later => later

/-- Lays the bindings of a mapping over another, one by one. -/
def mergeInto (earlier : Fields) : List (Value × Value) → Fields
  | [] => earlier
  | (key, later) :: rest => mergeInto (Fields.put earlier key (overlay (Fields.find? earlier key) later)) rest

end

def merge (configs : List Fields) : Fields :=
  configs.foldl mergeInto []

/-- Merges values that should be mappings; one that is not given counts as empty. -/
def mergeValues (configs : List Value) : Except Misuse Fields :=
  configs.foldlM (fun merged config =>
    match config with
    | .map fields => .ok (mergeInto merged fields)
    | v => if v.isGiven then .error (.noMember v.fullKindName "items") else .ok merged) []

end Amalgam.Config
