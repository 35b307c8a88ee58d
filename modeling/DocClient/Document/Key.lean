import DocClient.Error

namespace DocClient

/-!
# The key a document carries

A document given as JSON names its own key in the member `_key`. It must be an object with a
string `_key`; a missing or `null` key and a key of another kind are reported differently.
-/

namespace Json.Value

/-- The key a document names in its `_key` member. -/
def documentKey (v : Json.Value) : Except Error String :=
  match v with
  | .object members =>
    match Json.Value.findMember "_key" members with
    | none => .error (.invalidArgument "document contains no '_key' entry")
    | some .null => .error (.invalidArgument "document contains no '_key' entry")
    | some (.string k) => .ok k
    | some other => .error (.invalidArgument ("document '_key' must be a string, got " ++ other.kindName))
  | other => .error (.invalidArgument ("document must be an object, got " ++ other.kindName))

end Json.Value

end DocClient
