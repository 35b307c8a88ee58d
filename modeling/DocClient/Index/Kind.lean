import DocClient.Error

namespace DocClient

/-!
# Kinds of index

The server reports the kind of an index by a lowercase name. Older servers report the geo
index they built as `geo1` or `geo2`; both read as `geo`. Names are matched exactly, case
included.
-/

/-- The kind of an index. -/
inductive IndexKind where
  | primary
  | fulltext
  | hash
  | skiplist
  | persistent
  | geo
  deriving DecidableEq, Inhabited, Repr

namespace IndexKind

/-- The wire name of a kind. -/
def name : IndexKind → String
  | primary => "primary"
  | fulltext => "fulltext"
  | hash => "hash"
  | skiplist => "skiplist"
  | persistent => "persistent"
  | geo => "geo"

/-- The name of a kind in debug views. -/
def debugName : IndexKind → String
  | primary => "Primary"
  | fulltext => "Fulltext"
  | hash => "Hash"
  | skiplist => "Skiplist"
  | persistent => "Persistent"
  | geo => "Geo"

/-- Read a kind from its wire name. -/
def parse (s : String) : Except Error IndexKind :=
  if s = "primary" then .ok primary
  else if s = "fulltext" then .ok fulltext
  else if s = "hash" then .ok hash
  else if s = "skiplist" then .ok skiplist
  else if s = "persistent" then .ok persistent
  else if s = "geo" ∨ s = "geo1" ∨ s = "geo2" then .ok geo
  else .error (.invalidArgument ("unknown index type '" ++ s ++ "'"))

end IndexKind

end DocClient
