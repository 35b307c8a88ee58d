import DocClient.Key
import DocClient.Call.Link

namespace DocClient

/-!
# Collections

A collection holds documents or edges; the kind decides the path segment of its requests and
the name of the envelope a document arrives in. A collection name is non-empty, at most 256
bytes, and made of ASCII letters, digits, `_` and `-`. A document is addressed by the
collection's path followed by the escaped key as one more segment.
-/

/-- The kind of a collection. -/
inductive CollectionKind where
  | document
  | edge
  deriving DecidableEq, Inhabited, Repr

namespace CollectionKind

/-- The envelope a document arrives in, which is also the path segment of the kind. -/
def envelope : CollectionKind → String
  | document => "document"
  | edge => "edge"

/-- The name of a kind in debug views. -/
def debugName : CollectionKind → String
  | document => "Document"
  | edge => "Edge"

end CollectionKind

/-- A handle to a collection. -/
structure Collection where
  name : String
  kind : CollectionKind
  deriving DecidableEq, Inhabited, Repr

namespace Collection

/-- Whether a character may appear in a collection name. -/
def nameChar (c : Char) : Bool :=
  ('A' ≤ c && c ≤ 'Z') || ('a' ≤ c && c ≤ 'z') || ('0' ≤ c && c ≤ '9') || c == '_' || c == '-'

/-- Whether a collection name is valid. -/
def validName (name : String) : Bool :=
  !name.isEmpty && name.utf8ByteSize ≤ 256 && name.toList.all nameChar

/-- A handle to the collection `name` of the given kind, if the name is valid. -/
def open? (name : String) (kind : CollectionKind) : Except Error Collection :=
  if validName name then .ok { name := name, kind := kind }
  else .error (.invalidArgument ("invalid collection name '" ++ name ++ "'"))

/-- The path of the collection, relative to the database. -/
def path (c : Collection) : String :=
  "_api/" ++ c.kind.envelope ++ "/" ++ c.name

/-- The path of the document stored under `key`. -/
def documentPath (c : Collection) (key : String) : String :=
  c.path ++ "/" ++ Key.escape key

/-- The debug view of a collection. -/
def debugText (c : Collection) : String :=
  "Collection \x7b name: " ++ Text.debugQuote c.name ++ ", kind: " ++ c.kind.debugName ++ " \x7d"

end Collection

end DocClient
