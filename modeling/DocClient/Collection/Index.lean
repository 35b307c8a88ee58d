import DocClient.Collection.Basic
import DocClient.Index.Descriptor

namespace DocClient

/-!
# Index operations

An index is fetched by its name within a collection, or all indexes of a collection at once;
a fetched index can be removed. The path of an index is `_api/index/<collection>/<name>` with
both parts escaped as keys, so removing an index addresses exactly the path it was fetched
from. Listing fails with the first descriptor that does not parse.
-/

namespace Collection

variable {σ : Type}

/-- The path of the index `name` of the collection `collection`. -/
def indexPath (collection name : String) : String :=
  "_api/index/" ++ Key.escape collection ++ "/" ++ Key.escape name

/-- Fetch the index called `name`, which must be non-empty and free of `/`. -/
def index (c : Collection) (name : String) : Op σ (Except Error IndexDescriptor) := do
  if name.isEmpty || name.contains '/' then
    return .error (.invalidArgument ("invalid index name '" ++ name ++ "'"))
  match Request.create .get (indexPath c.name name) with
  | .error e => return .error e
  | .ok req =>
  match ← Op.execute req with
  | .error e => return .error e
  | .ok resp =>
  return do
    resp.checkStatus [200]
    let body ← resp.parseRoot Json.Decoder.value
    IndexDescriptor.ofJson body

/-- Parse each descriptor of a list, failing with the first that does not parse. -/
def parseDescriptors : List Json.Value → Except Error (List IndexDescriptor)
  | [] => .ok []
  | v :: vs => do
    let d ← IndexDescriptor.ofJson v
    let ds ← parseDescriptors vs
    return d :: ds

/-- Fetch all indexes of the collection. -/
def indexes (c : Collection) : Op σ (Except Error (List IndexDescriptor)) := do
  match Request.create .get "_api/index" with
  | .error e => return .error e
  | .ok req =>
  match ← Op.execute (req.setQuery "collection" c.name) with
  | .error e => return .error e
  | .ok resp =>
  return do
    resp.checkStatus [200]
    let items ← resp.parseBody (Json.Decoder.list Json.Decoder.value) "indexes"
    parseDescriptors items

end Collection

/-- Remove a fetched index. -/
def IndexDescriptor.remove {σ : Type} (d : IndexDescriptor) : Op σ (Except Error Unit) := do
  match Request.create .delete (Collection.indexPath d.collection d.name) with
  | .error e => return .error e
  | .ok req =>
  match ← Op.execute req with
  | .error e => return .error e
  | .ok resp => return resp.checkStatus [200]

end DocClient
