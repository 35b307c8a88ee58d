import DocClient.Error
import DocClient.Json.Writer

namespace DocClient

/-!
# Requests

A request names a method and a path relative to the database, and carries query parameters,
headers and possibly a JSON body. Query parameters behave as a map that remembers the order in
which names were first set: setting a name again replaces its value in place. Headers are a
plain list: setting one always appends.

The lemmas beside the operations say what each does to the query and the headers: after
`setQuery name value`, `queryParam name` is `value` and every other name reads as before; the
names keep their order, and a new name goes to the end.
-/

/-- An HTTP method. -/
inductive Method where
  | get
  | head
  | post
  | patch
  | put
  | delete
  deriving DecidableEq, Inhabited, Repr

namespace Method

/-- The method's name on the wire. -/
def name : Method → String
  | get => "GET"
  | head => "HEAD"
  | post => "POST"
  | patch => "PATCH"
  | put => "PUT"
  | delete => "DELETE"

/-- Whether sending the request twice has the effect of sending it once: all but POST and
PATCH. -/
def isIdempotent : Method → Bool
  | post => false
  | patch => false
  | _ => true

/-- The method of a name. -/
def ofName? (s : String) : Option Method :=
  [get, head, post, patch, put, delete].find? (fun m => m.name = s)

end Method

/-- A request waiting to be sent. -/
structure Request where
  method : Method
  path : String
  query : List (String × String) := []
  headers : List (String × String) := []
  body : Option Json.Value := none
  deriving Inhabited

/-- Set `name` to `value` in a parameter list, in place if the name is there, else at the end. -/
def setParam (name value : String) : List (String × String) → List (String × String)
  | [] => [(name, value)]
  | (k, v) :: rest => if k = name then (k, value) :: rest else (k, v) :: setParam name value rest

/-- The value of the first parameter called `name`. -/
def findParam (name : String) : List (String × String) → Option String
  | [] => none
  | (k, v) :: rest => if k = name then some v else findParam name rest

@[simp] theorem findParam_setParam_self (name value : String) (ps : List (String × String)) :
    findParam name (setParam name value ps) = some value := by
  induction ps with
  | nil => simp [setParam, findParam]
  | cons p rest ih =>
    obtain ⟨k, v⟩ := p
    by_cases h : k = name
    · simp [setParam, findParam, h]
    · simp [setParam, findParam, h, ih]

theorem findParam_setParam_of_ne {name other : String} (value : String)
    (ps : List (String × String)) (h : other ≠ name) :
    findParam other (setParam name value ps) = findParam other ps := by
  induction ps with
  | nil => simp [setParam, findParam, Ne.symm h]
  | cons p rest ih =>
    obtain ⟨k, v⟩ := p
    by_cases hk : k = name
    · subst hk
      simp [setParam, findParam, Ne.symm h]
    · by_cases ho : k = other
      · subst ho
        simp [setParam, findParam, hk]
      · simp [setParam, findParam, hk, ho, ih]

theorem map_fst_setParam_of_mem {name : String} (value : String) (ps : List (String × String))
    (h : name ∈ ps.map Prod.fst) : (setParam name value ps).map Prod.fst = ps.map Prod.fst := by
  induction ps with
  | nil => simp at h
  | cons p rest ih =>
    obtain ⟨k, v⟩ := p
    by_cases hk : k = name
    · simp [setParam, hk]
    · have hr : name ∈ rest.map Prod.fst := by
        simp only [List.map_cons, List.mem_cons] at h
        rcases h with h | h
        · exact absurd h.symm hk
        · exact h
      simp [setParam, hk, ih hr]

theorem map_fst_setParam_of_not_mem {name : String} (value : String) (ps : List (String × String))
    (h : name ∉ ps.map Prod.fst) :
    (setParam name value ps).map Prod.fst = ps.map Prod.fst ++ [name] := by
  induction ps with
  | nil => simp [setParam]
  | cons p rest ih =>
    obtain ⟨k, v⟩ := p
    have hk : k ≠ name := fun e => h (by simp [e])
    have hr : name ∉ rest.map Prod.fst := fun m => h (by simp [m])
    simp [setParam, hk, ih hr]

namespace Request

/-- A request for `path` relative to the database, which must not be empty; leading slashes
are dropped. -/
def create (method : Method) (path : String) : Except Error Request :=
  if path.isEmpty then .error (.invalidArgument "request path is empty")
  else .ok { method := method, path := String.ofList (path.toList.dropWhile (· == '/')) }

/-- Set a query parameter, replacing an earlier value of the same name in place. -/
def setQuery (r : Request) (name value : String) : Request :=
  { r with query := setParam name value r.query }

/-- The value of a query parameter. -/
def queryParam (r : Request) (name : String) : Option String :=
  findParam name r.query

/-- Add a header. -/
def setHeader (r : Request) (name value : String) : Request :=
  { r with headers := r.headers ++ [(name, value)] }

/-- Set the body. -/
def setBody (r : Request) (body : Json.Value) : Request :=
  { r with body := some body }

@[simp] theorem queryParam_setQuery_self (r : Request) (name value : String) :
    (r.setQuery name value).queryParam name = some value :=
  findParam_setParam_self name value r.query

theorem queryParam_setQuery_of_ne (r : Request) {name other : String} (value : String)
    (h : other ≠ name) : (r.setQuery name value).queryParam other = r.queryParam other :=
  findParam_setParam_of_ne value r.query h

@[simp] theorem setQuery_headers (r : Request) (name value : String) :
    (r.setQuery name value).headers = r.headers := rfl

@[simp] theorem setQuery_body (r : Request) (name value : String) :
    (r.setQuery name value).body = r.body := rfl

@[simp] theorem setHeader_headers (r : Request) (name value : String) :
    (r.setHeader name value).headers = r.headers ++ [(name, value)] := rfl

@[simp] theorem setHeader_query (r : Request) (name value : String) :
    (r.setHeader name value).query = r.query := rfl

@[simp] theorem setBody_body (r : Request) (b : Json.Value) : (r.setBody b).body = some b := rfl

@[simp] theorem setBody_query (r : Request) (b : Json.Value) : (r.setBody b).query = r.query := rfl

/-- A list of name-value pairs as JSON pairs. -/
def pairsValue (ps : List (String × String)) : Json.Value :=
  .array (ps.map fun (k, v) => .array [.string k, .string v])

/-- The request as JSON: method, path, query and headers as pairs, and the body when set. -/
def toValue (r : Request) : Json.Value :=
  Json.Value.ofMembers
    ([("method", .string r.method.name), ("path", .string r.path),
      ("query", pairsValue r.query), ("headers", pairsValue r.headers)] ++
      match r.body with
      | some b => [("body", b)]
      | none => [])

end Request

end DocClient
