import Mathlib.Data.List.Induction
import DocClient.Call.Settings

namespace DocClient

/-!
# The query of a request is an insertion-ordered map

A request is created with no query parameters, no headers and no body, and is then changed by
calls of three kinds: set a query parameter, add a header, set the body. Over every sequence of
such calls the query stays a map: no name occurs twice, each name reads as the value it was last
set to, and the names stand in the order in which each was first set. The headers are every
header added, in call order, and the body is the last one set.

Turning a call's options into settings is such a sequence too: `extract` sets one query
parameter for each option the call enables, in a fixed order, and touches nothing else, so a
request built by calls is still one after it.

Each fact is proved once for a single call and carried over a sequence by induction on its last
call, which is the order in which `edits` applies them.
-/

namespace Request

/-- One call that changes a request after it is created. -/
inductive Edit where
  | setQuery (name value : String)
  | setHeader (name value : String)
  | setBody (body : Json.Value)

namespace Edit

/-- The names given to `setQuery`, in call order. -/
def queryNames (es : List Edit) : List String :=
  es.filterMap fun
    | .setQuery k _ => some k
    | _ => none

/-- The values given to `setQuery` for `name`, in call order. -/
def queryValues (name : String) (es : List Edit) : List String :=
  es.filterMap fun
    | .setQuery k v => if k = name then some v else none
    | _ => none

/-- The headers added, in call order. -/
def headers (es : List Edit) : List (String × String) :=
  es.filterMap fun
    | .setHeader k v => some (k, v)
    | _ => none

/-- The bodies set, in call order. -/
def bodies (es : List Edit) : List Json.Value :=
  es.filterMap fun
    | .setBody b => some b
    | _ => none

end Edit

/-- The request after one call. -/
def edit (r : Request) : Edit → Request
  | .setQuery k v => r.setQuery k v
  | .setHeader k v => r.setHeader k v
  | .setBody b => r.setBody b

/-- The request after a sequence of calls, made in order. -/
def edits (r : Request) (es : List Edit) : Request :=
  es.foldl edit r

@[simp] theorem edits_nil (r : Request) : r.edits [] = r := rfl

theorem edits_append (r : Request) (es es' : List Edit) :
    r.edits (es ++ es') = (r.edits es).edits es' :=
  List.foldl_append

@[simp] theorem edits_append_singleton (r : Request) (es : List Edit) (e : Edit) :
    r.edits (es ++ [e]) = (r.edits es).edit e :=
  List.foldl_append

/-! ## One call -/

@[simp] theorem setHeader_body (r : Request) (name value : String) :
    (r.setHeader name value).body = r.body := rfl

@[simp] theorem setBody_headers (r : Request) (b : Json.Value) : (r.setBody b).headers = r.headers :=
  rfl

@[simp] theorem edit_method (r : Request) (e : Edit) : (r.edit e).method = r.method := by
  cases e <;> rfl

@[simp] theorem edit_path (r : Request) (e : Edit) : (r.edit e).path = r.path := by
  cases e <;> rfl

@[simp] theorem queryParam_setHeader (r : Request) (name value n : String) :
    (r.setHeader name value).queryParam n = r.queryParam n := rfl

@[simp] theorem queryParam_setBody (r : Request) (b : Json.Value) (n : String) :
    (r.setBody b).queryParam n = r.queryParam n := rfl

/-- Setting a parameter keeps the names where they are, and puts a new name last. -/
theorem names_setQuery (r : Request) (name value : String) :
    (r.setQuery name value).query.map Prod.fst =
      r.query.map Prod.fst ++ if name ∈ r.query.map Prod.fst then [] else [name] := by
  by_cases present : name ∈ r.query.map Prod.fst
  · rw [if_pos present, List.append_nil]
    exact map_fst_setParam_of_mem value r.query present
  · rw [if_neg present]
    exact map_fst_setParam_of_not_mem value r.query present

/-- No call makes a name occur twice: `setQuery` adds a name only when it is not there. -/
theorem nodup_names_edit (r : Request) (e : Edit) (distinct : (r.query.map Prod.fst).Nodup) :
    ((r.edit e).query.map Prod.fst).Nodup := by
  cases e with
  | setQuery k v =>
    rw [edit, names_setQuery]
    split
    case isTrue => simpa using distinct
    case isFalse absent =>
      refine List.nodup_append.2 ⟨distinct, List.nodup_cons.2 ⟨List.not_mem_nil, .nil⟩, ?_⟩
      intro a member b added same
      rw [List.mem_singleton.1 added] at same
      exact absent (same ▸ member)
  | setHeader k v => exact distinct
  | setBody b => exact distinct

/-- A parameter reads as the value it was just set to, and every other as before. -/
theorem queryParam_edit_setQuery (r : Request) (name value n : String) :
    (r.edit (.setQuery name value)).queryParam n =
      if name = n then some value else r.queryParam n := by
  split
  case isTrue same => rw [← same]; exact queryParam_setQuery_self r name value
  case isFalse other => exact queryParam_setQuery_of_ne r value (Ne.symm other)

/-! ## A sequence of calls -/

@[simp] theorem edits_method (r : Request) (es : List Edit) : (r.edits es).method = r.method := by
  induction es using List.reverseRecOn with
  | nil => rfl
  | append_singleton es e ih => simp [ih]

@[simp] theorem edits_path (r : Request) (es : List Edit) : (r.edits es).path = r.path := by
  induction es using List.reverseRecOn with
  | nil => rfl
  | append_singleton es e ih => simp [ih]

/-- The query names stay distinct over every sequence of calls. -/
theorem nodup_names_edits (r : Request) (es : List Edit)
    (distinct : (r.query.map Prod.fst).Nodup) : ((r.edits es).query.map Prod.fst).Nodup := by
  induction es using List.reverseRecOn with
  | nil => exact distinct
  | append_singleton es e ih =>
    rw [edits_append_singleton]
    exact nodup_names_edit _ e ih

/-- Keeping first occurrences of a list with one more element at its end. -/
theorem eraseDups_append_singleton (l : List String) (a : String) :
    (l ++ [a]).eraseDups = l.eraseDups ++ if a ∈ l then [] else [a] := by
  rw [List.eraseDups_append]
  by_cases present : a ∈ l <;> simp [List.removeAll, present, List.eraseDups_cons]

/-- Started with no query, the names stand in the order in which each was first set. -/
theorem names_edits (r : Request) (bare : r.query = []) (es : List Edit) :
    (r.edits es).query.map Prod.fst = (Edit.queryNames es).eraseDups := by
  induction es using List.reverseRecOn with
  | nil => simp [bare, Edit.queryNames]
  | append_singleton es e ih =>
    rw [edits_append_singleton]
    cases e with
    | setQuery k v =>
      have named : Edit.queryNames (es ++ [.setQuery k v]) = Edit.queryNames es ++ [k] := by
        simp [Edit.queryNames]
      rw [edit, names_setQuery, named, eraseDups_append_singleton, ih]
      -- the names so far are the first occurrences, so `k` is among them iff it was ever set
      simp only [List.mem_eraseDups]
    | setHeader k v => simp [edit, ih, Edit.queryNames]
    | setBody b => simp [edit, ih, Edit.queryNames]

/-- A parameter reads as the last value set for it, or as before the calls when none was. -/
theorem queryParam_edits (r : Request) (es : List Edit) (n : String) :
    (r.edits es).queryParam n = (Edit.queryValues n es).getLast?.or (r.queryParam n) := by
  induction es using List.reverseRecOn with
  | nil => simp [Edit.queryValues]
  | append_singleton es e ih =>
    rw [edits_append_singleton, Edit.queryValues, List.filterMap_append, List.getLast?_append]
    cases e with
    | setQuery k v =>
      rw [queryParam_edit_setQuery]
      by_cases same : k = n
      · simp [same]
      · simp [same, ih, Edit.queryValues]
    | setHeader k v => simpa [edit, Edit.queryValues] using ih
    | setBody b => simpa [edit, Edit.queryValues] using ih

/-- The headers are those before the calls, then every header added, in call order. -/
theorem headers_edits (r : Request) (es : List Edit) :
    (r.edits es).headers = r.headers ++ Edit.headers es := by
  induction es using List.reverseRecOn with
  | nil => simp [Edit.headers]
  | append_singleton es e ih =>
    rw [edits_append_singleton, Edit.headers, List.filterMap_append, ← Edit.headers]
    cases e <;> simp [edit, ih]

/-- The body is the last one set, or the one before the calls when none was. -/
theorem body_edits (r : Request) (es : List Edit) :
    (r.edits es).body = (Edit.bodies es).getLast?.or r.body := by
  induction es using List.reverseRecOn with
  | nil => simp [Edit.bodies]
  | append_singleton es e ih =>
    rw [edits_append_singleton, Edit.bodies, List.filterMap_append, List.getLast?_append]
    cases e with
    | setQuery k v => exact ih
    | setHeader k v => exact ih
    | setBody b => rfl

end Request

namespace ContextSettings

/-- The calls `extract` makes: `setQuery` for each option the call enables, in the order silent,
returnOld, returnNew, waitForSync, overwriteMode. -/
def optionEdits (c : CallConfig) : List Request.Edit :=
  (if c.silent then [.setQuery "silent" "true"] else []) ++
  (if c.returnOld.isSome then [.setQuery "returnOld" "true"] else []) ++
  (if c.returnNew.isSome then [.setQuery "returnNew" "true"] else []) ++
  (if c.waitForSync then [.setQuery "waitForSync" "true"] else []) ++
  (match c.overwrite with
   | some m => [.setQuery "overwriteMode" m.name]
   | none => [])

theorem foldl_setQuery_eq_edits (ps : List (String × String)) (r : Request) :
    ps.foldl (fun r (k, v) => r.setQuery k v) r =
      r.edits (ps.map fun p => .setQuery p.1 p.2) := by
  induction ps generalizing r with
  | nil => rfl
  | cons p ps ih => exact ih (r.setQuery p.1 p.2)

theorem params_as_edits (c : CallConfig) :
    (params c).map (fun p => Request.Edit.setQuery p.1 p.2) = optionEdits c := by
  unfold params optionEdits
  cases c.overwrite <;> simp [apply_ite (List.map _)]

/-- `extract` sets the option parameters on a request, as the calls `optionEdits` would. -/
theorem extract_snd_eq_edits (c : CallConfig) (r : Request) :
    (extract c r).2 = r.edits (optionEdits c) := by
  rw [← params_as_edits, ← foldl_setQuery_eq_edits]
  rfl

/-- Calls that only set query parameters add no header. -/
theorem headers_map_setQuery (ps : List (String × String)) :
    Request.Edit.headers (ps.map fun p => .setQuery p.1 p.2) = [] := by
  induction ps with
  | nil => rfl
  | cons p ps ih => exact ih

/-- Calls that only set query parameters set no body. -/
theorem bodies_map_setQuery (ps : List (String × String)) :
    Request.Edit.bodies (ps.map fun p => .setQuery p.1 p.2) = [] := by
  induction ps with
  | nil => rfl
  | cons p ps ih => exact ih

theorem headers_optionEdits (c : CallConfig) : Request.Edit.headers (optionEdits c) = [] := by
  rw [← params_as_edits]
  exact headers_map_setQuery (params c)

theorem bodies_optionEdits (c : CallConfig) : Request.Edit.bodies (optionEdits c) = [] := by
  rw [← params_as_edits]
  exact bodies_map_setQuery (params c)

@[simp] theorem extract_method (c : CallConfig) (r : Request) : (extract c r).2.method = r.method := by
  rw [extract_snd_eq_edits, Request.edits_method]

@[simp] theorem extract_path (c : CallConfig) (r : Request) : (extract c r).2.path = r.path := by
  rw [extract_snd_eq_edits, Request.edits_path]

@[simp] theorem extract_headers (c : CallConfig) (r : Request) :
    (extract c r).2.headers = r.headers := by
  rw [extract_snd_eq_edits, Request.headers_edits, headers_optionEdits, List.append_nil]

@[simp] theorem extract_body (c : CallConfig) (r : Request) : (extract c r).2.body = r.body := by
  rw [extract_snd_eq_edits, Request.body_edits, bodies_optionEdits, List.getLast?_nil,
    Option.none_or]

end ContextSettings

namespace Request

/-! ## Requests built by calls -/

/-- What a request shows after calls `es` made on one with no query, headers or body: its query
maps each name set to the last value set for it, with no name twice and the names in the order
in which each was first set; its headers are those added, in call order; its body is the last
one set. -/
structure BuiltBy (q : Request) (es : List Edit) : Prop where
  distinct : (q.query.map Prod.fst).Nodup
  queryParam_eq : ∀ n, q.queryParam n = (Edit.queryValues n es).getLast?
  names_eq : q.query.map Prod.fst = (Edit.queryNames es).eraseDups
  headers_eq : q.headers = Edit.headers es
  body_eq : q.body = (Edit.bodies es).getLast?

/-- A request with no query, headers or body, changed by any calls, is built by them. -/
theorem builtBy_edits (r : Request) (bareQuery : r.query = []) (bareHeaders : r.headers = [])
    (bareBody : r.body = none) (es : List Edit) : (r.edits es).BuiltBy es where
  distinct := nodup_names_edits r es (bareQuery ▸ .nil)
  queryParam_eq n := by
    have unset : r.queryParam n = none := by simp [queryParam, findParam, bareQuery]
    rw [queryParam_edits, unset, Option.or_none]
  names_eq := names_edits r bareQuery es
  headers_eq := by rw [headers_edits, bareHeaders, List.nil_append]
  body_eq := by rw [body_edits, bareBody, Option.or_none]

/-- Setting a name again replaces its value where it stands. -/
example : (({ method := .post, path := "_api/document/users" } : Request).edits
    [.setQuery "silent" "false", .setQuery "silent" "true", .setQuery "waitForSync" "true"]).query =
      [("silent", "true"), ("waitForSync", "true")] := by
  decide

/-- A request for a path that is not empty is created, with no query, headers or body. -/
theorem create_of_ne_empty (m : Method) {path : String} (nonempty : path ≠ "") :
    create m path = .ok { method := m, path := String.ofList (path.toList.dropWhile (· == '/')) } := by
  have full : path.isEmpty = false := by
    cases h : path.isEmpty
    · rfl
    · exact absurd (String.isEmpty_iff.1 h) nonempty
  simp [create, full]

/-- A request created for a path that is not empty and then changed by any calls is built by
them. Turning a call's options into settings makes the calls `optionEdits` on it, so the request
`extract` gives back is built by all the calls together and keeps method, path, headers and
body; the settings it returns are the call's options. -/
theorem create_edits_query_map (m : Method) {path : String} (nonempty : path ≠ "")
    (es : List Edit) (c : CallConfig) :
    ∃ r, create m path = .ok r ∧ (r.edits es).BuiltBy es ∧
      (ContextSettings.extract c (r.edits es)).2 = r.edits (es ++ ContextSettings.optionEdits c) ∧
      (ContextSettings.extract c (r.edits es)).2.BuiltBy (es ++ ContextSettings.optionEdits c) ∧
      (ContextSettings.extract c (r.edits es)).2.method = (r.edits es).method ∧
      (ContextSettings.extract c (r.edits es)).2.path = (r.edits es).path ∧
      (ContextSettings.extract c (r.edits es)).2.headers = (r.edits es).headers ∧
      (ContextSettings.extract c (r.edits es)).2.body = (r.edits es).body ∧
      (ContextSettings.extract c (r.edits es)).1.silent = c.silent ∧
      (ContextSettings.extract c (r.edits es)).1.returnOld = c.returnOld ∧
      (ContextSettings.extract c (r.edits es)).1.returnNew = c.returnNew ∧
      (ContextSettings.extract c (r.edits es)).1.waitForSync = c.waitForSync ∧
      (ContextSettings.extract c (r.edits es)).1.overwrite = c.overwrite := by
  -- the created request has no query, headers or body
  let r : Request := { method := m, path := String.ofList (path.toList.dropWhile (· == '/')) }
  have built := builtBy_edits r rfl rfl rfl
  have extracted : (ContextSettings.extract c (r.edits es)).2 =
      r.edits (es ++ ContextSettings.optionEdits c) := by
    rw [ContextSettings.extract_snd_eq_edits, edits_append]
  refine ⟨r, create_of_ne_empty m nonempty, built es, extracted, extracted ▸ built _,
    ContextSettings.extract_method c _, ContextSettings.extract_path c _,
    ContextSettings.extract_headers c _, ContextSettings.extract_body c _, rfl, rfl, rfl, rfl, rfl⟩

/-- Two values for one name and a header among the calls, then a silent, synced call that
replaces on overwrite. -/
theorem create_edits_query_map_users :
    "_api/document/users" ≠ "" ∧
    ∃ r, create .post "_api/document/users" = .ok r ∧
      let es : List Edit := [.setQuery "silent" "false", .setHeader "x-trace" "1",
        .setQuery "silent" "true", .setQuery "waitForSync" "true", .setBody .null]
      let c : CallConfig := { silent := true, overwrite := some .replace }
      (r.edits es).BuiltBy es ∧
      (ContextSettings.extract c (r.edits es)).2 = r.edits (es ++ ContextSettings.optionEdits c) ∧
      (ContextSettings.extract c (r.edits es)).2.BuiltBy (es ++ ContextSettings.optionEdits c) ∧
      (ContextSettings.extract c (r.edits es)).2.method = (r.edits es).method ∧
      (ContextSettings.extract c (r.edits es)).2.path = (r.edits es).path ∧
      (ContextSettings.extract c (r.edits es)).2.headers = (r.edits es).headers ∧
      (ContextSettings.extract c (r.edits es)).2.body = (r.edits es).body ∧
      (ContextSettings.extract c (r.edits es)).1.silent = c.silent ∧
      (ContextSettings.extract c (r.edits es)).1.returnOld = c.returnOld ∧
      (ContextSettings.extract c (r.edits es)).1.returnNew = c.returnNew ∧
      (ContextSettings.extract c (r.edits es)).1.waitForSync = c.waitForSync ∧
      (ContextSettings.extract c (r.edits es)).1.overwrite = c.overwrite :=
  ⟨by decide, create_edits_query_map .post (by decide) _ _⟩

end Request

end DocClient
