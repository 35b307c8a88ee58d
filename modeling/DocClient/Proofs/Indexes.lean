import DocClient.Collection.Index
import DocClient.Proofs.Addressing
import DocClient.Proofs.Run

namespace DocClient

/-!
# Index descriptors and the paths of indexes

A descriptor is accepted only when its id has exactly two pieces around `/`: the collection
before it and the name after it. Each part is then free of `/`, and the two put back together
around one `/` give the id. Nothing more is checked of them, so an id that starts or ends with
`/` (`"/"`, `"a/"`, `"/b"`) is accepted with an empty collection or name; both parts are
non-empty exactly when the id neither starts nor ends with `/`.

Fetching an index and removing it address the same path: a descriptor whose id is a collection's
name, `/` and an index name that `Collection.index` accepts reads back that collection and that
name, so removing it sends `DELETE` to the path `GET` was sent to. Listing the indexes of a
collection answers every descriptor of the `indexes` array parsed in order, or the failure of the
first one that does not parse.

Main statement: `IndexDescriptor.accepted_shape_and_paths`;
`IndexDescriptor.ofJson_accepts_empty_parts` is an accepted id with empty parts.
-/

/-- No piece of a split holds the separator. -/
theorem List.not_mem_of_mem_splitOn {x : Char} :
    ∀ {l piece : List Char}, piece ∈ l.splitOn x → x ∉ piece
  | [], piece, member => by
    rw [List.splitOn_nil, List.mem_singleton] at member
    subst member
    exact List.not_mem_nil
  | c :: cs, piece, member => by
    rw [List.splitOn_cons_eq_if_modifyHead] at member
    split at member
    · -- the separator closes a piece and starts an empty one
      rcases List.mem_cons.mp member with rfl | later
      · exact List.not_mem_nil
      · exact List.not_mem_of_mem_splitOn later
    · -- any other character joins the first piece
      rename_i other
      obtain ⟨first, rest, split⟩ := List.exists_cons_of_ne_nil (List.splitOn_ne_nil x cs)
      rw [split, List.modifyHead_cons] at member
      rcases List.mem_cons.mp member with rfl | later
      · intro inside
        rcases List.mem_cons.mp inside with same | deeper
        · exact other (by simp [same])
        · exact List.not_mem_of_mem_splitOn (split ▸ List.mem_cons_self ..) deeper
      · exact List.not_mem_of_mem_splitOn (split ▸ List.mem_cons_of_mem first later)

/-- The separator stands first exactly when the piece before it is empty. -/
theorem List.head?_append_cons_ne_iff {p q : List Char} {x : Char} (outside : x ∉ p) :
    (p ++ x :: q).head? ≠ some x ↔ p ≠ [] := by
  cases p with
  | nil => simp
  | cons c cs =>
    simp only [List.cons_append, List.head?_cons, ne_eq, Option.some.injEq, reduceCtorEq,
      not_false_eq_true, iff_true]
    rintro rfl
    exact outside List.mem_cons_self

/-- The separator stands last exactly when the piece after it is empty. -/
theorem List.getLast?_append_cons_ne_iff {p q : List Char} {x : Char} (outside : x ∉ q) :
    (p ++ x :: q).getLast? ≠ some x ↔ q ≠ [] := by
  rcases List.eq_nil_or_concat q with rfl | ⟨init, c, rfl⟩
  · simp
  · rw [List.concat_eq_append] at outside ⊢
    rw [← List.cons_append, ← List.append_assoc, List.getLast?_append]
    simp only [List.getLast?_singleton, Option.some_or, ne_eq, Option.some.injEq,
      List.append_eq_nil_iff, List.cons_ne_nil, and_false, not_false_eq_true, iff_true]
    rintro rfl
    exact outside (by simp)

/-- A list that splits into two pieces is the first, the separator, and the second. -/
theorem List.eq_append_cons_of_splitOn {l a b : List Char} {x : Char}
    (split : l.splitOn x = [a, b]) : l = a ++ x :: b := by
  have joined : [x].intercalate (l.splitOn x) = l := List.intercalate_splitOn x
  rw [split] at joined
  simpa [List.intercalate] using joined.symm

theorem Request.create_indexPath (method : Method) (collection name : String) :
    Request.create method (Collection.indexPath collection name) =
      .ok { method := method, path := Collection.indexPath collection name } := by
  have leading : (Collection.indexPath collection name).toList.dropWhile (· == '/') =
      (Collection.indexPath collection name).toList := by
    simp [Collection.indexPath]
  have nonempty : (Collection.indexPath collection name).isEmpty = false := by
    simp [Collection.indexPath, String.isEmpty]
  rw [Request.create, if_neg (by simp [nonempty]), leading, String.ofList_toList]

namespace Op

variable {σ : Type} {link : Link σ} {w : World σ}

/-- An execute followed by a step that leaves the world alone hands over exactly its request. -/
theorem run_execute_bind_sent {α : Type} (r : Request) {k : Except Error Response → Op σ α}
    (keeps : ∀ a w', (Op.run link w' (k a)).2 = w') :
    (Op.run link w (Op.execute r >>= k)).2.sent = w.sent ++ [r] := by
  rw [run_bind, run_execute]
  rcases handed : w.handOver link r with ⟨reply, w₁⟩
  have sent : w₁.sent = w.sent ++ [r] := by rw [← World.handOver_sent w link, handed]
  cases reply
  · simp only [keeps, sent]
  · exact sent

end Op

namespace IndexDescriptor

/-- An accepted descriptor keeps the id it was sent with, which is non-empty and has two pieces
around `/`. -/
theorem ofJson_id {v : Json.Value} {d : IndexDescriptor} (accepted : ofJson v = .ok d) :
    d.id ≠ "" ∧ (d.id.toList.splitOn '/').length = 2 := by
  unfold ofJson at accepted
  split at accepted
  · cases accepted
  · rename_i w _
    unfold ofWire at accepted
    split at accepted
    · cases accepted
    · rename_i nonempty
      split at accepted
      · cases accepted
      · rename_i pieces
        cases kind : IndexKind.parse w.kind with
        | error e => simp [kind, bind, Except.bind] at accepted
        | ok k =>
          simp only [kind, bind, Except.bind, pure, Except.pure, Except.ok.injEq] at accepted
          subst accepted
          exact ⟨by simpa using nonempty, by simpa using pieces⟩

theorem collection_of_splitOn {d : IndexDescriptor} {a b : List Char}
    (split : d.id.toList.splitOn '/' = [a, b]) : d.collection = String.ofList a := by
  unfold collection
  rw [split]

theorem name_of_splitOn {d : IndexDescriptor} {a b : List Char}
    (split : d.id.toList.splitOn '/' = [a, b]) : d.name = String.ofList b := by
  unfold name
  rw [split]
  simp [List.intercalate_singleton]

/-- An id that splits into two pieces is its collection, `/`, and its name, and neither part
holds a `/`. -/
theorem parts_of_splitOn {d : IndexDescriptor} {a b : List Char}
    (split : d.id.toList.splitOn '/' = [a, b]) :
    d.id.toList = d.collection.toList ++ '/' :: d.name.toList ∧
      '/' ∉ d.collection.toList ∧ '/' ∉ d.name.toList := by
  rw [collection_of_splitOn split, name_of_splitOn split, String.toList_ofList,
    String.toList_ofList]
  have pieces : ∀ piece ∈ d.id.toList.splitOn '/', '/' ∉ piece := fun _ member =>
    List.not_mem_of_mem_splitOn member
  rw [split] at pieces
  exact ⟨List.eq_append_cons_of_splitOn split, pieces a (by simp), pieces b (by simp)⟩

/-- The shape of an accepted id: it holds exactly one `/`, its collection and its name are the
parts around it and hold no `/`, and both parts are non-empty exactly when the id neither starts
nor ends with `/`. -/
theorem ofJson_id_shape {v : Json.Value} {d : IndexDescriptor} (accepted : ofJson v = .ok d) :
    d.id.toList.count '/' = 1 ∧ d.collection ++ "/" ++ d.name = d.id ∧
      '/' ∉ d.collection.toList ∧ '/' ∉ d.name.toList ∧
      (d.collection ≠ "" ∧ d.name ≠ "" ↔
        d.id.toList.head? ≠ some '/' ∧ d.id.toList.getLast? ≠ some '/') := by
  obtain ⟨a, b, split⟩ : ∃ a b, d.id.toList.splitOn '/' = [a, b] := by
    have two := (ofJson_id accepted).2
    match pieces : d.id.toList.splitOn '/' with
    | [a, b] => exact ⟨a, b, rfl⟩
    | [] | [_] | _ :: _ :: _ :: _ => rw [pieces] at two; simp at two
  obtain ⟨joined, noCollection, noName⟩ := parts_of_splitOn split
  refine ⟨?_, ?_, noCollection, noName, ?_⟩
  · rw [joined, List.count_append, List.count_cons_self, List.count_eq_zero_of_not_mem noCollection,
      List.count_eq_zero_of_not_mem noName]
  · rw [← String.toList_inj, joined]
    simp
  · rw [joined, List.head?_append_cons_ne_iff noCollection,
      List.getLast?_append_cons_ne_iff noName]
    simp

/-- A descriptor whose id is a collection part, `/` and a name part, neither holding `/`, reads
back those two parts. -/
theorem parts_of_id {d : IndexDescriptor} {collection name : String}
    (noCollection : '/' ∉ collection.toList) (noName : '/' ∉ name.toList)
    (id : d.id = collection ++ "/" ++ name) : d.collection = collection ∧ d.name = name := by
  have joined : d.id.toList = ['/'].intercalate [collection.toList, name.toList] := by
    simp [id, List.intercalate]
  have split : d.id.toList.splitOn '/' = [collection.toList, name.toList] := by
    rw [joined]
    apply List.splitOn_intercalate
    · intro piece member
      simp only [List.mem_cons, List.not_mem_nil, or_false] at member
      rcases member with rfl | rfl
      · exact noCollection
      · exact noName
    · simp
  rw [collection_of_splitOn split, name_of_splitOn split, String.ofList_toList,
    String.ofList_toList]
  exact ⟨rfl, rfl⟩

variable {σ : Type}

theorem remove_sent (d : IndexDescriptor) (link : Link σ) (w : World σ) :
    (Op.run link w d.remove).2.sent =
      w.sent ++ [{ method := .delete, path := Collection.indexPath d.collection d.name }] := by
  unfold remove
  rw [Request.create_indexPath]
  exact Op.run_execute_bind_sent _ fun a w' => by cases a <;> rfl

end IndexDescriptor

namespace Collection

variable {σ : Type}

theorem index_sent (c : Collection) {n : String} (nonempty : n ≠ "") (single : '/' ∉ n.toList)
    (link : Link σ) (w : World σ) :
    (Op.run link w (c.index n)).2.sent =
      w.sent ++ [{ method := .get, path := indexPath c.name n }] := by
  have accepted : (n.isEmpty || n.contains '/') = false := by
    simp [String.contains_char_eq, single, nonempty]
  unfold index
  rw [accepted, if_neg Bool.false_ne_true, Request.create_indexPath]
  exact Op.run_execute_bind_sent _ fun a w' => by cases a <;> rfl

/-- Parsing a list of descriptors succeeds exactly when every one parses, each to its own
result in order. -/
theorem parseDescriptors_eq_ok_iff {vs : List Json.Value} {ds : List IndexDescriptor} :
    parseDescriptors vs = .ok ds ↔ vs.map IndexDescriptor.ofJson = ds.map .ok := by
  induction vs generalizing ds with
  | nil => cases ds <;> simp [parseDescriptors]
  | cons v vs ih =>
    simp only [parseDescriptors]
    cases parsed : IndexDescriptor.ofJson v with
    | error e => cases ds <;> simp [bind, Except.bind, parsed]
    | ok d =>
      cases rest : parseDescriptors vs with
      | error e =>
        -- the rest fails, so no list of results can match it
        cases ds with
        | nil => simp [bind, Except.bind]
        | cons d' ds' =>
          simp only [bind, Except.bind, reduceCtorEq, false_iff, List.map_cons, List.cons.injEq,
            not_and]
          intro _ matched
          rw [← ih, rest] at matched
          cases matched
      | ok ds' =>
        cases ds with
        | nil => simp [bind, Except.bind, pure, Except.pure]
        | cons d'' ds'' =>
          simp only [bind, Except.bind, pure, Except.pure, Except.ok.injEq, List.cons.injEq,
            List.map_cons, ← ih, rest, parsed]

/-- Parsing a list of descriptors fails exactly with the failure of the first one that does not
parse, every one before it parsing. -/
theorem parseDescriptors_eq_error_iff {vs : List Json.Value} {e : Error} :
    parseDescriptors vs = .error e ↔
      ∃ pre v post, vs = pre ++ v :: post ∧ (∀ u ∈ pre, ∃ d, IndexDescriptor.ofJson u = .ok d) ∧
        IndexDescriptor.ofJson v = .error e := by
  induction vs with
  | nil =>
    simp only [parseDescriptors, reduceCtorEq, false_iff, not_exists, not_and]
    intro pre v post split
    cases pre <;> cases split
  | cons v vs ih =>
    simp only [parseDescriptors, List.cons_eq_append_iff]
    cases parsed : IndexDescriptor.ofJson v with
    | error e' =>
      simp only [bind, Except.bind, Except.error.injEq]
      constructor
      · rintro rfl
        exact ⟨[], v, vs, .inl ⟨rfl, rfl⟩, nofun, parsed⟩
      · rintro ⟨pre, u, post, ⟨rfl, split⟩ | ⟨tail, rfl, _⟩, before, failed⟩
        · simp only [List.cons.injEq] at split
          rw [split.1, parsed] at failed
          exact Except.error.inj failed
        · obtain ⟨d, ok⟩ := before v List.mem_cons_self
          rw [parsed] at ok
          cases ok
    | ok d =>
      -- the first descriptor parses, so the failure is the first one of the rest
      have later : (do let ds ← parseDescriptors vs; pure (d :: ds)) = Except.error e ↔
          parseDescriptors vs = .error e := by
        cases parseDescriptors vs <;> simp [bind, Except.bind, pure, Except.pure]
      simp only [bind, Except.bind] at later ⊢
      rw [later, ih]
      constructor
      · rintro ⟨pre, u, post, rfl, before, failed⟩
        refine ⟨v :: pre, u, post, .inr ⟨pre, rfl, rfl⟩, fun w member => ?_, failed⟩
        rcases List.mem_cons.mp member with rfl | inPre
        · exact ⟨d, parsed⟩
        · exact before w inPre
      · rintro ⟨pre, u, post, ⟨rfl, split⟩ | ⟨tail, rfl, rfl⟩, before, failed⟩
        · simp only [List.cons.injEq] at split
          rw [split.1, parsed] at failed
          cases failed
        · exact ⟨tail, u, post, rfl, fun w member => before w (List.mem_cons_of_mem v member),
            failed⟩

/-- The request that lists the indexes of a collection. -/
def listRequest (c : Collection) : Request :=
  { method := .get, path := "_api/index", query := [("collection", c.name)] }

/-- An accepted listing answers the descriptors of its `indexes` array, parsed in order. -/
theorem run_indexes_of_listed {c : Collection} {link : Link σ} {w w' : World σ} {resp : Response}
    {items : List Json.Value} (answered : w.handOver link c.listRequest = (.answer (.ok resp), w'))
    (accepted : resp.checkStatus [200] = .ok ())
    (listed : resp.parseBody (Json.Decoder.list Json.Decoder.value) "indexes" = .ok items) :
    Op.run link w c.indexes = (some (parseDescriptors items), w') := by
  have created :
      Request.create .get "_api/index" = .ok { method := .get, path := "_api/index" } := by
    rfl
  unfold indexes
  rw [created]
  dsimp only
  have queried : ({ method := .get, path := "_api/index" } : Request).setQuery "collection" c.name =
      c.listRequest := rfl
  rw [Op.run_bind, queried, Op.run_execute, answered]
  simp only [Op.run_pure, accepted, listed, bind, Except.bind]

end Collection

namespace IndexDescriptor

/-- Accepted descriptors and the paths of indexes. An accepted id holds exactly one `/`; its
collection and its name are the parts around it, hold no `/`, and are both non-empty exactly
when the id neither starts nor ends with `/`. For a collection opened under a valid name and an
index name that fetching accepts, a descriptor whose id joins the two is removed by a `DELETE`
to the very path that the `GET` fetching it was sent to. An accepted listing answers every
descriptor of its `indexes` array parsed in order, or the failure of the first one that does not
parse. -/
theorem accepted_shape_and_paths (v : Json.Value) (d : IndexDescriptor)
    (accepted : ofJson v = .ok d) :
    (d.id.toList.count '/' = 1 ∧ d.collection ++ "/" ++ d.name = d.id ∧
      '/' ∉ d.collection.toList ∧ '/' ∉ d.name.toList ∧
      (d.collection ≠ "" ∧ d.name ≠ "" ↔
        d.id.toList.head? ≠ some '/' ∧ d.id.toList.getLast? ≠ some '/')) ∧
    (∀ (name : String) (kind : CollectionKind) (c : Collection) (n : String),
      Collection.open? name kind = .ok c → n ≠ "" → '/' ∉ n.toList → d.id = c.name ++ "/" ++ n →
      ∀ {σ : Type} (link : Link σ) (w : World σ),
        (Op.run link w d.remove).2.sent =
            w.sent ++ [{ method := .delete, path := Collection.indexPath c.name n }] ∧
          (Op.run link w (c.index n)).2.sent =
            w.sent ++ [{ method := .get, path := Collection.indexPath c.name n }]) ∧
    (∀ {σ : Type} (c : Collection) (link : Link σ) (w w' : World σ) (resp : Response)
      (items : List Json.Value),
      w.handOver link c.listRequest = (.answer (.ok resp), w') →
      resp.checkStatus [200] = .ok () →
      resp.parseBody (Json.Decoder.list Json.Decoder.value) "indexes" = .ok items →
      Op.run link w c.indexes = (some (Collection.parseDescriptors items), w') ∧
        (∀ ds, Collection.parseDescriptors items = .ok ds ↔ items.map ofJson = ds.map .ok) ∧
        (∀ e, Collection.parseDescriptors items = .error e ↔
          ∃ pre v post, items = pre ++ v :: post ∧ (∀ u ∈ pre, ∃ d, ofJson u = .ok d) ∧
            ofJson v = .error e)) := by
  refine ⟨ofJson_id_shape accepted, ?_, ?_⟩
  · intro name kind c n opened nonempty single id σ link w
    have valid := (Collection.open?_eq_ok opened).1
    obtain ⟨collection, named⟩ := parts_of_id (Collection.separator_not_mem_name valid) single id
    refine ⟨?_, Collection.index_sent c nonempty single link w⟩
    rw [remove_sent, collection, named]
  · intro σ c link w w' resp items answered listedOk listed
    exact ⟨Collection.run_indexes_of_listed answered listedOk listed,
      fun _ => Collection.parseDescriptors_eq_ok_iff,
      fun _ => Collection.parseDescriptors_eq_error_iff⟩

theorem accepted_shape_and_paths_byName :
    let v : Json.Value := .object [("id", .string "users/byName"), ("type", .string "hash")]
    let d : IndexDescriptor := ⟨"users/byName", .hash, [], none, none, none, none, 0⟩
    ofJson v = .ok d ∧
    (d.id.toList.count '/' = 1 ∧ d.collection ++ "/" ++ d.name = d.id ∧
      '/' ∉ d.collection.toList ∧ '/' ∉ d.name.toList ∧
      (d.collection ≠ "" ∧ d.name ≠ "" ↔
        d.id.toList.head? ≠ some '/' ∧ d.id.toList.getLast? ≠ some '/')) ∧
    (∀ (name : String) (kind : CollectionKind) (c : Collection) (n : String),
      Collection.open? name kind = .ok c → n ≠ "" → '/' ∉ n.toList → d.id = c.name ++ "/" ++ n →
      ∀ {σ : Type} (link : Link σ) (w : World σ),
        (Op.run link w d.remove).2.sent =
            w.sent ++ [{ method := .delete, path := Collection.indexPath c.name n }] ∧
          (Op.run link w (c.index n)).2.sent =
            w.sent ++ [{ method := .get, path := Collection.indexPath c.name n }]) ∧
    (∀ {σ : Type} (c : Collection) (link : Link σ) (w w' : World σ) (resp : Response)
      (items : List Json.Value),
      w.handOver link c.listRequest = (.answer (.ok resp), w') →
      resp.checkStatus [200] = .ok () →
      resp.parseBody (Json.Decoder.list Json.Decoder.value) "indexes" = .ok items →
      Op.run link w c.indexes = (some (Collection.parseDescriptors items), w') ∧
        (∀ ds, Collection.parseDescriptors items = .ok ds ↔ items.map ofJson = ds.map .ok) ∧
        (∀ e, Collection.parseDescriptors items = .error e ↔
          ∃ pre v post, items = pre ++ v :: post ∧ (∀ u ∈ pre, ∃ d, ofJson u = .ok d) ∧
            ofJson v = .error e)) :=
  ⟨rfl, accepted_shape_and_paths
    (.object [("id", .string "users/byName"), ("type", .string "hash")]) _ rfl⟩

/-- The id `/` is accepted, with an empty collection and an empty name. -/
theorem ofJson_accepts_empty_parts :
    ofJson (.object [("id", .string "/"), ("type", .string "hash")]) =
        .ok ⟨"/", .hash, [], none, none, none, none, 0⟩ ∧
      (⟨"/", .hash, [], none, none, none, none, 0⟩ : IndexDescriptor).collection = "" ∧
      (⟨"/", .hash, [], none, none, none, none, 0⟩ : IndexDescriptor).name = "" :=
  ⟨rfl, rfl, rfl⟩

end IndexDescriptor

end DocClient
