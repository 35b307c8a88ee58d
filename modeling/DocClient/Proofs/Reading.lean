import DocClient.Collection.Document
import DocClient.Proofs.Run
import DocClient.Proofs.Status

namespace DocClient

/-!
# Reading a document: metadata and content from one part of the body

`Collection.read` decodes the metadata and the content of a document from the same part of
the body: the envelope named for the collection's kind when the body has no `_key` member and
the envelope is an object, else the whole body (`Response.primaryPart`). Read as a plain value,
the content is that part as it is, and the metadata is what the record decoder makes of it.

The record decoder takes more than objects. An object carries the metadata in its members
`_key`, `_id`, `_rev` and `_oldRev`, in any order and among any others; an array carries it by
position, in three or four items. So a read that succeeds returns content that carries the
metadata returned with it, in its members or in its items; and an object that carries some
metadata under distinct member names is read back with exactly that metadata, whether it is the
body itself or the envelope of a body without `_key`.

Main statement: `Collection.read_meta_from_content`; `Collection.read_array_content` is a read
whose content is an array.
-/

namespace Json

namespace Value

/-- Among members under distinct names, a name finds the value listed under it. -/
theorem findMember_of_mem {ms : List (String × Value)} (distinct : (ms.map Prod.fst).Nodup)
    {k : String} {v : Value} (member : (k, v) ∈ ms) : findMember k ms = some v := by
  induction ms with
  | nil => cases member
  | cons m rest ih =>
    obtain ⟨k', v'⟩ := m
    simp only [List.map_cons, List.nodup_cons] at distinct
    rcases List.mem_cons.mp member with same | later
    · cases same
      simp [findMember]
    · have other : k' ≠ k := by
        rintro rfl
        exact distinct.1 (List.mem_map_of_mem later)
      simp [findMember, other, ih distinct.2 later]

end Value

namespace Record

variable {ρ α : Type}

theorem lookup_go_eq_some {name : String} :
    ∀ {fields : List (Field ρ)} {start i : Nat} {f : Field ρ},
      lookup.go name start fields = some (i, f) →
        f.name = name ∧ start ≤ i ∧ fields[i - start]? = some f
  | [], _, _, _, found => by simp [lookup.go] at found
  | g :: rest, start, i, f, found => by
    unfold lookup.go at found
    split at found
    · cases found
      simp_all
    · obtain ⟨named, later, got⟩ := lookup_go_eq_some found
      have shift : i - start = i - (start + 1) + 1 := by omega
      exact ⟨named, by omega, by rw [shift, List.getElem?_cons_succ]; exact got⟩

/-- A field found by name carries that name and stands at the position found. -/
theorem lookup_eq_some {fields : List (Field ρ)} {name : String} {i : Nat} {f : Field ρ}
    (found : lookup fields name = some (i, f)) : f.name = name ∧ fields[i]? = some f := by
  obtain ⟨named, -, got⟩ := lookup_go_eq_some found
  exact ⟨named, by simpa using got⟩

/-- Two names found at one position are one name. -/
theorem eq_of_lookup_eq_some {fields : List (Field ρ)} {k k' : String} {i : Nat} {f f' : Field ρ}
    (found : lookup fields k = some (i, f)) (found' : lookup fields k' = some (i, f')) :
    k = k' := by
  obtain ⟨named, got⟩ := lookup_eq_some found
  obtain ⟨named', got'⟩ := lookup_eq_some found'
  rw [got] at got'
  cases got'
  rw [← named, ← named']

/-- One member decoded: one whose name the record does not know is skipped; otherwise its
field must not have been seen, its value must decode, and the rest is decoded with the field
seen. -/
theorem membersOfValue_cons {fields : List (Field ρ)} {k : String} {v : Value}
    {rest : List (String × Value)} {seen : List Nat} {rec : ρ} {result : ρ × List Nat}
    (decoded : membersOfValue fields ((k, v) :: rest) seen rec = .ok result) :
    lookup fields k = none ∧ membersOfValue fields rest seen rec = .ok result ∨
      ∃ i f g, lookup fields k = some (i, f) ∧ i ∉ seen ∧ f.ofValue v = .ok g ∧
        membersOfValue fields rest (i :: seen) (g rec) = .ok result := by
  unfold membersOfValue at decoded
  split at decoded
  · rename_i unknown
    exact .inl ⟨unknown, decoded⟩
  · rename_i i f found
    split at decoded
    · cases decoded
    · rename_i fresh
      cases set : f.ofValue v with
      | error e => simp [set, bind, Except.bind] at decoded
      | ok g =>
        simp only [set, bind, Except.bind] at decoded
        exact .inr ⟨i, f, g, found, fun seenI => fresh (List.contains_iff_mem.mpr seenI), set,
          decoded⟩

/-- Decoding members only adds to the positions seen. -/
theorem membersOfValue_seen {fields : List (Field ρ)} :
    ∀ {ms : List (String × Value)} {seen : List Nat} {rec rec' : ρ} {seen' : List Nat},
      membersOfValue fields ms seen rec = .ok (rec', seen') → seen ⊆ seen'
  | [], _, _, _, _, decoded => by
    cases decoded
    exact List.Subset.refl _
  | (k, v) :: rest, seen, rec, rec', seen', decoded => by
    rcases membersOfValue_cons decoded with ⟨-, decoded⟩ | ⟨i, f, g, -, -, -, decoded⟩
    · exact membersOfValue_seen decoded
    · exact fun a member => membersOfValue_seen decoded (List.mem_cons_of_mem i member)

/-- `π` reads the field found under `name` at position `j`, whose members are `enc` of what it
reads: decoding that field from a member leaves in `π` a value that `enc` takes back to the
member, and decoding any other field leaves `π` alone. -/
structure Reads (fields : List (Field ρ)) (name : String) (j : Nat) (π : ρ → α) (enc : α → Value) :
    Prop where
  found : ∃ field, lookup fields name = some (j, field)
  encodes : ∀ field, lookup fields name = some (j, field) →
    ∀ v g, field.ofValue v = .ok g → ∀ r, v = enc (π (g r))
  frames : ∀ k i f, lookup fields k = some (i, f) → i ≠ j →
    ∀ v g, f.ofValue v = .ok g → ∀ r, π (g r) = π r

variable {fields : List (Field ρ)} {name : String} {j : Nat} {π : ρ → α} {enc : α → Value}

/-- Once the field has been seen, decoding more members leaves what `π` reads alone: a second
member of its name is refused, and every other field frames it. -/
theorem Reads.decoded_members_of_seen (reads : Reads fields name j π enc) :
    ∀ {ms : List (String × Value)} {seen : List Nat} {rec rec' : ρ} {seen' : List Nat},
      j ∈ seen → membersOfValue fields ms seen rec = .ok (rec', seen') → π rec' = π rec
  | [], _, _, _, _, _, decoded => by cases decoded; rfl
  | (k, v) :: rest, seen, rec, rec', seen', seenJ, decoded => by
    rcases membersOfValue_cons decoded with ⟨-, decoded⟩ | ⟨i, f, g, found, fresh, set, decoded⟩
    · exact reads.decoded_members_of_seen seenJ decoded
    · -- a field decoded now is not the one already seen, so it leaves `π` alone
      have other : i ≠ j := by
        rintro rfl
        exact fresh seenJ
      rw [reads.decoded_members_of_seen (List.mem_cons_of_mem i seenJ) decoded,
        reads.frames k i f found other v g set rec]

/-- What decoding the members leaves in `π`, when the field has not been seen yet: without a
member of its name, `π` as it was and the field still unseen; with one, the field seen and the
first member of its name `enc` of what `π` reads. -/
theorem Reads.decoded_members (reads : Reads fields name j π enc) :
    ∀ {ms : List (String × Value)} {seen : List Nat} {rec rec' : ρ} {seen' : List Nat},
      j ∉ seen → membersOfValue fields ms seen rec = .ok (rec', seen') →
        Value.findMember name ms = none ∧ j ∉ seen' ∧ π rec' = π rec ∨
          Value.findMember name ms = some (enc (π rec')) ∧ j ∈ seen'
  | [], _, _, _, _, unseen, decoded => by
    cases decoded
    exact .inl ⟨rfl, unseen, rfl⟩
  | (k, v) :: rest, seen, rec, rec', seen', unseen, decoded => by
    rcases membersOfValue_cons decoded with ⟨unknown, decoded⟩ | ⟨i, f, g, found, -, set, decoded⟩
    · -- a member the record does not know is skipped, and it is not the field's
      have other : k ≠ name := by
        rintro rfl
        obtain ⟨field, found⟩ := reads.found
        rw [found] at unknown
        cases unknown
      simp only [Value.findMember, if_neg other]
      exact reads.decoded_members unseen decoded
    · by_cases named : k = name
      · -- the first member of the field's name sets it, and the rest leave it alone
        subst named
        obtain ⟨field, found'⟩ := reads.found
        rw [found'] at found
        cases found
        have kept := reads.decoded_members_of_seen List.mem_cons_self decoded
        simp only [Value.findMember, if_true]
        exact .inr ⟨by rw [kept, ← reads.encodes f found' v g set rec],
          membersOfValue_seen decoded List.mem_cons_self⟩
      · have elsewhere : i ≠ j := fun same => by
          obtain ⟨field, found'⟩ := reads.found
          exact named (eq_of_lookup_eq_some found (same ▸ found'))
        have unseen' : j ∉ i :: seen := by
          simp only [List.mem_cons, not_or]
          exact ⟨fun same => elsewhere same.symm, unseen⟩
        have framed := reads.frames k i f found elsewhere v g set rec
        simp only [Value.findMember, if_neg named]
        rcases reads.decoded_members unseen' decoded with ⟨missing, unseen'', kept⟩ | present
        · exact .inl ⟨missing, unseen'', kept.trans framed⟩
        · exact .inr present

/-- A field seen at the end of decoding was read from the first member of its name. -/
theorem Reads.findMember_of_seen (reads : Reads fields name j π enc) {ms : List (String × Value)}
    {rec rec' : ρ} {seen' : List Nat}
    (decoded : membersOfValue fields ms [] rec = .ok (rec', seen'))
    (seenJ : j ∈ seen') : Value.findMember name ms = some (enc (π rec')) := by
  rcases reads.decoded_members List.not_mem_nil decoded with ⟨-, unseen, -⟩ | ⟨present, -⟩
  · exact absurd seenJ unseen
  · exact present

/-- A field not seen at the end of decoding had no member of its name, and kept its start. -/
theorem Reads.findMember_of_unseen (reads : Reads fields name j π enc) {ms : List (String × Value)}
    {rec rec' : ρ} {seen' : List Nat}
    (decoded : membersOfValue fields ms [] rec = .ok (rec', seen'))
    (unseen : j ∉ seen') : Value.findMember name ms = none ∧ π rec' = π rec := by
  rcases reads.decoded_members List.not_mem_nil decoded with ⟨missing, -, kept⟩ | ⟨-, seenJ⟩
  · exact ⟨missing, kept⟩
  · exact absurd seenJ unseen

/-- A member of the field's name was decoded, and is `enc` of what `π` reads at the end. -/
theorem Reads.findMember_eq_some (reads : Reads fields name j π enc) {ms : List (String × Value)}
    {rec rec' : ρ} {seen' : List Nat}
    (decoded : membersOfValue fields ms [] rec = .ok (rec', seen'))
    {v : Value} (present : Value.findMember name ms = some v) : j ∈ seen' ∧ v = enc (π rec') := by
  rcases reads.decoded_members List.not_mem_nil decoded with ⟨missing, -, -⟩ | ⟨present', seenJ⟩
  · rw [present] at missing
    cases missing
  · rw [present] at present'
    exact ⟨seenJ, Option.some.inj present'⟩

/-- Members under distinct names decode when every member the record knows decodes into a
field not seen yet. -/
theorem membersOfValue_ok :
    ∀ {ms : List (String × Value)} {seen : List Nat} {rec : ρ}, (ms.map Prod.fst).Nodup →
      (∀ k v i f, (k, v) ∈ ms → lookup fields k = some (i, f) →
        i ∉ seen ∧ ∃ g, f.ofValue v = .ok g) →
      ∃ rec' seen', membersOfValue fields ms seen rec = .ok (rec', seen')
  | [], seen, rec, _, _ => ⟨rec, seen, rfl⟩
  | (k, v) :: rest, seen, rec, distinct, fits => by
    simp only [List.map_cons, List.nodup_cons] at distinct
    have fitsRest : ∀ k' v' i f, (k', v') ∈ rest → lookup fields k' = some (i, f) →
        i ∉ seen ∧ ∃ g, f.ofValue v' = .ok g := fun k' v' i f member =>
      fits k' v' i f (List.mem_cons_of_mem _ member)
    unfold membersOfValue
    cases found : lookup fields k with
    | none => exact membersOfValue_ok distinct.2 fitsRest
    | some entry =>
      obtain ⟨i, f⟩ := entry
      obtain ⟨fresh, g, set⟩ := fits k v i f List.mem_cons_self found
      have unseen : seen.contains i = false := by simpa using fresh
      simp only [unseen, Bool.false_eq_true, if_false, set, bind, Except.bind]
      -- the later members have other names, so they find other fields
      refine membersOfValue_ok distinct.2 fun k' v' i' f' member found' => ?_
      obtain ⟨fresh', decodes⟩ := fitsRest k' v' i' f' member found'
      refine ⟨?_, decodes⟩
      simp only [List.mem_cons, not_or]
      refine ⟨fun same => distinct.1 ?_, fresh'⟩
      subst same
      rw [eq_of_lookup_eq_some found found']
      exact List.mem_map_of_mem member

end Record

/-- A field built from a decoder stores what the decoder read. -/
theorem Field.of_ofValue_eq_ok {ρ β : Type} {name : String} {d : Decoder β} {set : β → ρ → ρ}
    {absent : Absent ρ} {v : Value} {g : ρ → ρ} :
    (Field.of name d set absent).ofValue v = .ok g ↔ ∃ a, d.ofValue v = .ok a ∧ g = set a := by
  simp only [Field.of]
  cases d.ofValue v <;> simp [Functor.map, Except.map, eq_comm]

@[simp] theorem Field.of_name {ρ β : Type} (name : String) (d : Decoder β) (set : β → ρ → ρ)
    (absent : Absent ρ) : (Field.of name d set absent).name = name := rfl

@[simp] theorem Field.of_absent {ρ β : Type} (name : String) (d : Decoder β) (set : β → ρ → ρ)
    (absent : Absent ρ) : (Field.of name d set absent).absent = absent := rfl

theorem Decoder.string_ofValue_eq_ok {v : Value} {s : String} :
    Decoder.string.ofValue v = .ok s ↔ v = .string s := by
  cases v <;> simp [Decoder.string, Decoder.mismatch, eq_comm]

/-- An optional string is read from `null` or from a string. -/
theorem Decoder.option_string_ofValue_eq_ok {v : Value} {o : Option String} :
    (Decoder.option Decoder.string).ofValue v = .ok o ↔ v = o.elim .null .string := by
  cases v <;> cases o <;>
    simp [Decoder.option, Decoder.string, Decoder.mismatch, Functor.map, Except.map, eq_comm]

end Json

theorem Except.bind_eq_ok {ε α β : Type} {x : Except ε α} {f : α → Except ε β} {b : β} :
    x >>= f = .ok b ↔ ∃ a, x = .ok a ∧ f a = .ok b := by
  cases x <;> simp [bind, Except.bind]

namespace DocumentMeta

/-- The members carry the metadata `m`: `_key`, `_id` and `_rev` are its strings, and `_oldRev`
is its old revision, or `null` or missing when it has none. -/
def InMembers (m : DocumentMeta) (ms : List (String × Json.Value)) : Prop :=
  Json.Value.findMember "_key" ms = some (.string m.key) ∧
    Json.Value.findMember "_id" ms = some (.string m.id) ∧
    Json.Value.findMember "_rev" ms = some (.string m.rev) ∧
    (Json.Value.findMember "_oldRev" ms = some (m.oldRev.elim .null .string) ∨
      m.oldRev = none ∧ Json.Value.findMember "_oldRev" ms = none)

/-- The items carry the metadata `m` by position: its key, id and revision, then possibly its
old revision, `null` when it has none. -/
def InItems (m : DocumentMeta) (items : List Json.Value) : Prop :=
  items = [.string m.key, .string m.id, .string m.rev] ∧ m.oldRev = none ∨
    items = [.string m.key, .string m.id, .string m.rev, m.oldRev.elim .null .string]

/-- A value carries the metadata `m`: an object in its members, an array in its items. -/
def CarriedBy (m : DocumentMeta) : Json.Value → Prop
  | .object ms => InMembers m ms
  | .array items => InItems m items
  | _ => False

/-- What decoding a member into each field does: the first three fields take a string into the
key, the id and the revision, and the fourth takes `null` or a string into the old revision. -/
theorem record_field_ofValue {i : Nat} {f : Json.Field DocumentMeta} {v : Json.Value}
    {g : DocumentMeta → DocumentMeta} (got : record.fields[i]? = some f)
    (decoded : f.ofValue v = .ok g) :
    (i = 0 ∧ ∃ s, v = .string s ∧ ∀ r, g r = { r with key := s }) ∨
    (i = 1 ∧ ∃ s, v = .string s ∧ ∀ r, g r = { r with id := s }) ∨
    (i = 2 ∧ ∃ s, v = .string s ∧ ∀ r, g r = { r with rev := s }) ∨
    (i = 3 ∧ ∃ o, v = o.elim .null .string ∧ ∀ r, g r = { r with oldRev := o }) := by
  rcases i with _ | _ | _ | _ | i <;>
    simp only [record, List.getElem?_cons_zero, List.getElem?_cons_succ, List.getElem?_nil,
      Option.some.injEq, reduceCtorEq] at got <;>
    subst got <;>
    obtain ⟨a, read, rfl⟩ := Json.Field.of_ofValue_eq_ok.mp decoded
  · exact .inl ⟨rfl, a, Json.Decoder.string_ofValue_eq_ok.mp read, fun r => rfl⟩
  · exact .inr (.inl ⟨rfl, a, Json.Decoder.string_ofValue_eq_ok.mp read, fun r => rfl⟩)
  · exact .inr (.inr (.inl ⟨rfl, a, Json.Decoder.string_ofValue_eq_ok.mp read, fun r => rfl⟩))
  · exact .inr (.inr (.inr
      ⟨rfl, a, Json.Decoder.option_string_ofValue_eq_ok.mp read, fun r => rfl⟩))

/-- Each of the four members is read into its own field of the metadata, and only there. -/
theorem record_reads :
    Json.Record.Reads record.fields "_key" 0 key .string ∧
      Json.Record.Reads record.fields "_id" 1 id .string ∧
      Json.Record.Reads record.fields "_rev" 2 rev .string ∧
      Json.Record.Reads record.fields "_oldRev" 3 oldRev (fun o => o.elim .null .string) := by
  refine
    ⟨⟨⟨_, rfl⟩, fun field found v g decoded r => ?_, fun k i f found other v g decoded r => ?_⟩,
      ⟨⟨_, rfl⟩, fun field found v g decoded r => ?_, fun k i f found other v g decoded r => ?_⟩,
      ⟨⟨_, rfl⟩, fun field found v g decoded r => ?_, fun k i f found other v g decoded r => ?_⟩,
      ⟨⟨_, rfl⟩, fun field found v g decoded r => ?_, fun k i f found other v g decoded r => ?_⟩⟩
  -- a field found under a member's name sets its own part of the metadata, and no other
  all_goals
    rcases record_field_ofValue (Json.Record.lookup_eq_some found).2 decoded with
      ⟨place, s, read, set⟩ | ⟨place, s, read, set⟩ | ⟨place, s, read, set⟩ |
        ⟨place, s, read, set⟩ <;>
      simp_all

/-- The fields not seen in an object are filled in: the key, the id and the revision are
required, and a missing old revision becomes `none`. -/
theorem fillMissing_record {seen : List Nat} {rec m : DocumentMeta} :
    Json.Record.fillMissing record.fields seen 0 rec = .ok m ↔
      0 ∈ seen ∧ 1 ∈ seen ∧ 2 ∈ seen ∧
        m = if 3 ∈ seen then rec else { rec with oldRev := none } := by
  by_cases h0 : 0 ∈ seen <;> by_cases h1 : 1 ∈ seen <;> by_cases h2 : 2 ∈ seen <;>
    by_cases h3 : 3 ∈ seen <;>
    simp [Json.Record.fillMissing, record, h0, h1, h2, h3, eq_comm]

/-- An object decodes into metadata only when it carries it. -/
theorem inMembers_of_ofValue {ms : List (String × Json.Value)} {m : DocumentMeta}
    (decoded : record.ofValue (.object ms) = .ok m) : InMembers m ms := by
  obtain ⟨rec, seen, members, filled⟩ : ∃ rec seen,
      Json.Record.membersOfValue record.fields ms [] record.base = .ok (rec, seen) ∧
        Json.Record.fillMissing record.fields seen 0 rec = .ok m := by
    simp only [Json.Record.ofValue, Except.bind_eq_ok] at decoded
    obtain ⟨⟨rec, seen⟩, members, filled⟩ := decoded
    refine ⟨rec, seen, members, ?_⟩
    cases result : Json.Record.fillMissing record.fields seen 0 rec with
    | error p =>
      rw [result] at filled
      cases filled
    | ok m' =>
      rw [result] at filled
      cases filled
      rfl
  obtain ⟨has0, has1, has2, rfl⟩ := fillMissing_record.mp filled
  obtain ⟨key, id, rev, old⟩ := record_reads
  have keyed := key.findMember_of_seen members has0
  have ided := id.findMember_of_seen members has1
  have revised := rev.findMember_of_seen members has2
  by_cases has3 : 3 ∈ seen
  · rw [if_pos has3]
    exact ⟨keyed, ided, revised, .inl (old.findMember_of_seen members has3)⟩
  · rw [if_neg has3]
    exact ⟨keyed, ided, revised, .inr ⟨rfl, (old.findMember_of_unseen members has3).1⟩⟩

/-- An object under distinct member names that carries some metadata decodes into exactly it. -/
theorem ofValue_of_inMembers {ms : List (String × Json.Value)} {m : DocumentMeta}
    (distinct : (ms.map Prod.fst).Nodup) (carried : InMembers m ms) :
    record.ofValue (.object ms) = .ok m := by
  obtain ⟨keyed, ided, revised, oldRevised⟩ := carried
  -- every member the record knows holds a value of its field's kind
  have fits : ∀ k v i f, (k, v) ∈ ms → Json.Record.lookup record.fields k = some (i, f) →
      i ∉ ([] : List Nat) ∧ ∃ g, f.ofValue v = .ok g := by
    intro k v i f member found
    obtain ⟨named, got⟩ := Json.Record.lookup_eq_some found
    have listed := Json.Value.findMember_of_mem distinct member
    refine ⟨List.not_mem_nil, ?_⟩
    rcases i with _ | _ | _ | _ | i <;>
      simp only [record, List.getElem?_cons_zero, List.getElem?_cons_succ, List.getElem?_nil,
        Option.some.injEq, reduceCtorEq] at got <;>
      subst got <;> rw [Json.Field.of_name] at named <;> subst named
    · rw [keyed, Option.some.injEq] at listed
      exact ⟨_, by rw [← listed]; rfl⟩
    · rw [ided, Option.some.injEq] at listed
      exact ⟨_, by rw [← listed]; rfl⟩
    · rw [revised, Option.some.injEq] at listed
      exact ⟨_, by rw [← listed]; rfl⟩
    · rcases oldRevised with present | ⟨-, missing⟩
      · rw [present, Option.some.injEq] at listed
        rw [← listed]
        cases m.oldRev <;> exact ⟨_, rfl⟩
      · rw [missing] at listed
        cases listed
  obtain ⟨rec, seen, members⟩ : ∃ rec seen,
      Json.Record.membersOfValue record.fields ms [] record.base = .ok (rec, seen) :=
    Json.Record.membersOfValue_ok distinct fits
  obtain ⟨key, id, rev, old⟩ := record_reads
  obtain ⟨has0, sameKey⟩ := key.findMember_eq_some members keyed
  obtain ⟨has1, sameId⟩ := id.findMember_eq_some members ided
  obtain ⟨has2, sameRev⟩ := rev.findMember_eq_some members revised
  -- the old revision is the one read, or `none` both in the metadata and in the record
  have filled : m = if 3 ∈ seen then rec else { rec with oldRev := none } := by
    rcases oldRevised with present | ⟨noOld, missing⟩
    · obtain ⟨has3, sameOld⟩ := old.findMember_eq_some members present
      have sameOld' : m.oldRev = rec.oldRev := by
        revert sameOld
        cases m.oldRev <;> cases rec.oldRev <;> simp
      rw [if_pos has3]
      cases m
      cases rec
      simp_all
    · have has3 : 3 ∉ seen := fun has3 => by
        rw [old.findMember_of_seen members has3] at missing
        cases missing
      rw [if_neg has3]
      cases m
      cases rec
      simp_all
  simp only [Json.Record.ofValue, members, bind, Except.bind]
  rw [fillMissing_record.mpr ⟨has0, has1, has2, filled⟩]
  rfl

/-- An array decodes into metadata exactly when it carries it by position: three items, or four
with the old revision or `null` last. -/
theorem ofValue_array_eq_ok {items : List Json.Value} {m : DocumentMeta} :
    record.ofValue (.array items) = .ok m ↔ InItems m items := by
  constructor
  · intro decoded
    rcases items with _ | ⟨a, _ | ⟨b, _ | ⟨c, _ | ⟨d, _ | ⟨e, rest⟩⟩⟩⟩⟩ <;>
      simp [Json.Record.ofValue, Json.Record.itemsOfValue, record, Except.bind_eq_ok,
        Json.Field.of_ofValue_eq_ok, Json.Decoder.string_ofValue_eq_ok,
        Json.Decoder.option_string_ofValue_eq_ok] at decoded
    · -- three items: the old revision takes its default
      obtain ⟨_, ⟨key, rfl, rfl⟩, _, ⟨id, rfl, rfl⟩, _, ⟨rev, rfl, rfl⟩, rfl⟩ := decoded
      exact .inl ⟨rfl, rfl⟩
    · obtain ⟨_, ⟨key, rfl, rfl⟩, _, ⟨id, rfl, rfl⟩, _, ⟨rev, rfl, rfl⟩, _, ⟨old, rfl, rfl⟩,
        rfl⟩ := decoded
      exact .inr rfl
  · rintro (⟨rfl, noOld⟩ | rfl)
    · obtain ⟨key, id, rev, old⟩ := m
      subst noOld
      rfl
    · obtain ⟨key, id, rev, old⟩ := m
      cases old <;> rfl

/-- Metadata decoded from a value is carried by it: in its members or by position in its
items. No other kind of value decodes. -/
theorem carriedBy_of_ofValue {v : Json.Value} {m : DocumentMeta}
    (decoded : record.ofValue v = .ok m) :
    CarriedBy m v := by
  cases v with
  | object ms => exact inMembers_of_ofValue decoded
  | array items => exact ofValue_array_eq_ok.mp decoded
  | _ => simp [Json.Record.ofValue, Json.Decoder.mismatch] at decoded

theorem decoder_fromValue (v : Json.Value) : decoder.fromValue v = record.ofValue v := rfl

end DocumentMeta

namespace Response

theorem jsonBody_of_parse {r : Response} {J : Json.Value} (parsed : Json.parse r.body = .ok J) :
    r.jsonBody = .ok J := by
  simp [jsonBody, parsed]

theorem decodeEnvelope_eq_ok {α : Type} {d : Json.Decoder α} {field : String} {v : Json.Value}
    {a : α} : decodeEnvelope d field v = .ok a ↔ d.fromValue v = .ok a := by
  unfold decodeEnvelope
  split <;> simp_all

/-- Both primary decoders see the document part of the parsed body. -/
theorem parsePrimary_of_parse {α : Type} {r : Response} {J : Json.Value}
    (parsed : Json.parse r.body = .ok J) (d : Json.Decoder α) (field : String) :
    r.parsePrimary d field = decodeEnvelope d field (primaryPart J field) := by
  simp only [parsePrimary, jsonBody_of_parse parsed, bind, Except.bind]

/-- A body with a `_key` member is its own document part. -/
theorem primaryPart_of_key {ms : List (String × Json.Value)} {field : String} {v : Json.Value}
    (keyed : Json.Value.findMember "_key" ms = some v) :
    primaryPart (.object ms) field = .object ms := by
  simp [primaryPart, Json.Value.get?, keyed]

/-- A body without `_key` whose envelope is an object has that envelope as its document part. -/
theorem primaryPart_of_envelope {js xs : List (String × Json.Value)} {field : String}
    (unkeyed : Json.Value.findMember "_key" js = none)
    (wrapped : Json.Value.findMember field js = some (.object xs)) :
    primaryPart (.object js) field = .object xs := by
  simp [primaryPart, Json.Value.get?, unkeyed, wrapped]

end Response

namespace Collection

variable {σ : Type}

theorem Request.create_documentPath (method : Method) (c : Collection) (key : String) :
    Request.create method (c.documentPath key) =
      .ok { method := method, path := c.documentPath key } := by
  have leading :
      (c.documentPath key).toList.dropWhile (· == '/') = (c.documentPath key).toList := by
    simp [documentPath, path]
  have nonempty : (c.documentPath key).isEmpty = false := by
    simp [documentPath, path, String.isEmpty]
  rw [Request.create, if_neg (by simp [nonempty]), leading, String.ofList_toList]

/-- Read as a plain value under a valid key, with status 200 and a body that parses to `J`: the
metadata is decoded from the document part of `J`, and the content is that part as it is. -/
theorem run_read_value (c : Collection) {key : String} (valid : Key.validate key = .ok ())
    {link : Link σ} {w w' : World σ} {resp : Response} {J : Json.Value}
    (answered : w.handOver link { method := .get, path := c.documentPath key } =
      (.answer (.ok resp), w'))
    (ok200 : resp.status = 200) (parsed : Json.parse resp.body = .ok J) :
    Op.run link w (c.read Json.Decoder.value key) =
      (some ((fun m => (m, Response.primaryPart J c.kind.envelope)) <$>
        Response.decodeEnvelope DocumentMeta.decoder c.kind.envelope
          (Response.primaryPart J c.kind.envelope)), w') := by
  have accepted : resp.checkStatus [200] = .ok () := by
    rw [Response.checkStatus_eq_ok_iff, ok200]
    exact List.mem_singleton_self _
  unfold read
  simp only [valid, Request.create_documentPath]
  rw [Op.run_bind, Op.run_execute, answered]
  simp only [Op.run_pure, accepted, Response.parsePrimary_of_parse parsed, bind, Except.bind]
  cases Response.decodeEnvelope DocumentMeta.decoder c.kind.envelope
    (Response.primaryPart J c.kind.envelope) <;> rfl

/-- A read of a plain value takes its metadata and its content from one part of the body. For a
valid key and an answer with status 200 whose body parses to `J`: a read that succeeds returns as
content the document part of `J` (its envelope when `J` has no `_key` member and the envelope is
an object, else `J` itself), and that content carries the metadata returned with it, in its
members or by position in its items. An object under distinct member names that carries some
metadata is read back with exactly that metadata, both as the body and as the envelope of a body
without `_key`. -/
theorem read_meta_from_content (c : Collection) {key : String} (valid : Key.validate key = .ok ())
    {link : Link σ} {w w' : World σ} {resp : Response} {J : Json.Value}
    (answered : w.handOver link { method := .get, path := c.documentPath key } =
      (.answer (.ok resp), w'))
    (ok200 : resp.status = 200) (parsed : Json.parse resp.body = .ok J) :
    (∀ m d, (Op.run link w (c.read Json.Decoder.value key)).1 = some (.ok (m, d)) →
      d = Response.primaryPart J c.kind.envelope ∧ DocumentMeta.CarriedBy m d) ∧
    (∀ (m : DocumentMeta) (xs : List (String × Json.Value)), (xs.map Prod.fst).Nodup →
      DocumentMeta.InMembers m xs →
      (J = .object xs ∨ ∃ js, J = .object js ∧ Json.Value.findMember "_key" js = none ∧
        Json.Value.findMember c.kind.envelope js = some (.object xs)) →
      Op.run link w (c.read Json.Decoder.value key) = (some (.ok (m, .object xs)), w')) := by
  have run := run_read_value c valid answered ok200 parsed
  refine ⟨fun m d read => ?_, fun m xs distinct carried shape => ?_⟩
  · -- the content is the document part, and the metadata was decoded from it
    rw [run] at read
    cases decoded : Response.decodeEnvelope DocumentMeta.decoder c.kind.envelope
        (Response.primaryPart J c.kind.envelope) with
    | error e => simp [decoded, Functor.map, Except.map] at read
    | ok m' =>
      simp only [decoded, Functor.map, Except.map, Option.some.injEq, Except.ok.injEq,
        Prod.mk.injEq] at read
      obtain ⟨rfl, rfl⟩ := read
      rw [Response.decodeEnvelope_eq_ok, DocumentMeta.decoder_fromValue] at decoded
      exact ⟨rfl, DocumentMeta.carriedBy_of_ofValue decoded⟩
  · -- both shapes of body have the object as their document part
    have part : Response.primaryPart J c.kind.envelope = .object xs := by
      rcases shape with rfl | ⟨js, rfl, unkeyed, wrapped⟩
      · exact Response.primaryPart_of_key carried.1
      · exact Response.primaryPart_of_envelope unkeyed wrapped
    have decoded : Response.decodeEnvelope DocumentMeta.decoder c.kind.envelope (.object xs) =
        .ok m := by
      rw [Response.decodeEnvelope_eq_ok, DocumentMeta.decoder_fromValue]
      exact DocumentMeta.ofValue_of_inMembers distinct carried
    rw [run, part, decoded]
    rfl

theorem read_meta_from_content_users :
    let c : Collection := ⟨"users", .document⟩
    let resp : Response := ⟨200, [123, 34, 95, 107, 101, 121, 34, 58, 34, 107, 34, 44, 34, 95, 105,
      100, 34, 58, 34, 117, 115, 101, 114, 115, 47, 107, 34, 44, 34, 95, 114, 101, 118, 34, 58, 34,
      49, 34, 125]⟩
    let link : Link Unit := Link.answering (.ok resp)
    let w : World Unit := { line := () }
    let w' : World Unit := { line := (), sent := [{ method := .get, path := c.documentPath "k" }] }
    let J : Json.Value :=
      .object [("_id", .string "users/k"), ("_key", .string "k"), ("_rev", .string "1")]
    Key.validate "k" = .ok () ∧
    w.handOver link { method := .get, path := c.documentPath "k" } = (.answer (.ok resp), w') ∧
    resp.status = 200 ∧ Json.parse resp.body = .ok J ∧
    (∀ m d, (Op.run link w (c.read Json.Decoder.value "k")).1 = some (.ok (m, d)) →
      d = Response.primaryPart J c.kind.envelope ∧ DocumentMeta.CarriedBy m d) ∧
    (∀ (m : DocumentMeta) (xs : List (String × Json.Value)), (xs.map Prod.fst).Nodup →
      DocumentMeta.InMembers m xs →
      (J = .object xs ∨ ∃ js, J = .object js ∧ Json.Value.findMember "_key" js = none ∧
        Json.Value.findMember c.kind.envelope js = some (.object xs)) →
      Op.run link w (c.read Json.Decoder.value "k") = (some (.ok (m, .object xs)), w')) :=
  ⟨rfl, rfl, rfl, rfl, read_meta_from_content ⟨"users", .document⟩ rfl rfl rfl rfl⟩

/-- A body that is an array of a key, an id and a revision is read as metadata by position and
returned as content as it is, which is no object. -/
theorem read_array_content :
    ∃ w' : World Unit,
      Op.run (Link.answering (.ok ⟨200, [91, 34, 107, 34, 44, 34, 117, 115, 101, 114, 115, 47, 107,
          34, 44, 34, 49, 34, 93]⟩)) { line := () }
        ((⟨"users", .document⟩ : Collection).read Json.Decoder.value "k") =
      (some (.ok (⟨"k", "users/k", "1", none⟩,
        .array [.string "k", .string "users/k", .string "1"])), w') ∧
      ∀ ms, Json.Value.array [.string "k", .string "users/k", .string "1"] ≠ .object ms :=
  ⟨_, rfl, fun _ => Json.Value.noConfusion⟩

end Collection

end DocClient
