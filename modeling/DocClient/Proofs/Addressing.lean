import DocClient.Collection.Basic

namespace DocClient

/-!
# Document addressing

A document is addressed by `_api/<envelope>/<name>/<escaped key>`. The address is a code: two
collections opened under valid names and two keys give the same document path only for the same
kind, the same name and the same key, and no document path is the path of a collection.

It rests on the escaping of keys. An escaped key is made only of the unreserved characters
`A-Z a-z 0-9 - . _ ~` and of `%` followed by two uppercase hexadecimal digits, so it never holds
`/`, `?` or `#` and stays one path segment; and percent-decoding it gives back exactly the UTF-8
bytes of the key, whatever the key, so escaping loses nothing. A collection name has no `/`
either, so the segments of a path can be read back by splitting it at `/`.
-/

/-- Listing a byte array one byte at a time from index `i` on lists the bytes it holds from
there. -/
theorem ByteArray.toList_loop (bs : ByteArray) (i : Nat) (acc : List UInt8) :
    ByteArray.toList.loop bs i acc = acc.reverse ++ bs.data.toList.drop i := by
  fun_induction ByteArray.toList.loop bs i acc with
  | case1 i acc inside more =>
    have present : i < bs.data.toList.length := by
      rw [Array.length_toList]
      exact inside
    rw [more, List.drop_eq_getElem_cons present]
    simp [ByteArray.get!, getElem!_pos bs.data i inside]
  | case2 i acc outside =>
    have past : bs.data.toList.length ≤ i := by
      rw [Array.length_toList]
      exact Nat.le_of_not_lt outside
    rw [List.drop_of_length_le past, List.append_nil]

/-- The bytes of a byte array, listed. -/
theorem ByteArray.toList_eq (bs : ByteArray) : bs.toList = bs.data.toList := by
  rw [ByteArray.toList, ByteArray.toList_loop]
  rfl

/-- Two strings with the same UTF-8 bytes are the same string. -/
theorem String.toUTF8_toList_inj {s t : String} (same : s.toUTF8.toList = t.toUTF8.toList) :
    s = t := by
  rw [ByteArray.toList_eq, ByteArray.toList_eq, Array.toList_inj] at same
  exact String.toByteArray_inj.mp (ByteArray.ext same)

namespace Key

/-! ## The escaped form of a key -/

/-- The characters a path segment keeps as they are: ASCII letters and digits and `- . _ ~`. -/
def unreservedChar (c : Char) : Bool :=
  ('A' ≤ c && c ≤ 'Z') || ('a' ≤ c && c ≤ 'z') || ('0' ≤ c && c ≤ '9') ||
    c == '-' || c == '.' || c == '_' || c == '~'

/-- The value of an uppercase hexadecimal digit. -/
def hexValue? (c : Char) : Option Nat :=
  if '0' ≤ c ∧ c ≤ '9' then some (c.toNat - '0'.toNat)
  else if 'A' ≤ c ∧ c ≤ 'F' then some (c.toNat - 'A'.toNat + 10)
  else none

/-- A path segment in escaped form: unreserved characters, and `%` followed by two uppercase
hexadecimal digits. -/
inductive Escaped : List Char → Prop
  | nil : Escaped []
  | plain {c : Char} {rest : List Char} (unreserved : unreservedChar c = true)
      (tail : Escaped rest) : Escaped (c :: rest)
  | percent {hi lo : Char} {rest : List Char} (high : (hexValue? hi).isSome)
      (low : (hexValue? lo).isSome) (tail : Escaped rest) : Escaped ('%' :: hi :: lo :: rest)

/-- The byte spelled by two uppercase hexadecimal digits. -/
def hexByte? (hi lo : Char) : Option UInt8 := do
  let h ← hexValue? hi
  let l ← hexValue? lo
  pure (16 * h + l).toUInt8

/-- Percent-decoding of a path segment in escaped form: `%` with two uppercase hexadecimal digits
stands for the byte they spell, and an unreserved character for its own code; anything else is
refused. -/
def percentDecode : List Char → Option (List UInt8)
  | [] => some []
  | '%' :: hi :: lo :: rest => do
    let b ← hexByte? hi lo
    (b :: ·) <$> percentDecode rest
  | c :: rest => if unreservedChar c then (c.toNat.toUInt8 :: ·) <$> percentDecode rest else none

/-! ## One byte -/

theorem hexValue?_upperHex : ∀ n, n < 16 → hexValue? (upperHex n) = some n := by
  decide

/-- An unreserved byte is written as the unreserved character of the same code. -/
theorem unreservedChar_ofNat : ∀ n, n < 256 → unreserved n.toUInt8 = true →
    unreservedChar (Char.ofNat n) = true ∧ (Char.ofNat n).toNat = n := by
  decide +kernel

/-- A byte is written as one unreserved character, or as `%` and two uppercase hexadecimal
digits. -/
theorem escaped_escapeByte (b : UInt8) {rest : List Char} (tail : Escaped rest) :
    Escaped (escapeByte b ++ rest) := by
  have small := b.toNat_lt
  cases plain : unreserved b
  · simp only [escapeByte, plain, Bool.false_eq_true, if_false, List.cons_append,
      List.nil_append]
    refine .percent ?_ ?_ tail
    · rw [hexValue?_upperHex _ (by omega)]
      rfl
    · rw [hexValue?_upperHex _ (Nat.mod_lt _ (by decide))]
      rfl
  · simp only [escapeByte, plain, if_true, List.cons_append, List.nil_append]
    have same := unreservedChar_ofNat b.toNat small (by simpa using plain)
    exact .plain same.1 tail

/-- An unreserved character decodes to its own code. -/
theorem percentDecode_plain {c : Char} (rest : List Char) (unreserved : unreservedChar c = true) :
    percentDecode (c :: rest) = (percentDecode rest).map (c.toNat.toUInt8 :: ·) := by
  have notPercent : c ≠ '%' := by
    rintro rfl
    exact absurd unreserved (by decide)
  rw [percentDecode.eq_def]
  -- the match also tries `%` first; `c` is not `%`, so only the last case is left
  split
  · rename_i same
    exact absurd same (List.cons_ne_nil c rest)
  · rename_i same
    exact absurd (List.cons.inj same).1 notPercent
  · rename_i same
    obtain ⟨rfl, rfl⟩ := List.cons.inj same
    rw [if_pos unreserved]
    rfl

/-- `%` and two uppercase hexadecimal digits decode to the byte they spell. -/
theorem percentDecode_percent {hi lo : Char} {b : UInt8} (rest : List Char)
    (spelled : hexByte? hi lo = some b) :
    percentDecode ('%' :: hi :: lo :: rest) = (percentDecode rest).map (b :: ·) := by
  have unfolded : percentDecode ('%' :: hi :: lo :: rest) =
      (hexByte? hi lo).bind fun b => (percentDecode rest).map (b :: ·) := rfl
  rw [unfolded, spelled]
  rfl

/-- The two digits a byte is written with spell it back. -/
theorem hexByte?_upperHex (b : UInt8) :
    hexByte? (upperHex (b.toNat / 16)) (upperHex (b.toNat % 16)) = some b := by
  have small := b.toNat_lt
  have spelled : (16 * (b.toNat / 16) + b.toNat % 16).toUInt8 = b := by
    rw [Nat.div_add_mod]
    exact UInt8.ofNat_toNat
  rw [hexByte?, hexValue?_upperHex _ (by omega), hexValue?_upperHex _ (Nat.mod_lt _ (by decide))]
  show some (16 * (b.toNat / 16) + b.toNat % 16).toUInt8 = some b
  rw [spelled]

/-- Decoding reads one escaped byte back. -/
theorem percentDecode_escapeByte (b : UInt8) (rest : List Char) :
    percentDecode (escapeByte b ++ rest) = (percentDecode rest).map (b :: ·) := by
  cases plain : unreserved b
  · simp only [escapeByte, plain, Bool.false_eq_true, if_false, List.cons_append,
      List.nil_append]
    rw [percentDecode_percent rest (hexByte?_upperHex b)]
  · have same := unreservedChar_ofNat b.toNat b.toNat_lt (by simpa using plain)
    have code : b.toNat.toUInt8 = b := UInt8.ofNat_toNat
    simp only [escapeByte, plain, if_true, List.cons_append, List.nil_append]
    rw [percentDecode_plain rest same.1, same.2, code]

/-! ## A whole key -/

theorem escape_toList (key : String) :
    (escape key).toList = key.toUTF8.toList.flatMap escapeByte := by
  simp [escape]

/-- Escaped bytes are in escaped form. -/
theorem escaped_flatMap_escapeByte (bytes : List UInt8) : Escaped (bytes.flatMap escapeByte) := by
  induction bytes with
  | nil => exact .nil
  | cons b bytes tail =>
    rw [List.flatMap_cons]
    exact escaped_escapeByte b tail

/-- Decoding escaped bytes gives the bytes back. -/
theorem percentDecode_flatMap_escapeByte (bytes : List UInt8) :
    percentDecode (bytes.flatMap escapeByte) = some bytes := by
  induction bytes with
  | nil => rfl
  | cons b bytes decoded =>
    rw [List.flatMap_cons, percentDecode_escapeByte, decoded]
    rfl

/-- An escaped key is in escaped form. -/
theorem escaped_escape (key : String) : Escaped (escape key).toList := by
  rw [escape_toList]
  exact escaped_flatMap_escapeByte _

/-- Decoding an escaped key gives exactly the UTF-8 bytes of the key. -/
theorem percentDecode_escape (key : String) :
    percentDecode (escape key).toList = some key.toUTF8.toList := by
  rw [escape_toList]
  exact percentDecode_flatMap_escapeByte _

/-- Every character of a segment in escaped form is unreserved, `%`, or an uppercase
hexadecimal digit. -/
theorem Escaped.mem {s : List Char} (escaped : Escaped s) {c : Char} (member : c ∈ s) :
    unreservedChar c = true ∨ c = '%' ∨ (hexValue? c).isSome := by
  induction escaped with
  | nil => cases member
  | plain unreserved _ more =>
    rcases List.mem_cons.mp member with here | later
    · exact .inl (here ▸ unreserved)
    · exact more later
  | percent high low _ more =>
    rcases List.mem_cons.mp member with here | later
    · exact .inr (.inl here)
    rcases List.mem_cons.mp later with here | later
    · exact .inr (.inr (here ▸ high))
    rcases List.mem_cons.mp later with here | later
    · exact .inr (.inr (here ▸ low))
    · exact more later

/-- A character that is neither unreserved, nor `%`, nor an uppercase hexadecimal digit is not
in a segment in escaped form. -/
theorem Escaped.not_mem {s : List Char} (escaped : Escaped s) {c : Char}
    (reserved : unreservedChar c = false) (notPercent : c ≠ '%') (notDigit : hexValue? c = none) :
    c ∉ s := by
  intro member
  rcases escaped.mem member with plain | percent | digit
  · rw [reserved] at plain
    cases plain
  · exact notPercent percent
  · rw [notDigit] at digit
    cases digit

/-- A segment in escaped form never holds a separator of paths, queries or fragments. -/
theorem Escaped.separators {s : List Char} (escaped : Escaped s) :
    '/' ∉ s ∧ '?' ∉ s ∧ '#' ∉ s :=
  ⟨escaped.not_mem (by decide) (by decide) (by decide),
    escaped.not_mem (by decide) (by decide) (by decide),
    escaped.not_mem (by decide) (by decide) (by decide)⟩

/-- Two keys with the same escaped form are the same key. -/
theorem escape_injective {k₁ k₂ : String} (same : escape k₁ = escape k₂) : k₁ = k₂ := by
  have decoded : some k₁.toUTF8.toList = some k₂.toUTF8.toList := by
    rw [← percentDecode_escape, ← percentDecode_escape, same]
  exact String.toUTF8_toList_inj (Option.some.inj decoded)

end Key

/-! ## Paths -/

namespace CollectionKind

theorem envelope_injective {k₁ k₂ : CollectionKind} (same : k₁.envelope = k₂.envelope) :
    k₁ = k₂ := by
  cases k₁ <;> cases k₂
  · rfl
  · exact absurd same (by decide)
  · exact absurd same (by decide)
  · rfl

theorem separator_not_mem_envelope (k : CollectionKind) : '/' ∉ k.envelope.toList := by
  cases k <;> decide

end CollectionKind

namespace Collection

/-- A collection opened under a name has that name, and the name is valid. -/
theorem open?_eq_ok {name : String} {kind : CollectionKind} {c : Collection}
    (opened : open? name kind = .ok c) : validName c.name = true ∧ c = ⟨name, kind⟩ := by
  unfold open? at opened
  split at opened
  · cases opened
    exact ⟨‹_›, rfl⟩
  · cases opened

/-- A valid collection name is one path segment. -/
theorem separator_not_mem_name {name : String} (valid : validName name = true) :
    '/' ∉ name.toList := by
  intro member
  have chars : name.toList.all nameChar = true := by
    simp only [validName, Bool.and_eq_true] at valid
    exact valid.2
  have slash := List.all_eq_true.mp chars '/' member
  exact absurd slash (by decide)

theorem path_toList (c : Collection) :
    c.path.toList = ['/'].intercalate ["_api".toList, c.kind.envelope.toList, c.name.toList] := by
  simp [path, List.intercalate]

theorem documentPath_toList (c : Collection) (key : String) :
    (c.documentPath key).toList =
      ['/'].intercalate
        ["_api".toList, c.kind.envelope.toList, c.name.toList, (Key.escape key).toList] := by
  simp [documentPath, path, List.intercalate]

/-- A collection path has three segments: `_api`, the envelope and the name. -/
theorem path_splitOn {c : Collection} (valid : validName c.name = true) :
    c.path.toList.splitOn '/' = ["_api".toList, c.kind.envelope.toList, c.name.toList] := by
  rw [path_toList]
  apply List.splitOn_intercalate
  · intro segment member
    simp only [List.mem_cons, List.not_mem_nil, or_false] at member
    rcases member with rfl | rfl | rfl
    · decide
    · exact c.kind.separator_not_mem_envelope
    · exact separator_not_mem_name valid
  · simp

/-- A document path has four segments: `_api`, the envelope, the name and the escaped key. -/
theorem documentPath_splitOn {c : Collection} (valid : validName c.name = true) (key : String) :
    (c.documentPath key).toList.splitOn '/' =
      ["_api".toList, c.kind.envelope.toList, c.name.toList, (Key.escape key).toList] := by
  rw [documentPath_toList]
  apply List.splitOn_intercalate
  · intro segment member
    simp only [List.mem_cons, List.not_mem_nil, or_false] at member
    rcases member with rfl | rfl | rfl | rfl
    · decide
    · exact c.kind.separator_not_mem_envelope
    · exact separator_not_mem_name valid
    · exact (Key.escaped_escape key).separators.1
  · simp

/-- Equal document paths of collections with valid names come from the same kind, name and
key. -/
theorem documentPath_inj {c₁ c₂ : Collection} (valid₁ : validName c₁.name = true)
    (valid₂ : validName c₂.name = true) {k₁ k₂ : String}
    (same : c₁.documentPath k₁ = c₂.documentPath k₂) :
    c₁.kind = c₂.kind ∧ c₁.name = c₂.name ∧ k₁ = k₂ := by
  have segments := congrArg (fun p : String => p.toList.splitOn '/') same
  simp only [documentPath_splitOn valid₁, documentPath_splitOn valid₂, List.cons.injEq,
    String.toList_inj, true_and, and_true] at segments
  obtain ⟨envelopes, names, escapes⟩ := segments
  exact ⟨CollectionKind.envelope_injective envelopes, names, Key.escape_injective escapes⟩

/-- No document path is the path of a collection, for collections with valid names: they differ
in their number of segments. -/
theorem documentPath_ne_path {c₁ c₂ : Collection} (valid₁ : validName c₁.name = true)
    (valid₂ : validName c₂.name = true) (key : String) : c₁.documentPath key ≠ c₂.path := by
  intro same
  have segments := congrArg (fun p : String => (p.toList.splitOn '/').length) same
  simp only [documentPath_splitOn valid₁, path_splitOn valid₂, List.length_cons,
    List.length_nil] at segments
  omega

/-- Document addressing is a code. For two collections opened under valid names and two keys, the
document paths agree exactly when the kinds, the names and the keys do, and no document path is a
collection's path. Underneath: an escaped key is made of unreserved characters and `%` with two
uppercase hexadecimal digits, so it holds no `/`, `?` or `#`, and decoding it gives back exactly
the UTF-8 bytes of the key. -/
theorem documentPath_eq_iff {n₁ n₂ : String} {kind₁ kind₂ : CollectionKind} {c₁ c₂ : Collection}
    (opened₁ : open? n₁ kind₁ = .ok c₁) (opened₂ : open? n₂ kind₂ = .ok c₂) (k₁ k₂ : String) :
    (c₁.documentPath k₁ = c₂.documentPath k₂ ↔
        c₁.kind = c₂.kind ∧ c₁.name = c₂.name ∧ k₁ = k₂) ∧
      c₁.documentPath k₁ ≠ c₂.path ∧
      Key.Escaped (Key.escape k₁).toList ∧
      ('/' ∉ (Key.escape k₁).toList ∧ '?' ∉ (Key.escape k₁).toList ∧
        '#' ∉ (Key.escape k₁).toList) ∧
      Key.percentDecode (Key.escape k₁).toList = some k₁.toUTF8.toList := by
  have valid₁ := (open?_eq_ok opened₁).1
  have valid₂ := (open?_eq_ok opened₂).1
  refine ⟨⟨documentPath_inj valid₁ valid₂, ?_⟩, documentPath_ne_path valid₁ valid₂ k₁,
    Key.escaped_escape k₁, (Key.escaped_escape k₁).separators, Key.percentDecode_escape k₁⟩
  rintro ⟨kinds, names, rfl⟩
  rw [documentPath, documentPath, path, path, kinds, names]

/-- A document collection and an edge collection of the same name address a key apart, and
`a:b` is not confused with its own escaped form `a%3Ab`. -/
theorem documentPath_eq_iff_users :
    ((⟨"users", .document⟩ : Collection).documentPath "a:b" =
        (⟨"users", .edge⟩ : Collection).documentPath "a%3Ab" ↔
      CollectionKind.document = .edge ∧ "users" = "users" ∧ "a:b" = "a%3Ab") ∧
      (⟨"users", .document⟩ : Collection).documentPath "a:b" ≠
        (⟨"users", .edge⟩ : Collection).path ∧
      Key.Escaped (Key.escape "a:b").toList ∧
      ('/' ∉ (Key.escape "a:b").toList ∧ '?' ∉ (Key.escape "a:b").toList ∧
        '#' ∉ (Key.escape "a:b").toList) ∧
      Key.percentDecode (Key.escape "a:b").toList = some "a:b".toUTF8.toList :=
  documentPath_eq_iff (show open? "users" .document = .ok ⟨"users", .document⟩ by rfl)
    (show open? "users" .edge = .ok ⟨"users", .edge⟩ by rfl) "a:b" "a%3Ab"

end Collection

end DocClient
