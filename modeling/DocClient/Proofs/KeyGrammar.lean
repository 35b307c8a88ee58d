import DocClient.Key

namespace DocClient

/-!
# The key grammar

`Key.validate` accepts exactly the keys of the server's key grammar: non-empty, at most 254
bytes of UTF-8, and made only of ASCII letters and digits and the punctuation
`_ - : . @ ( ) + , = ; $ ! * ' %`.  A refused key is refused as an invalid key, with the
message of the first check it fails in the order empty, byte length, characters; so a key that
is both too long and badly formed is reported with its length in bytes.  The character check
covers the whole key, a trailing newline included.

The length is counted in bytes and the grammar is over characters; the two meet because every
character of the grammar is ASCII and takes one byte, so an accepted key has as many characters
as bytes.

Main statement: `Key.validate_iff_grammar`.
-/

/-- A string of one-byte characters has as many bytes as characters. -/
theorem String.utf8ByteSize_ofList_of_ascii {l : List Char} (ones : ∀ c ∈ l, c.utf8Size = 1) :
    (String.ofList l).utf8ByteSize = l.length := by
  induction l with
  | nil => simp
  | cons c cs ih =>
    have head : c.utf8Size = 1 := ones c (List.mem_cons_self ..)
    have rest : (String.ofList cs).utf8ByteSize = cs.length :=
      ih fun d member => ones d (List.mem_cons_of_mem c member)
    rw [show String.ofList (c :: cs) = String.singleton c ++ String.ofList cs by
      rw [String.singleton_eq_ofList, ← String.ofList_append]; rfl]
    rw [String.utf8ByteSize_append, String.utf8ByteSize_singleton, head, rest, List.length_cons,
      Nat.add_comm]

namespace Key

/-- A character of the key grammar: an ASCII letter or digit, or one of its punctuation. -/
def GrammarChar (c : Char) : Prop :=
  c.isAlphanum = true ∨ c ∈ "_-:.@()+,=;$!*'%".toList

instance (c : Char) : Decidable (GrammarChar c) :=
  inferInstanceAs (Decidable (c.isAlphanum = true ∨ _))

theorem allowedChar_iff (c : Char) : allowedChar c = true ↔ GrammarChar c := by
  have spelled : punctuation = "_-:.@()+,=;$!*'%".toList := by decide
  -- the ASCII classes of the core library, by their definitions
  have alphanum : c.isAlphanum =
      ((decide (c.val ≥ 'A'.val ∧ c.val ≤ 'Z'.val) || (c.val ≥ 'a'.val && c.val ≤ 'z'.val)) ||
        (c.val ≥ '0'.val && c.val ≤ '9'.val)) :=
    rfl
  rw [GrammarChar, ← spelled, alphanum]
  simp [allowedChar, Char.le_def]

/-- The characters of the grammar are ASCII. -/
theorem toNat_lt_of_allowedChar {c : Char} (allowed : allowedChar c = true) : c.toNat < 128 := by
  simp only [allowedChar, punctuation, Char.le_def, UInt32.le_iff_toNat_le, Bool.or_eq_true,
    Bool.and_eq_true, decide_eq_true_eq, List.contains_iff_mem, List.mem_cons,
    List.not_mem_nil, or_false] at allowed
  have z : ('z' : Char).val.toNat = 122 := rfl
  have Z : ('Z' : Char).val.toNat = 90 := rfl
  have nine : ('9' : Char).val.toNat = 57 := rfl
  have val : c.toNat = c.val.toNat := rfl
  rcases allowed with ((⟨_, upper⟩ | ⟨_, lower⟩) | ⟨_, digit⟩) | punct
  · omega
  · omega
  · omega
  · rcases punct with rfl | rfl | rfl | rfl | rfl | rfl | rfl | rfl | rfl | rfl | rfl | rfl |
      rfl | rfl | rfl | rfl <;> decide

theorem utf8Size_of_allowedChar {c : Char} (allowed : allowedChar c = true) : c.utf8Size = 1 := by
  have small : c.val.toNat ≤ 127 := by
    have ascii := toNat_lt_of_allowedChar allowed
    have val : c.toNat = c.val.toNat := rfl
    omega
  simp only [Char.utf8Size, UInt32.le_iff_toNat_le]
  exact if_pos small

theorem validate_empty : validate "" = .error (.invalidKey "key is empty") := rfl

/-- A non-empty key over 254 bytes is refused for its length, whatever its characters. -/
theorem validate_of_long {key : String} (nonempty : key ≠ "") (long : maxBytes < key.utf8ByteSize) :
    validate key = .error (.invalidKey
      ("key is " ++ toString key.utf8ByteSize ++ " bytes long, maximum is 254")) := by
  have maximum : " bytes long, maximum is " ++ toString maxBytes = " bytes long, maximum is 254" := by
    decide
  rw [validate, if_neg (by simpa using nonempty), if_pos long, String.append_assoc, maximum]

theorem validate_of_outside {key : String} (nonempty : key ≠ "") (fits : key.utf8ByteSize ≤ maxBytes)
    (outside : ∃ c ∈ key.toList, allowedChar c = false) :
    validate key = .error (.invalidKey
      ("key '" ++ key ++ "' contains characters outside the allowed set")) := by
  have notAll : key.toList.all allowedChar = false := by
    obtain ⟨c, member, refused⟩ := outside
    exact List.all_eq_false.mpr ⟨c, member, by simp [refused]⟩
  rw [validate, if_neg (by simpa using nonempty), if_neg (Nat.not_lt.mpr fits), notAll]
  rfl

theorem validate_eq_ok_iff (key : String) :
    validate key = .ok () ↔
      key ≠ "" ∧ key.utf8ByteSize ≤ maxBytes ∧ ∀ c ∈ key.toList, allowedChar c = true := by
  by_cases empty : key = ""
  · simp [empty, validate_empty]
  have nonempty : key.isEmpty = false := by simpa using empty
  by_cases long : maxBytes < key.utf8ByteSize
  · rw [validate, if_neg (by simp [nonempty]), if_pos long]
    simp only [reduceCtorEq, false_iff, not_and]
    intro _ fits
    omega
  · rw [validate, if_neg (by simp [nonempty]), if_neg long]
    have fits : key.utf8ByteSize ≤ maxBytes := Nat.not_lt.mp long
    cases chars : key.toList.all allowedChar
    · simp only [Bool.false_eq_true, if_false, reduceCtorEq, false_iff, not_and]
      intro _ _ all
      simp [List.all_eq_true.mpr all] at chars
    · rw [if_pos rfl]
      exact iff_of_true rfl ⟨empty, fits, List.all_eq_true.mp chars⟩

/-- An accepted key has one byte per character. -/
theorem length_eq_utf8ByteSize_of_validate {key : String} (valid : validate key = .ok ()) :
    key.length = key.utf8ByteSize := by
  have ones : ∀ c ∈ key.toList, c.utf8Size = 1 := fun c member =>
    utf8Size_of_allowedChar (((validate_eq_ok_iff key).mp valid).2.2 c member)
  have bytes := String.utf8ByteSize_ofList_of_ascii ones
  rw [String.ofList_toList, String.length_toList] at bytes
  exact bytes.symm

/-- The key check accepts exactly the key grammar, and refuses every other key as an invalid
key with the message of the first check it fails: empty, then over 254 bytes (the message gives
the length in bytes), then a character outside the grammar anywhere in the key. -/
theorem validate_iff_grammar (key : String) :
    (validate key = .ok () ↔
      key ≠ "" ∧ key.utf8ByteSize ≤ 254 ∧ ∀ c ∈ key.toList, GrammarChar c) ∧
    (key = "" → validate key = .error (.invalidKey "key is empty")) ∧
    (key ≠ "" → 254 < key.utf8ByteSize →
      validate key = .error (.invalidKey
        ("key is " ++ toString key.utf8ByteSize ++ " bytes long, maximum is 254"))) ∧
    (key ≠ "" → key.utf8ByteSize ≤ 254 → (∃ c ∈ key.toList, ¬GrammarChar c) →
      validate key = .error (.invalidKey
        ("key '" ++ key ++ "' contains characters outside the allowed set"))) := by
  refine ⟨?_, fun empty => empty ▸ validate_empty, validate_of_long, ?_⟩
  · simp only [validate_eq_ok_iff, allowedChar_iff, maxBytes]
  · rintro nonempty fits ⟨c, member, outside⟩
    exact validate_of_outside nonempty fits ⟨c, member, by simpa [← allowedChar_iff] using outside⟩

/-- The character check reaches the end of the key: a trailing newline is refused. -/
example : validate "a\n" =
    .error (.invalidKey "key 'a\n' contains characters outside the allowed set") := by
  rfl

end Key

end DocClient
