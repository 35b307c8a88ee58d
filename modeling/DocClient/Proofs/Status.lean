import DocClient.Wire.Response

namespace DocClient

/-!
# Classifying a status

The status check of a response passes exactly for the accepted statuses. Any other status is
refused, and the refusal keeps two things apart: its kind follows from the status alone
(`Error.ofStatus`), and its details from the body alone (`Response.ReportedDetails`). The body
is read leniently, since a refused answer may carry anything: the error number counts only as
an unsigned integer member `errorNum` of a JSON object, cut to 32 bits, and the message only as
a string member `errorMessage`; each falls back on its own, to `0` and to a text naming the
status.

Main statement: `Response.checkStatus_classifies`.
-/

/-- The error a status outside the accepted ones stands for, with the error number and the
message the body reports: not found, conflict and failed precondition are kinds of their own,
and every other status, a success outside the accepted ones included, is a response error that
carries it. -/
def Error.ofStatus (status : UInt16) (errorNum : UInt32) (message : String) : Error :=
  if status = 404 then .notFound message
  else if status = 409 then .conflict message
  else if status = 412 then .preconditionFailed message
  else .response status errorNum message

namespace Response

/-- The member `name` of a body: present when the body is JSON, an object, and has that
member. -/
def member? (body : List UInt8) (name : String) : Option Json.Value :=
  match Json.parse body with
  | .ok v => v.get? name
  | .error _ => none

theorem member?_eq_some_iff {body : List UInt8} {name : String} {x : Json.Value} :
    member? body name = some x ↔
      ∃ ms, Json.parse body = .ok (.object ms) ∧ Json.Value.findMember name ms = some x := by
  unfold member?
  split
  · rename_i v parsed
    cases v <;> simp [Json.Value.get?, parsed]
  · rename_i parsed
    simp [parsed]

/-- The details a failed status check reports, read from a body `body` answered with `status`:
the error number is an unsigned integer member `errorNum`, cut to 32 bits, and `0` without one;
the message is a string member `errorMessage`, and names the status without one. -/
structure ReportedDetails (status : UInt16) (body : List UInt8) (errorNum : UInt32)
    (message : String) : Prop where
  errorNum_of_member : ∀ k, member? body "errorNum" = some (.number (.unsigned k)) →
    errorNum.toNat = k.toNat % UInt32.size
  errorNum_of_no_member : (∀ k, member? body "errorNum" ≠ some (.number (.unsigned k))) →
    errorNum = 0
  message_of_member : ∀ m, member? body "errorMessage" = some (.string m) → message = m
  message_of_no_member : (∀ m, member? body "errorMessage" ≠ some (.string m)) →
    message = "unexpected status " ++ toString status.toNat

theorem asU64?_eq_some_iff {v : Json.Value} {k : UInt64} :
    v.asU64? = some k ↔ v = .number (.unsigned k) := by
  unfold Json.Value.asU64?
  split <;> simp_all

theorem asString?_eq_some_iff {v : Json.Value} {m : String} :
    v.asString? = some m ↔ v = .string m := by
  unfold Json.Value.asString?
  split <;> simp_all

/-- A member read through a test reads as nothing when no value the test accepts is there. -/
theorem bind_eq_none_of_unread {β : Type} {o : Option Json.Value} {read : Json.Value → Option β}
    {wrap : β → Json.Value} (inverse : ∀ x b, read x = some b → x = wrap b)
    (absent : ∀ b, o ≠ some (wrap b)) : o.bind read = none := by
  cases o with
  | none => rfl
  | some x =>
    cases accepted : read x with
    | none => simp [accepted]
    | some b => exact absurd (congrArg some (inverse x b accepted)) (absent b)

/-- The details are read from the members of the body, each through its own test. -/
theorem errorDetails_eq (r : Response) :
    r.errorDetails =
      (match (member? r.body "errorNum").bind Json.Value.asU64? with
        | some n => n.toUInt32
        | none => 0,
       match (member? r.body "errorMessage").bind Json.Value.asString? with
        | some m => m
        | none => "unexpected status " ++ toString r.status.toNat) := by
  unfold errorDetails member?
  cases Json.parse r.body <;> rfl

theorem errorDetails_reported (r : Response) :
    ReportedDetails r.status r.body r.errorDetails.1 r.errorDetails.2 where
  errorNum_of_member k member := by
    rw [errorDetails_eq, member]
    exact UInt64.toNat_toUInt32 k
  errorNum_of_no_member none := by
    rw [errorDetails_eq, bind_eq_none_of_unread (fun _ _ => asU64?_eq_some_iff.mp) none]
  message_of_member m member := by
    rw [errorDetails_eq, member]
    rfl
  message_of_no_member none := by
    rw [errorDetails_eq, bind_eq_none_of_unread (fun _ _ => asString?_eq_some_iff.mp) none]

theorem checkStatus_of_not_mem {r : Response} {accepted : List UInt16}
    (outside : r.status ∉ accepted) :
    r.checkStatus accepted =
      .error (Error.ofStatus r.status r.errorDetails.1 r.errorDetails.2) := by
  simp only [checkStatus, List.contains_iff_mem, outside, if_false, Error.ofStatus,
    apply_ite Except.error]

theorem checkStatus_eq_ok_iff (r : Response) (accepted : List UInt16) :
    r.checkStatus accepted = .ok () ↔ r.status ∈ accepted := by
  by_cases member : r.status ∈ accepted
  · simp [checkStatus, member]
  · rw [checkStatus_of_not_mem member]
    simp [member]

/-- Classifying a status. The status check passes exactly for the accepted statuses. Any other
status is refused with an error whose kind follows from the status alone (`Error.ofStatus`) and
whose details follow from the body alone, read leniently: the error number is an unsigned integer
member `errorNum` of a JSON object body, cut to 32 bits, else `0`; the message is its string member
`errorMessage`, else a text naming the status. -/
theorem checkStatus_classifies (r : Response) (accepted : List UInt16) :
    (r.checkStatus accepted = .ok () ↔ r.status ∈ accepted) ∧
    (r.status ∉ accepted → ∃ errorNum message,
      r.checkStatus accepted = .error (Error.ofStatus r.status errorNum message) ∧
      ReportedDetails r.status r.body errorNum message) :=
  ⟨checkStatus_eq_ok_iff r accepted, fun outside =>
    ⟨_, _, checkStatus_of_not_mem outside, errorDetails_reported r⟩⟩

end Response

end DocClient
