import DocClient.Call.Link

namespace DocClient

/-!
# Scripted connections

A scripted connection answers each request with the next entry of a script: a response (after
firing the cancel handle, if the entry says so), an error, or a hang, which fires the cancel
handle and never answers. Once the script is used up every request fails with a connection
error.
-/

/-- One entry of a script. -/
inductive Scripted where
  | respond (r : Response) (cancels : Bool)
  | fail (e : Error)
  | hang

/-- The connection that follows a script. -/
def Scripted.link : Link (List Scripted) :=
  { react := fun script _ =>
      match script with
      | [] => ({ cancels := false, reply := .answer (.error (.connection "no scripted response")) }, [])
      | .respond r c :: rest => ({ cancels := c, reply := .answer (.ok r) }, rest)
      | .fail e :: rest => ({ cancels := false, reply := .answer (.error e) }, rest)
      | .hang :: rest => ({ cancels := true, reply := .silence }, rest) }

end DocClient
