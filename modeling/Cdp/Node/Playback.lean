import Cdp.Node.Client

/-!
# A node played back from replies

A node that answers from a list of replies. A request takes the first reply that fits it and is not
used up; one that fits no reply fails. All requests are recorded. A node that cannot be reached
fails every request, and none arrives to be recorded.
-/

set_option autoImplicit false

namespace Cdp.Node

/-- A reply, and the requests that it fits. -/
structure Reply where
  method : String
  /-- What the called address starts with. -/
  target : Option String
  /-- What the data of the call start with. -/
  data : Option String
  /-- The parameters by position; null fits anything, and so does a missing position. -/
  params : Option (List Json)
  /-- How often the reply may still be used, if that is limited. -/
  times : Option Nat
  /-- The result, or none for an error. -/
  result : Option Json

structure Playback where
  isReachable : Bool
  replies : List Reply
  /-- The requests that arrived, in their order. -/
  requests : List NodeRequest

mutual

/-- Whether two values are equal; the order of an object's fields does not count. -/
def sameJson : Json → Json → Bool
  | .null, .null => true
  | .bool a, .bool b => a == b
  | .integer a, .integer b => a == b
  | .fraction m p, .fraction n q => m == n && p == q
  | .string a, .string b => a == b
  | .array xs, .array ys => sameItems xs ys
  | .object fs, .object gs => fs.length == gs.length && sameFields fs gs
  | _, _ => false

def sameItems : List Json → List Json → Bool
  | [], [] => true
  | x :: xs, y :: ys => sameJson x y && sameItems xs ys
  | _, _ => false

/-- Whether the fields of one object are also fields of another one. -/
def sameFields : List (String × Json) → List (String × Json) → Bool
  | [], _ => true
  | (name, x) :: fs, gs =>
    match Json.field? name gs with
    | some y => sameJson x y && sameFields fs gs
    | none => false

end

/-- A text field of the first parameter. -/
def textField? (r : NodeRequest) (name : String) : Option String :=
  match r.params.head? with
  | some (.object fields) =>
    match Json.field? name fields with
    | some (.string s) => some s
    | _ => none
  | _ => none

/-- Whether a text field starts as asked, if anything is asked. -/
def fitsStart (r : NodeRequest) (name : String) : Option String → Bool
  | none => true
  | some start =>
    match textField? r name with
    | some s => start.toList.isPrefixOf s.toList
    | none => false

/-- Whether a value fits what is asked of its position. -/
def fitsValue : Json → Json → Bool
  | .null, _ => true
  | asked, given => sameJson asked given

/-- Whether parameters fit those asked. -/
def fitsParams : List Json → List Json → Bool
  | asked :: others, given :: rest => fitsValue asked given && fitsParams others rest
  | _, _ => true

def Reply.fits (reply : Reply) (r : NodeRequest) : Bool :=
  reply.method == r.method && reply.times != some 0 && fitsStart r "to" reply.target &&
    fitsStart r "data" reply.data && fitsParams (reply.params.getD []) r.params

/-- The reply after one use. -/
def Reply.used (reply : Reply) : Reply := { reply with times := reply.times.map (· - 1) }

/-- The result of the first fitting reply, and the replies after its use. -/
def takeReply (r : NodeRequest) : List Reply → Option Json × List Reply
  | [] => (none, [])
  | reply :: rest =>
    if reply.fits r then (reply.result, reply.used :: rest)
    else
      let (result, others) := takeReply r rest
      (result, reply :: others)

/-- Answers a request. -/
def Playback.handle (r : NodeRequest) : StateM Playback (Except ChainError Json) := fun node =>
  if !node.isReachable then (.error (.transport "unreachable"), node)
  else
    let (result, replies) := takeReply r node.replies
    let answer :=
      match result with
      | some j => .ok j
      | none => .error (.transport "error response")
    (answer, { node with replies, requests := node.requests ++ [r] })

/-- Runs a procedure on the node. -/
def Playback.run {ε α : Type} (p : Procedure Node ε α) : StateM Playback (Except ε α) :=
  p.run (I := Node) Playback.handle

end Cdp.Node
