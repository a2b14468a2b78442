import Matchday.Json.Value

set_option autoImplicit false

namespace Matchday.Http

open Matchday

inductive Body
  | empty
  | json (value : Json)
  | text (s : String)
  deriving Repr

namespace Body

def contentType : Body → Option String
  | empty => none
  | json _ => some "application/json"
  | text _ => some "text/plain; charset=utf-8"

def written : Body → Option String
  | empty => none
  | json value => some value.render
  | text s => some s

end Body

def Header.canHold (value : String) : Bool :=
  value.toList.all fun c => c == '\t' || (32 ≤ c.toNat && c.toNat != 127)

structure Response where
  status : Nat
  headers : List (String × String)
  body : Body
  deriving Repr

namespace Response

def isSuccess (r : Response) : Bool := 200 ≤ r.status && r.status < 300

def of (status : Nat) (body : Body) : Response :=
  ⟨status, body.contentType.toList.map fun t => ("content-type", t), body⟩

def empty (status : Nat) : Response := of status .empty

def withHeader (r : Response) (name value : String) : Response :=
  { r with headers := (r.headers.filter fun h => h.1 != name) ++ [(name, value)] }

def header? (r : Response) (name : String) : Option String := r.headers.lookup name

def notFound : Response := empty 404

end Response

end Matchday.Http
