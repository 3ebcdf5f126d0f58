import PeerLanding.JavaFloat

/-! JSON documents and field access by name, with the defaults a reader gives to
absent fields. Floats are kept as they are: the text form is taken as lossless. -/

namespace PeerLanding

inductive Json (R : Type) where
  | null
  | bool (b : Bool)
  | int (n : Int)
  | float (x : R)
  | str (s : String)
  | arr (items : List (Json R))
  | obj (fields : List (String × Json R))

namespace Json

variable {R : Type} [JavaFloat R]

def field (name : String) : Json R → Json R
  | obj fields => (fields.lookup name).getD null
  | _ => null

def asBool : Json R → Bool
  | bool b => b
  | _ => false

def asInt : Json R → Int
  | int n => n
  | _ => 0

def asFloat : Json R → R
  | float x => x
  | _ => JavaFloat.zero

def asString : Json R → Option String
  | str s => some s
  | _ => none

def asList : Json R → Option (List (Json R))
  | arr items => some items
  | _ => none

/-- A field that a writer leaves out when it is null. -/
def optional (name : String) : Option (Json R) → List (String × Json R)
  | none => []
  | some v => [(name, v)]

end Json

end PeerLanding
