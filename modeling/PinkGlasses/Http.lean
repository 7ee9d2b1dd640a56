import PinkGlasses.Text

/-!
# PinkGlasses.Http

What the HTTP handlers share: a request without its body, and the error they answer with.
-/

namespace PinkGlasses

/-- `http.Header`: the fields of a request in the order they arrived, each under its canonical
name. -/
abbrev Header := List (String × String)

/-- `Header.Values`. -/
def Header.values (h : Header) (name : String) : List String :=
  (h.filter (·.1 == name)).map (·.2)

/-- `Header.Get`: the first value, or nothing. -/
def Header.get (h : Header) (name : String) : String := (h.values name).headD ""

/-- What a request carries besides its body. -/
structure HTTPRequest where
  /-- `RemoteAddr`: the address of the TCP peer, or what a middleware has put in its place. -/
  remoteAddr : String := ""
  header : Header := []
  /-- The value of the session cookie, empty without one. -/
  cookie : String := ""
deriving Repr, DecidableEq

/-- `writeErr`: a status and a message. -/
structure ErrorReply where
  status : Nat
  msg : String
deriving Repr, DecidableEq

end PinkGlasses
