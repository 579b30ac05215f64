import Walkthrough.Json.Value

/-!
The envelope of every JSON answer: whether the request succeeded, its data or its error, and more
about it.
-/

namespace Walkthrough.Http.Envelope

/-- More about an answer; what is empty becomes an empty object. -/
def orEmpty (more : Json) : Json :=
  if more.isTruthy then more else .obj []

def success (data more : Json) : Json :=
  .obj [("success", .bool true), ("data", data), ("error", .null), ("meta", orEmpty more)]

def failure (code message more : Json) : Json :=
  .obj [("success", .bool false), ("data", .null),
    ("error", .obj [("code", code), ("message", message)]), ("meta", orEmpty more)]

end Walkthrough.Http.Envelope
