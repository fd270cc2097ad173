import NcmBridge.Telemetry.Exposition
import NcmBridge.Telemetry.Target

/-!
# Answers to scrapes

The registry is served over HTTP at the path `/metrics`. A request has a method and a target.
-/

namespace NcmBridge

/-- An answer to a request. -/
structure Response where
  status : Nat
  contentType : Option String := none
  body : String := ""
  deriving DecidableEq, Repr, Inhabited

namespace Response

/-- How many header fields an answer has. -/
def headerCount (r : Response) : Nat := if r.contentType.isSome then 1 else 0

end Response

namespace Endpoint

/-- The path at which the registry is shown. -/
def path : String := "/metrics"

def contentType : String := "text/plain; version=0.0.4"

/-! ### Requests -/

def isTokenChar (c : Char) : Bool := c.isAlphanum || "!#$%&'*+-.^_|~".toList.contains c || c.toNat = 96

/-- The answer to a request for a path. -/
def respond (r : Registry) (method requestPath : String) : Response :=
  if requestPath = path then
    if method = "GET" then ⟨200, some contentType, r.render⟩ else ⟨405, none, ""⟩
  else
    ⟨404, none, ""⟩

/-- The answer to a request, if it is well formed. -/
def answer? (r : Registry) (method target : String) : Option Response :=
  if method = "" || !method.toList.all isTokenChar then
    none
  else
    (Target.path? target).map (respond r method)

end Endpoint

end NcmBridge
