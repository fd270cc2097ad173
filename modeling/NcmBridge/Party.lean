/-!
# Who acts

A bridge is served by two pumps, which run beside whoever started it. Calls on the bus and on the
kernel are kept with the party that made them, since the parties do not wait for each other.
-/

namespace NcmBridge

/-- Which way a pump carries frames: up from the host to the device, or down to the host. -/
inductive Direction
  | uplink
  | downlink
  deriving DecidableEq, Repr, Inhabited

def Direction.name : Direction → String
  | uplink => "ncm-tx"
  | downlink => "ncm-rx"

/-- Who makes a call. -/
inductive Party
  | owner
  | pump (direction : Direction)
  deriving DecidableEq, Repr, Inhabited

namespace Party

/-- The entries of a list by party: the owner's, the uplink's and the downlink's, each in order. -/
def arrange {α : Type} (entries : List (Party × α)) : List α :=
  [owner, pump .uplink, pump .downlink].flatMap fun p =>
    (entries.filter fun e => e.1 == p).map Prod.snd

end Party

end NcmBridge
