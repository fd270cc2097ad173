/-!
# Closing once

Several parties may ask a bridge to close. The first to turn the latch closes the link and then the
interface; all others come back at once. A request is carried out in three steps, and the steps of
different requests may come in any order.
-/

namespace NcmBridge

/-- Whether a bridge has been closed. -/
structure Latch where
  closed : Bool := false
  deriving DecidableEq, Repr, Inhabited

/-- How far a request to close has come. -/
inductive CloseRequest
  /-- It is about to turn the latch. -/
  | begun
  /-- It turned the latch and is about to close the link. -/
  | closingLink
  /-- It closed the link and is about to close the interface. -/
  | closingInterface
  | returned
  deriving DecidableEq, Repr, Inhabited

namespace CloseRequest

/-- One step of a request, on the latch and on a state in which both ends can be closed. -/
def step {σ : Type} (closeLink closeInterface : σ → σ) (request : CloseRequest) (latch : Latch)
    (s : σ) : CloseRequest × Latch × σ :=
  match request with
  | begun => if latch.closed then (returned, latch, s) else (closingLink, ⟨true⟩, s)
  | closingLink => (closingInterface, latch, closeLink s)
  | closingInterface => (returned, latch, closeInterface s)
  | returned => (returned, latch, s)

end CloseRequest

namespace Latch

/-- Carries a request to close out from its first to its last step. -/
def close {σ : Type} (closeLink closeInterface : σ → σ) (latch : Latch) (s : σ) : Latch × σ :=
  let (request, latch, s) := CloseRequest.begun.step closeLink closeInterface latch s
  let (request, latch, s) := request.step closeLink closeInterface latch s
  let (_, latch, s) := request.step closeLink closeInterface latch s
  (latch, s)

@[simp] theorem close_of_open {σ : Type} (closeLink closeInterface : σ → σ) (s : σ) :
    (Latch.mk false).close closeLink closeInterface s = (⟨true⟩, closeInterface (closeLink s)) :=
  rfl

@[simp] theorem close_of_closed {σ : Type} (closeLink closeInterface : σ → σ) (s : σ) :
    (Latch.mk true).close closeLink closeInterface s = (⟨true⟩, s) :=
  rfl

end Latch

end NcmBridge
