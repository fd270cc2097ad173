import Mathlib.Data.List.Infix
import NcmBridge.Bridge.Script

/-!
# Both ends are closed once

A pump that has ended asks its bridge to close, and so does every caller, who joins the bridge, and who
drops it. The steps of all of them may come in any order, and the ends may change between any two. Of all
requests one turns the latch, and from then on it alone is on its way to close an end; a request that
finds the latch turned returns at once, even while the first one is between the two closes.
-/

namespace NcmBridge

/-! ### Closes of the ends -/

inductive EndClose
  | link
  | interface
  deriving DecidableEq, Repr

/-- The state of the ends and the closes of them so far, the newest last. -/
structure Watched (σ : Type) where
  state : σ
  closes : List EndClose := []

variable {σ : Type}

/-- The ends with a record of their closes. -/
def Endpoints.watched (ends : Endpoints σ) : Endpoints (Watched σ) where
  readFrame w :=
    let (got, s) := ends.readFrame w.state
    (got, { w with state := s })
  tryReadFrame w :=
    let (got, s) := ends.tryReadFrame w.state
    (got, { w with state := s })
  writeBlock block w :=
    let (got, s) := ends.writeBlock block w.state
    (got, { w with state := s })
  readTransfer len w :=
    let (got, s) := ends.readTransfer len w.state
    (got, { w with state := s })
  writeFrame frame w :=
    let (got, s) := ends.writeFrame frame w.state
    (got, { w with state := s })
  closeLink w := ⟨ends.closeLink w.state, w.closes ++ [.link]⟩
  closeInterface w := ⟨ends.closeInterface w.state, w.closes ++ [.interface]⟩

lemma Uplink.closes_step (ends : Endpoints σ) (serial : String) (options : BridgeOptions) (u : Uplink)
    (w : Watched σ) : (u.step ends.watched serial options w).2.closes = w.closes := by
  unfold step
  cases u.phase with
  | idle => rfl
  | batching newestFirst => rfl
  | sending block count carried => rfl
  | ended result => rfl

lemma Downlink.closes_step (ends : Endpoints σ) (serial : String) (options : BridgeOptions)
    (d : Downlink) (w : Watched σ) : (d.step ends.watched serial options w).2.closes = w.closes := by
  unfold step
  cases d.phase with
  | reading reading searching =>
    dsimp only
    split
    · rfl
    · rfl
  | delivering reader frame later => rfl
  | ended result => rfl

/-! ### A bridge with many parties -/

/-- Who asks a bridge to close. -/
inductive Asker
  | pump (direction : Direction)
  | caller
  | joiner
  | dropper
  deriving DecidableEq, Repr

/-- A request to close on its way. -/
structure Asked where
  asker : Asker
  progress : CloseRequest := .begun
  deriving DecidableEq, Repr

/-- What happens next to a bridge. -/
inductive Turn (σ : Type)
  /-- The thread of a pump takes a step; one that has ended asks to close. -/
  | pump (direction : Direction)
  /-- Another thread asks to close. -/
  | call
  /-- The owner asks to close, and is going to wait for the pumps and then drop the bridge. -/
  | join
  /-- The owner drops the bridge, which asks to close. -/
  | drop
  /-- The request with a number takes a step. -/
  | request (i : Nat)
  /-- The ends change by themselves. -/
  | outside (change : σ → σ)

/-- A bridge and all requests to close it so far, in the order in which they began. -/
structure SharedBridge (σ : Type) where
  bridge : Bridge
  ends : Watched σ
  requests : List Asked := []
  /-- The notes of all parties, the newest last. -/
  notes : List Note := []

namespace Bridge

/-- How a pump ended whose thread has not said so yet. -/
def unreported? (b : Bridge) : Direction → Option PumpResult
  | .uplink => if b.uplinkStopped then none else b.uplink.result?
  | .downlink => if b.downlinkStopped then none else b.downlink.result?

/-- The thread of a pump has said how the pump ended. -/
def reported (b : Bridge) : Direction → Bridge
  | .uplink => { b with uplinkStopped := true }
  | .downlink => { b with downlinkStopped := true }

/-- A step of a pump; one that has ended stops and closes the bridge at once. -/
def step (ends : Endpoints σ) (b : Bridge) (s : σ) : Direction → Option (Bridge × List Note) × σ
  | .uplink => b.stepUplink ends s
  | .downlink => b.stepDownlink ends s

variable {ends : Endpoints σ} {b : Bridge} {s : σ} {direction : Direction} {result : PumpResult}

lemma step_of_unreported (h : b.unreported? direction = some result) :
    b.step ends s direction =
      (some ((stop ends direction result (b.reported direction) s).1,
        (stop ends direction result (b.reported direction) s).2.1),
        (stop ends direction result (b.reported direction) s).2.2) := by
  cases direction with
  | uplink =>
    obtain ⟨hstopped, hresult⟩ : b.uplinkStopped = false ∧ b.uplink.result? = some result := by
      simpa [unreported?] using h
    simp [step, stepUplink, hstopped, hresult, reported]
  | downlink =>
    obtain ⟨hstopped, hresult⟩ : b.downlinkStopped = false ∧ b.downlink.result? = some result := by
      simpa [unreported?] using h
    simp [step, stepDownlink, hstopped, hresult, reported]

lemma stepUplink_of_none (h : b.unreported? .uplink = none) :
    b.stepUplink ends s =
      ((b.uplink.step ends b.serial b.options s).1.map fun (uplink, notes) => ({ b with uplink }, notes),
        (b.uplink.step ends b.serial b.options s).2) := by
  unfold stepUplink
  split
  · next result hresult hstopped => simp [unreported?, hresult, hstopped] at h
  · rfl

lemma stepDownlink_of_none (h : b.unreported? .downlink = none) :
    b.stepDownlink ends s =
      ((b.downlink.step ends b.serial b.options s).1.map fun (downlink, notes) =>
          ({ b with downlink }, notes),
        (b.downlink.step ends b.serial b.options s).2) := by
  unfold stepDownlink
  split
  · next result hresult hstopped => simp [unreported?, hresult, hstopped] at h
  · rfl

/-- Only a pump that has just ended touches the latch. -/
lemma latch_step {b' : Bridge} {notes : List Note} (h : b.unreported? direction = none)
    (hstep : (b.step ends s direction).1 = some (b', notes)) : b'.latch = b.latch := by
  cases direction with
  | uplink =>
    rw [step, stepUplink_of_none h] at hstep
    obtain ⟨p, -, heq⟩ := Option.map_eq_some_iff.1 hstep
    obtain ⟨rfl, -⟩ := Prod.mk.inj heq
    rfl
  | downlink =>
    rw [step, stepDownlink_of_none h] at hstep
    obtain ⟨p, -, heq⟩ := Option.map_eq_some_iff.1 hstep
    obtain ⟨rfl, -⟩ := Prod.mk.inj heq
    rfl

/-- Only a pump that has just ended closes an end. -/
lemma closes_step {w : Watched σ} (h : b.unreported? direction = none) :
    (b.step ends.watched w direction).2.closes = w.closes := by
  cases direction with
  | uplink =>
    rw [step, stepUplink_of_none h]
    exact Uplink.closes_step ..
  | downlink =>
    rw [step, stepDownlink_of_none h]
    exact Downlink.closes_step ..

end Bridge

namespace SharedBridge

variable (ends : Endpoints σ)

/-- A new bridge, which nobody has asked to close. -/
def start (serial : String) (options : BridgeOptions) (chunkLen : Nat) (s : σ) : SharedBridge σ :=
  { bridge := .start serial options chunkLen, ends := ⟨s, []⟩ }

def ask (asker : Asker) (c : SharedBridge σ) : SharedBridge σ :=
  { c with requests := c.requests ++ [{ asker }] }

def pump (direction : Direction) (c : SharedBridge σ) : SharedBridge σ :=
  match c.bridge.unreported? direction with
  | some result =>
    let line := endLine c.bridge.serial direction c.bridge.latch.closed result
    ask (.pump direction)
      { c with bridge := c.bridge.reported direction, notes := c.notes ++ [.logged line] }
  | none =>
    match c.bridge.step ends.watched c.ends direction with
    | (some (bridge, notes), w) => { c with bridge, ends := w, notes := c.notes ++ notes }
    | (none, w) => { c with ends := w }

/-- Whether somebody has made a request. -/
def hasAsked (c : SharedBridge σ) (asker : Asker) : Bool := c.requests.any (·.asker == asker)

/-- The owner has its answer, and the threads of both pumps have come to their ends. -/
def isJoined (c : SharedBridge σ) : Bool :=
  c.bridge.isFinished &&
    c.requests.all fun r => r.asker == .caller || r.asker == .dropper || r.progress == .returned

def advance (i : Nat) (c : SharedBridge σ) : SharedBridge σ :=
  match c.requests[i]? with
  | none => c
  | some r =>
    let (progress, latch, w) :=
      r.progress.step ends.watched.closeLink ends.watched.closeInterface c.bridge.latch c.ends
    let line : LogLine := ⟨.bridge, .debug, s!"{c.bridge.serial}: closing bridge"⟩
    { bridge := { c.bridge with latch }
      ends := w
      requests := c.requests.set i { r with progress }
      notes := c.notes ++ if c.bridge.latch = latch then [] else [.logged line] }

/-- What happens in a turn; a turn that cannot be taken now changes nothing. The owner drops the bridge
once, and if it has begun to join it only after that is done. -/
def take (c : SharedBridge σ) : Turn σ → SharedBridge σ
  | .pump direction => c.pump ends direction
  | .call => c.ask .caller
  | .join => if c.hasAsked .joiner || c.hasAsked .dropper then c else c.ask .joiner
  | .drop =>
    if c.hasAsked .dropper || (c.hasAsked .joiner && !c.isJoined) then c else c.ask .dropper
  | .request i => c.advance ends i
  | .outside change => { c with ends := { c.ends with state := change c.ends.state } }

def run (c : SharedBridge σ) (turns : List (Turn σ)) : SharedBridge σ := turns.foldl (take ends) c

variable {ends} {c : SharedBridge σ}

/-! ### Requests without interruption -/

/-- Three steps without another in between carry a new request out. -/
lemma run_ask (ends : Endpoints σ) (asker : Asker) (c : SharedBridge σ) :
    (c.ask asker).run ends (List.replicate 3 (.request c.requests.length)) =
      { bridge := (c.bridge.close ends.watched c.ends).1
        ends := (c.bridge.close ends.watched c.ends).2.2
        requests := c.requests ++ [⟨asker, .returned⟩]
        notes := c.notes ++ (c.bridge.close ends.watched c.ends).2.1 } := by
  obtain ⟨⟨serial, options, uplink, downlink, ⟨closed⟩, up, down⟩, w, requests, notes⟩ := c
  have hset (r r' : Asked) : (requests ++ [r]).set requests.length r' = requests ++ [r'] := by simp
  cases closed with
  | false => simp [run, ask, take, advance, hset, CloseRequest.step, Bridge.close, List.replicate]
  | true => simp [run, ask, take, advance, hset, CloseRequest.step, Bridge.close, List.replicate]

/-- What a bridge does that runs on its own is one of the runs of the shared bridge. -/
lemma exists_run_eq_step {b : Bridge} {notes : List Note} {w : Watched σ} (direction : Direction)
    (h : c.bridge.step ends.watched c.ends direction = (some (b, notes), w)) :
    ∃ turns, (c.run ends turns).bridge = b ∧ (c.run ends turns).ends = w ∧
      (c.run ends turns).notes = c.notes ++ notes := by
  cases hresult : c.bridge.unreported? direction with
  | none =>
    refine ⟨[.pump direction], ?_⟩
    simp [run, take, pump, hresult, h]
  | some result =>
    refine ⟨.pump direction :: List.replicate 3 (.request c.requests.length), ?_⟩
    have hfirst : c.take ends (.pump direction) = ask (.pump direction)
        { c with
          bridge := c.bridge.reported direction
          notes := c.notes ++
            [.logged (endLine c.bridge.serial direction c.bridge.latch.closed result)] } := by
      simp [take, pump, hresult]
    have hrun := run_ask ends (.pump direction)
        { c with
          bridge := c.bridge.reported direction
          notes := c.notes ++
            [.logged (endLine c.bridge.serial direction c.bridge.latch.closed result)] }
    rw [run, List.foldl_cons, hfirst, ← run, hrun]
    rw [Bridge.step_of_unreported hresult] at h
    obtain ⟨⟨rfl, rfl⟩, rfl⟩ : (_ ∧ _) ∧ _ := by simpa using h
    have hsame : (c.bridge.reported direction).serial = c.bridge.serial ∧
        (c.bridge.reported direction).latch = c.bridge.latch := by
      cases direction with
      | uplink => exact ⟨rfl, rfl⟩
      | downlink => exact ⟨rfl, rfl⟩
    simp [Bridge.stop, hsame]

/-! ### The request on its way -/

/-- Whether a request has turned the latch and not returned yet. -/
def isUnderWay : CloseRequest → Bool
  | .closingLink | .closingInterface => true
  | .begun | .returned => false

def underWay (requests : List Asked) : List CloseRequest :=
  (requests.map Asked.progress).filter isUnderWay

@[simp] lemma underWay_nil : underWay [] = [] := rfl

@[simp] lemma underWay_append (requests later : List Asked) :
    underWay (requests ++ later) = underWay requests ++ underWay later := by
  simp [underWay]

@[simp] lemma underWay_cons (r : Asked) (requests : List Asked) :
    underWay (r :: requests) =
      if isUnderWay r.progress then r.progress :: underWay requests else underWay requests :=
  List.filter_cons

/-- How far the closing of a bridge has come: whether the latch was turned, the requests on their way, and
the closes made. -/
inductive Stage : Bool → List CloseRequest → List EndClose → Prop
  | untouched : Stage false [] []
  | linkNext : Stage true [.closingLink] []
  | interfaceNext : Stage true [.closingInterface] [.link]
  | closed : Stage true [] [.link, .interface]

lemma Stage.of_open {reqs : List CloseRequest} {closes : List EndClose} (h : Stage false reqs closes) :
    reqs = [] ∧ closes = [] := by
  cases h with
  | untouched => exact ⟨rfl, rfl⟩

/-- When the latch was turned and no request is on its way any more, both ends are closed. -/
lemma Stage.of_done {closes : List EndClose} (h : Stage true [] closes) :
    closes = [.link, .interface] := by
  cases h with
  | closed => rfl

/-- The closes made are a beginning of the two that there will be. -/
lemma Stage.closes_prefix {closed : Bool} {reqs : List CloseRequest} {closes : List EndClose}
    (h : Stage closed reqs closes) : closes <+: [.link, .interface] := by
  cases h with
  | untouched => exact List.nil_prefix
  | linkNext => exact List.nil_prefix
  | interfaceNext => exact List.prefix_append [EndClose.link] [EndClose.interface]
  | closed => exact List.prefix_rfl

/-- A request that is on its way is the only one, and it is where the closes say. -/
lemma Stage.alone {closed : Bool} {before after : List CloseRequest} {p : CloseRequest}
    {closes : List EndClose} (h : Stage closed (before ++ p :: after) closes) :
    before = [] ∧ after = [] ∧ closed = true ∧
      ((p = .closingLink ∧ closes = []) ∨ (p = .closingInterface ∧ closes = [.link])) := by
  generalize hreqs : before ++ p :: after = reqs at h
  cases h with
  | untouched => simp at hreqs
  | closed => simp at hreqs
  | linkNext =>
    obtain ⟨rfl, hlast⟩ | ⟨-, hnil⟩ := List.append_eq_singleton_iff.1 hreqs
    · obtain ⟨rfl, rfl⟩ := List.cons_eq_cons.1 hlast
      exact ⟨rfl, rfl, rfl, .inl ⟨rfl, rfl⟩⟩
    · exact absurd hnil (List.cons_ne_nil _ _)
  | interfaceNext =>
    obtain ⟨rfl, hlast⟩ | ⟨-, hnil⟩ := List.append_eq_singleton_iff.1 hreqs
    · obtain ⟨rfl, rfl⟩ := List.cons_eq_cons.1 hlast
      exact ⟨rfl, rfl, rfl, .inr ⟨rfl, rfl⟩⟩
    · exact absurd hnil (List.cons_ne_nil _ _)

/-- A step of a request leads to the next stage, or leaves the stage as it is. -/
lemma Stage.step {before after : List Asked} {r : Asked} {latch : Latch} {w : Watched σ}
    (ends : Endpoints σ) (h : Stage latch.closed (underWay (before ++ r :: after)) w.closes) :
    Stage
      (r.progress.step ends.watched.closeLink ends.watched.closeInterface latch w).2.1.closed
      (underWay (before ++ { r with progress :=
        (r.progress.step ends.watched.closeLink ends.watched.closeInterface latch w).1 } :: after))
      (r.progress.step ends.watched.closeLink ends.watched.closeInterface latch w).2.2.closes := by
  obtain ⟨asker, progress⟩ := r
  obtain ⟨closed⟩ := latch
  rw [underWay_append, underWay_cons] at h ⊢
  cases progress with
  | begun =>
    cases closed with
    | true => exact h
    | false =>
      obtain ⟨hnone, hcloses⟩ := Stage.of_open h
      obtain ⟨hbefore, hafter⟩ := List.append_eq_nil_iff.1 hnone
      change underWay after = [] at hafter
      change Stage true (underWay before ++ .closingLink :: underWay after) w.closes
      rw [hbefore, hafter, hcloses]
      exact .linkNext
  | closingLink =>
    obtain ⟨hbefore, hafter, rfl, ⟨-, hcloses⟩ | ⟨hne, -⟩⟩ := Stage.alone h
    · change Stage true (underWay before ++ .closingInterface :: underWay after) (w.closes ++ [.link])
      rw [hbefore, hafter, hcloses]
      exact .interfaceNext
    · cases hne
  | closingInterface =>
    obtain ⟨hbefore, hafter, rfl, ⟨hne, -⟩ | ⟨-, hcloses⟩⟩ := Stage.alone h
    · cases hne
    · change Stage true (underWay before ++ underWay after) (w.closes ++ [.interface])
      rw [hbefore, hafter, hcloses]
      exact .closed
  | returned => exact h

/-- At most one request is on its way, and a request returns only once the latch was turned. -/
structure Orderly (c : SharedBridge σ) : Prop where
  stage : Stage c.bridge.latch.closed (underWay c.requests) c.ends.closes
  returned : ∀ r ∈ c.requests, r.progress = .returned → c.bridge.latch.closed = true

lemma orderly_start (serial : String) (options : BridgeOptions) (chunkLen : Nat) (s : σ) :
    (start serial options chunkLen s).Orderly :=
  ⟨.untouched, by simp [start]⟩

/-- A request that begins is not on its way yet. -/
lemma Orderly.ask (h : c.Orderly) (asker : Asker) : (c.ask asker).Orderly := by
  obtain ⟨hstage, hreturned⟩ := h
  refine ⟨?_, ?_⟩
  · simpa [SharedBridge.ask, isUnderWay] using hstage
  · intro r hr hprogress
    rcases List.mem_append.1 hr with hr | hr
    · exact hreturned r hr hprogress
    · obtain rfl := List.mem_singleton.1 hr
      cases hprogress

/-- What a pump's thread does concerns the closing only by the request that it may begin. -/
lemma Orderly.pump (h : c.Orderly) (direction : Direction) : (c.pump ends direction).Orderly := by
  unfold SharedBridge.pump
  split
  · next result hresult =>
    apply Orderly.ask
    have hsame : (c.bridge.reported direction).latch = c.bridge.latch := by
      cases direction with
      | uplink => rfl
      | downlink => rfl
    exact ⟨by simpa only [hsame] using h.stage, by simpa only [hsame] using h.returned⟩
  · next hnone =>
    have hcloses : (c.bridge.step ends.watched c.ends direction).2.closes = c.ends.closes :=
      Bridge.closes_step hnone
    split
    · next b notes w hstep =>
      rw [hstep] at hcloses
      change w.closes = c.ends.closes at hcloses
      have hlatch := Bridge.latch_step hnone (congrArg Prod.fst hstep)
      refine ⟨?_, ?_⟩
      · simpa only [hlatch, hcloses] using h.stage
      · simpa only [hlatch] using h.returned
    · next w hstep =>
      rw [hstep] at hcloses
      change w.closes = c.ends.closes at hcloses
      exact ⟨by simpa only [hcloses] using h.stage, h.returned⟩

/-- A request that returns has turned the latch, or has found it turned. -/
lemma Stage.of_returned {before after : List Asked} {r : Asked} {latch : Latch} {w : Watched σ}
    (ends : Endpoints σ) (h : Stage latch.closed (underWay (before ++ r :: after)) w.closes)
    (hreturned : r.progress = .returned → latch.closed = true)
    (hnext : (r.progress.step ends.watched.closeLink ends.watched.closeInterface latch w).1 =
      .returned) :
    (r.progress.step ends.watched.closeLink ends.watched.closeInterface latch w).2.1.closed = true := by
  obtain ⟨asker, progress⟩ := r
  cases progress with
  | begun =>
    unfold CloseRequest.step at hnext ⊢
    dsimp only at hnext ⊢
    split
    · assumption
    · rfl
  | closingLink => cases hnext
  | closingInterface =>
    rw [underWay_append, underWay_cons] at h
    exact (Stage.alone h).2.2.1
  | returned => exact hreturned rfl

lemma closed_step {p : CloseRequest} {latch : Latch} {w : Watched σ} (h : latch.closed = true) :
    (p.step ends.watched.closeLink ends.watched.closeInterface latch w).2.1.closed = true := by
  cases p with
  | begun => simp only [CloseRequest.step, h, if_true]
  | closingLink => exact h
  | closingInterface => exact h
  | returned => exact h

lemma Orderly.advance (h : c.Orderly) (i : Nat) : (c.advance ends i).Orderly := by
  unfold SharedBridge.advance
  split
  · exact h
  · next r hr =>
    obtain ⟨hi, hget⟩ := List.getElem?_eq_some_iff.1 hr
    -- the request whose turn it is stands between others, and only it is replaced
    obtain ⟨before, after, hsplit, -, hset⟩ := @List.exists_of_set _ i
      { r with progress :=
        (r.progress.step ends.watched.closeLink ends.watched.closeInterface c.bridge.latch c.ends).1 }
      c.requests hi
    rw [hget] at hsplit
    obtain ⟨hstage, hreturned⟩ := h
    rw [hsplit] at hstage
    refine ⟨?_, ?_⟩
    · simp only [hset]
      exact hstage.step ends
    · intro r' hr' hprogress
      -- Of the requests after the step only `r` may have returned in it.
      simp only [hset, List.mem_append, List.mem_cons] at hr'
      have hother : r' ∈ c.requests → c.bridge.latch.closed = true := fun hmem =>
        hreturned r' hmem hprogress
      rw [hsplit] at hother
      rcases hr' with hr' | rfl | hr'
      · exact closed_step (hother (List.mem_append_left _ hr'))
      · exact hstage.of_returned ends (hreturned r (List.mem_of_getElem? hr)) hprogress
      · exact closed_step (hother (List.mem_append_right _ (List.mem_cons_of_mem _ hr')))

/-- What holds of a bridge nobody has asked to close holds after every turn. -/
lemma Orderly.take (h : c.Orderly) (turn : Turn σ) : (c.take ends turn).Orderly := by
  cases turn with
  | pump direction => exact h.pump direction
  | call => exact h.ask .caller
  | join =>
    unfold SharedBridge.take
    dsimp only
    split
    · exact h
    · exact h.ask .joiner
  | drop =>
    unfold SharedBridge.take
    dsimp only
    split
    · exact h
    · exact h.ask .dropper
  | request i => exact h.advance i
  | outside change => exact ⟨h.stage, h.returned⟩

lemma Orderly.run (h : c.Orderly) (turns : List (Turn σ)) : (c.run ends turns).Orderly := by
  induction turns generalizing c with
  | nil => exact h
  | cons turn turns ih => exact ih (h.take turn)

/-- Once all requests have returned, of which there was at least one, both ends are closed. -/
lemma Orderly.closes_eq (h : c.Orderly) (hasked : c.requests ≠ [])
    (hall : ∀ r ∈ c.requests, r.progress = .returned) : c.ends.closes = [.link, .interface] := by
  obtain ⟨hstage, hreturned⟩ := h
  obtain ⟨r, hr⟩ := List.exists_mem_of_ne_nil _ hasked
  have hclosed : c.bridge.latch.closed = true := hreturned r hr (hall r hr)
  have hnone : underWay c.requests = [] := by
    simp only [underWay, List.filter_eq_nil_iff, List.mem_map]
    rintro p ⟨r, hr, rfl⟩
    rw [hall r hr]
    exact Bool.false_ne_true
  rw [hclosed, hnone] at hstage
  exact hstage.of_done

end SharedBridge

/-- However the steps of the two pumps, of callers, of a join and a drop, and of their requests to close
follow each other, the ends are closed at most once each, the link first; and whenever requests were made
and all of them have returned, both are closed. -/
theorem ends_are_closed_once (ends : Endpoints σ) (serial : String) (options : BridgeOptions)
    (chunkLen : Nat) (s : σ) (turns : List (Turn σ)) :
    let c := (SharedBridge.start serial options chunkLen s).run ends turns
    c.ends.closes <+: [.link, .interface] ∧
      (c.requests ≠ [] → (∀ r ∈ c.requests, r.progress = .returned) →
        c.ends.closes = [.link, .interface]) := by
  intro c
  have h : c.Orderly := (SharedBridge.orderly_start serial options chunkLen s).run turns
  refine ⟨h.stage.closes_prefix, ?_⟩
  intro hasked hall
  exact h.closes_eq hasked hall

/-- A bridge to a device whose stream is at its end. -/
def endedBridge : SharedBridge Script := .start "S1" {} 64 { transfers := [.ok []] }

/-- Two callers and the downlink ask at once. -/
def threeAsk : List (Turn Script) :=
  [.call, .pump .downlink, .call, .request 0, .pump .downlink, .request 1, .request 0]

/-- The requests are carried out, and the bridge is dropped. -/
def threeReturn : List (Turn Script) := [.request 2, .request 0, .drop, .request 3]

/-- The second caller has its answer while the first has closed the link only; then the interface is closed as
well, and no more. -/
theorem ends_are_closed_once_for_three :
    (endedBridge.run Script.ends threeAsk).requests =
      [⟨.caller, .closingInterface⟩, ⟨.caller, .returned⟩, ⟨.pump .downlink, .begun⟩] ∧
    (endedBridge.run Script.ends threeAsk).ends.closes = [.link] ∧
    (endedBridge.run Script.ends (threeAsk ++ threeReturn)).requests.length = 4 ∧
    (∀ r ∈ (endedBridge.run Script.ends (threeAsk ++ threeReturn)).requests, r.progress = .returned) ∧
    (endedBridge.run Script.ends (threeAsk ++ threeReturn)).ends.closes = [.link, .interface] := by
  have hasked : (endedBridge.run Script.ends (threeAsk ++ threeReturn)).requests.length = 4 := by
    decide +kernel
  have hall : ∀ r ∈ (endedBridge.run Script.ends (threeAsk ++ threeReturn)).requests,
      r.progress = .returned := by
    decide +kernel
  have hclosed := (ends_are_closed_once Script.ends "S1" {} 64 { transfers := [.ok []] }
    (threeAsk ++ threeReturn)).2
  exact ⟨by decide +kernel, by decide +kernel, hasked, hall,
    hclosed (List.ne_nil_of_length_eq_add_one hasked) hall⟩

end NcmBridge
