import FlowRules.Log
import FlowRules.Packet
import FlowRules.Table
import FlowRules.Tracking.Cache

/-!
# The context of an evaluation

A `Context` says where a packet is on its path : the device it passes, its ingress and
egress ports and the groups of the ingress port. It also holds the direction of the
packet's flow once that is known.

`flowStateBlocking` finds the direction. It asks the cache at most once in the life of a
context, and only for a packet with a signature; any other packet counts as forward.
If the packet's own key holds the marker, the packet is return traffic. If not, the
packet is the forward one, and the marker is written under the key of the opposite
direction, so that the answer is recognised. A failure of the cache is reported under
the key it concerned and leaves the context as it was. `flowStateAsync` goes the same
way, but waits for the answer to its read, and may be suspended there.
-/

namespace FlowRules

/-- The direction of a packet's flow. -/
inductive FlowState where
  /-- Not looked up yet. -/
  | untracked
  | forward
  | returning
  deriving DecidableEq

namespace FlowState

/-- The direction in capitals. -/
def text : FlowState → String
  | untracked => "UNTRACKED"
  | forward => "FORWARD"
  | returning => "RETURN"

/-- The diagnostic form. -/
def inspect : FlowState → String
  | untracked => "Untracked"
  | forward => "Forward"
  | returning => "Return"

end FlowState

/-- Where a packet is on its path, and what is known of its flow. -/
structure Context where
  device : DeviceId
  inPort : Option PortId := none
  outPort : Option PortId := none
  groups : KeySet GroupId := .empty
  /-- Are failures of the cache reported? -/
  reports : Bool := false
  flowState : FlowState := .untracked
  deriving DecidableEq

namespace Context

/-- Is the direction of the flow known? -/
def isTracked (ctx : Context) : Bool := ctx.flowState ≠ .untracked

/-- The diagnostic form of a value that may be absent. -/
def inspectOption {α : Type} (value : α → String) : Option α → String
  | none => "None"
  | some a => "Some(" ++ value a ++ ")"

/-- The diagnostic form. -/
def inspect (ctx : Context) : String :=
  "EvalContext \x7b device: " ++ ctx.device.inspect ++
    ", in_port: " ++ inspectOption Id.inspect ctx.inPort ++
    ", out_port: " ++ inspectOption Id.inspect ctx.outPort ++
    ", in_port_groups: \x7b" ++ String.intercalate ", " (ctx.groups.keys.map Id.inspect) ++
    "\x7d, flow_state: " ++ ctx.flowState.inspect ++ ", .. \x7d"

end Context

/-! ## Evaluation -/

/-- The context, the shared cache, and the lines reported so far. -/
structure EvalState (σ : Type) where
  context : Context
  cache : σ
  log : List LogLine := []

/-- A computation that uses the cache, may settle the direction of the flow, may
report, and may fail as the cache does. -/
abbrev Eval (σ : Type) := ExceptT CacheError (StateM (EvalState σ))

namespace Eval

variable {σ : Type}

/-- The outcome of a computation and the state after it. -/
def outcome {α : Type} (m : Eval σ α) (s : EvalState σ) : Except CacheError α × EvalState σ :=
  m.run.run s

/-- The state with a failure of the cache reported, if the context reports. -/
def reported (s : EvalState σ) (key : String) (e : CacheError) : EvalState σ :=
  if s.context.reports then
    { s with log := s.log ++ [⟨.warn, "conn track " ++ key ++ ": " ++ e.message⟩] }
  else s

/-- A call of the cache about a key. A failure is reported. -/
def call {α : Type} (key : String) (op : σ → Except CacheError α × σ) : Eval σ α := fun s =>
  match op s.cache with
  | (.ok a, cache) => (.ok a, { s with cache })
  | (.error e, cache) => (.error e, reported { s with cache } key e)

/-- The answer to a call of the cache about a key. A failure is reported. -/
def answered {α : Type} (key : String) (answer : Except CacheError α) : Eval σ α := fun s =>
  match answer with
  | .ok a => (.ok a, s)
  | .error e => (.error e, reported s key e)

/-- Settle the direction of the flow. -/
def settle (state : FlowState) : Eval σ FlowState := fun s =>
  (.ok state, { s with context := { s.context with flowState := state } })

/-- The direction of a flow by the value under its own key. -/
def classify (cache : Cache σ) (device : DeviceId) (sig : FlowSig) (value : Option String) :
    Eval σ FlowState := do
  if value = some returnMarker then settle .returning
  else
    let key := reverseKey device sig
    call key (cache.set key returnMarker)
    settle .forward

/-- The direction of the packet's flow, by a read that blocks. -/
def flowStateBlocking (cache : Cache σ) (p : Packet) : Eval σ FlowState := do
  let ctx := (← get).context
  if ctx.isTracked then return ctx.flowState
  match p.flowSig? with
  | none => settle .forward
  | some sig =>
    let key := trackingKey ctx.device sig
    let value ← call key (cache.renew key)
    classify cache ctx.device sig value

end Eval

/-! ## Evaluation that may be suspended -/

/-- The cache as a part of the state of an evaluation. -/
def EvalState.cachePart {σ : Type} : Part (EvalState σ) σ where
  get s := s.cache
  put cache s := { s with cache }

/-- A computation like those of `Eval` that may be suspended. -/
abbrev AsyncEval (σ : Type) := ExceptT CacheError (Future (EvalState σ))

namespace AsyncEval

variable {σ : Type}

/-- A computation in one step. -/
def now {α : Type} (m : Eval σ α) : AsyncEval σ α := .mk (.now (Eval.outcome m))

/-- The computation brought to its end. -/
def complete {α : Type} (m : AsyncEval σ α) : Eval σ α := fun s => m.run.complete s

/-- Wait for the answer of the cache about a key. A failure is reported. -/
def await {α : Type} (key : String) (answer : Future σ (Except CacheError α)) :
    AsyncEval σ α := .mk do
  let result ← answer.within EvalState.cachePart
  now (Eval.answered key result)

end AsyncEval

namespace Eval

variable {σ : Type}

/-- The direction of the packet's flow, by a read that does not block. -/
def flowStateAsync (cache : Cache σ) (p : Packet) : AsyncEval σ FlowState := do
  let ctx := (← AsyncEval.now get).context
  if ctx.isTracked then return ctx.flowState
  match p.flowSig? with
  | none => AsyncEval.now (settle .forward)
  | some sig =>
    let key := trackingKey ctx.device sig
    let value ← AsyncEval.await key (cache.renewAsync key)
    AsyncEval.now (classify cache ctx.device sig value)

/-- The direction of the packet's flow by the computation of the mode, which is brought to
its end. -/
def flowState (cache : Cache σ) (mode : ReadMode) (p : Packet) : Eval σ FlowState :=
  match mode with
  | .blocking => flowStateBlocking cache p
  | .async => (flowStateAsync cache p).complete

/-- Does the packet go forward? -/
def isForwardFlow (cache : Cache σ) (p : Packet) : Eval σ Bool := do
  return (← flowStateBlocking cache p) = .forward

end Eval

end FlowRules
