import RemotePort.Master.Access
import Mathlib.Logic.Function.Basic

/-! # Callers sharing one `RemotePort`

Any number of callers run `rp_io_read` and `rp_io_write` on regions backed by one
`RemotePort`. A caller moves one step at a time, from one point where its function touches
shared state to the next: the virtual clock, the id counter, `rsp_mutex`, the transport and the
response slot. The steps in between are its own and do not interleave with anyone.

The functions of `remote-port.c` the callers use are not in the sources and are modelled by the
protocol description: `rp_rsp_mutex_lock` and `rp_rsp_mutex_unlock` are a mutex held across
`rp_wait_resp`, which blocks until the response slot holds a valid packet and returns it;
`rp_new_id` is a counter; `rp_normalized_vmclk` reads a clock that only moves forward. The peer
answers every request it receives once, in order, with a response that carries the request's id;
everything else in the response is its choice. `rp_leave_iothread` is host scheduling and left
out.

The state records what happened in `trace`: the requests and responses on the transport, the
responses handed to callers, and the clock reconciliations.
-/

namespace RemotePort.Master

open Proto

/-- One call of `rp_io_read` or `rp_io_write` on a region. -/
inductive Access where
  | read (map : RemotePortMap) (addr : UInt64) (size : UInt32)
  | write (map : RemotePortMap) (addr value : UInt64) (size : UInt32)
  deriving DecidableEq, Repr, Inhabited

/-- What a call returns once it took a response carrying `data`: `rp_io_read` the value it
assembles from the first `size` bytes, `rp_io_write` nothing. -/
def Access.result : Access → List UInt8 → Option UInt64
  | .read _ _ size, data => rpIoReadValue data size.toNat
  | .write .., _ => none

/-- Where a caller is in `rp_io_read` or `rp_io_write`. -/
inductive Phase where
  /-- Outside both functions. -/
  | idle
  /-- Called, before `rp_normalized_vmclk`. -/
  | entered
  /-- `clk = rp_normalized_vmclk`, before `rp_new_id`. -/
  | sampled
  /-- `id = rp_new_id` and the request encoded, before `rp_rsp_mutex_lock`. -/
  | numbered
  /-- Holds `rsp_mutex`, before `rp_write`. -/
  | locked
  /-- The request is written; blocked in `rp_wait_resp`. -/
  | sent
  /-- `rp_wait_resp` returned the response, before the id assertion. -/
  | received
  /-- The id assertion held; the value and `rclk` are read from the response. -/
  | checked
  /-- `rp_dpkt_invalidate` done, before `rp_rsp_mutex_unlock`. -/
  | invalidated
  /-- `rsp_mutex` released, before `rp_sync_vmclock`. -/
  | unlocked
  /-- `rp_sync_vmclock` done, before `rp_restart_sync_timer`. -/
  | synced
  /-- `assert(size <= 8)` of `rp_io_write` failed. -/
  | oversized
  /-- The id assertion failed. -/
  | outOfOrder
  deriving DecidableEq, Repr, Inhabited

/-- A caller's program point and the locals its function has computed so far. -/
structure Caller where
  access : Access
  phase : Phase
  clk : Int
  id : UInt32
  rsp : RemotePortDynPkt
  value : Option UInt64
  deriving DecidableEq, Repr, Inhabited

/-- What the trace records. -/
inductive Event (τ : Type) where
  /-- A caller's `rp_write` of its request. -/
  | request (caller : τ) (id : UInt32) (clk : Int)
  /-- The peer's response, with its data, reaches the response slot. -/
  | response (id : UInt32) (timestamp : UInt64) (data : List UInt8)
  /-- `rp_wait_resp` returns the slot, with its data, to a caller. -/
  | consume (caller : τ) (id : UInt32) (data : List UInt8)
  /-- `rp_sync_vmclock`. -/
  | sync (caller : τ)
  /-- `rp_restart_sync_timer`. -/
  | restart (caller : τ)
  deriving DecidableEq, Repr

/-- The shared `RemotePort` and its callers. -/
structure Channel (τ : Type) where
  callers : τ → Caller
  /-- `rsp_mutex` and the caller holding it. -/
  rspMutex : Option τ
  /-- The counter of `rp_new_id`. -/
  currentId : UInt32
  /-- The normalized virtual clock `rp_normalized_vmclk` reads. -/
  vmclk : Int
  /-- Requests the peer received and has not answered yet, oldest first. -/
  inbox : List RpPktBusaccess
  /-- The response slot `rp_wait_resp` returns. -/
  rspqueue : RemotePortDynPkt
  trace : List (Event τ)

/-- A scheduling decision: who moves next. -/
inductive Action (τ : Type) where
  /-- A caller outside both functions calls one of them. -/
  | call (caller : τ) (access : Access)
  /-- A caller takes its next step. -/
  | run (caller : τ)
  /-- The peer answers its oldest request with `rsp` and `data`, under the request's id. -/
  | answer (rsp : RpPktBusaccess) (data : List UInt8)
  /-- Virtual time passes. -/
  | tick (elapsed : Nat)

namespace Caller

def request (c : Caller) : RpPktBusaccess :=
  match c.access with
  | .read map addr size => (rpIoReadRequest map addr size c.id c.clk).1
  | .write map addr _ size => (rpIoWriteRequest map addr size c.id c.clk).1

@[simp] theorem request_id (c : Caller) : c.request.hdr.id = c.id := by
  cases h : c.access <;> simp [request, h]

/-- What the call returns from the response it took. -/
def result (c : Caller) : Option UInt64 := c.access.result c.rsp.data

/-- `assert(size <= 8)`, which only `rp_io_write` makes. -/
def sizeOk (c : Caller) : Bool :=
  match c.access with
  | .read .. => true
  | .write _ _ _ size => size.toNat ≤ 8

end Caller

namespace Channel

variable {τ : Type} [DecidableEq τ]

/-- The channel before any call: no caller inside, the mutex free, nothing on the transport. -/
def init (currentId : UInt32) (vmclk : Int) : Channel τ :=
  { callers := fun _ => default, rspMutex := none, currentId, vmclk, inbox := [],
    rspqueue := default, trace := [] }

def setCaller (s : Channel τ) (t : τ) (c : Caller) : Channel τ :=
  { s with callers := Function.update s.callers t c }

/-- Caller `t`'s next step, from its program point. A caller that is blocked (on the mutex or
in `rp_wait_resp`) or outside the functions does not move. -/
def advance (s : Channel τ) (t : τ) : Channel τ :=
  let c := s.callers t
  match c.phase with
  | .idle => s
  | .entered =>
      if c.sizeOk then s.setCaller t { c with phase := .sampled, clk := s.vmclk }
      else s.setCaller t { c with phase := .oversized }
  | .sampled =>
      { s.setCaller t { c with phase := .numbered, id := s.currentId } with
        currentId := s.currentId + 1 }
  | .numbered =>
      if s.rspMutex = none then
        { s.setCaller t { c with phase := .locked } with rspMutex := some t }
      else s
  | .locked =>
      { s.setCaller t { c with phase := .sent } with
        inbox := s.inbox ++ [c.request]
        trace := s.trace ++ [.request t c.id c.clk] }
  | .sent =>
      if s.rspqueue.isValid then
        { s.setCaller t { c with phase := .received, rsp := s.rspqueue } with
          trace := s.trace ++ [.consume t s.rspqueue.pkt.hdr.id s.rspqueue.data] }
      else s
  | .received =>
      if rpIoIdMatches c.request.hdr.id c.rsp then
        s.setCaller t { c with phase := .checked, value := c.result }
      else s.setCaller t { c with phase := .outOfOrder }
  | .checked =>
      { s.setCaller t { c with phase := .invalidated } with rspqueue := s.rspqueue.invalidate }
  | .invalidated => { s.setCaller t { c with phase := .unlocked } with rspMutex := none }
  | .unlocked =>
      { s.setCaller t { c with phase := .synced } with trace := s.trace ++ [.sync t] }
  | .synced =>
      { s.setCaller t { c with phase := .idle } with trace := s.trace ++ [.restart t] }
  | .oversized => s
  | .outOfOrder => s

/-- The peer answers its oldest request; the response takes the request's id. -/
def answer (s : Channel τ) (rsp : RpPktBusaccess) (data : List UInt8) : Channel τ :=
  match s.inbox with
  | [] => s
  | req :: rest =>
      { s with
        inbox := rest
        rspqueue := ⟨{ rsp with hdr := { rsp.hdr with id := req.hdr.id } }, data, true⟩
        trace := s.trace ++ [.response req.hdr.id rsp.timestamp data] }

def step (s : Channel τ) : Action τ → Channel τ
  | .call t access =>
      if (s.callers t).phase = .idle then
        s.setCaller t { (s.callers t) with access, phase := .entered }
      else s
  | .run t => s.advance t
  | .answer rsp data => s.answer rsp data
  | .tick elapsed => { s with vmclk := s.vmclk + elapsed }

def exec (s : Channel τ) (actions : List (Action τ)) : Channel τ :=
  actions.foldl step s

@[simp] theorem exec_nil (s : Channel τ) : s.exec [] = s := rfl

@[simp] theorem setCaller_same (s : Channel τ) (t : τ) (c : Caller) :
    (s.setCaller t c).callers t = c :=
  Function.update_same _ _ _

@[simp] theorem setCaller_other (s : Channel τ) {t u : τ} (c : Caller) (other : u ≠ t) :
    (s.setCaller t c).callers u = s.callers u :=
  Function.update_noteq other _ _

@[simp] theorem setCaller_rspMutex (s : Channel τ) (t : τ) (c : Caller) :
    (s.setCaller t c).rspMutex = s.rspMutex := rfl

@[simp] theorem setCaller_inbox (s : Channel τ) (t : τ) (c : Caller) :
    (s.setCaller t c).inbox = s.inbox := rfl

@[simp] theorem setCaller_rspqueue (s : Channel τ) (t : τ) (c : Caller) :
    (s.setCaller t c).rspqueue = s.rspqueue := rfl

@[simp] theorem setCaller_trace (s : Channel τ) (t : τ) (c : Caller) :
    (s.setCaller t c).trace = s.trace := rfl

/-- Past `rp_wait_resp` a caller runs the code `rpIoReadResponse` and `rpIoWriteResponse` model
on the response it took: it passes the id assertion exactly where `rpIoWriteResponse` does, and
a read that passes keeps the value `rpIoReadResponse` returns. -/
theorem advance_received (s : Channel τ) {t : τ} (received : (s.callers t).phase = .received) :
    (((s.advance t).callers t).phase = .checked ↔
        rpIoWriteResponse (s.callers t).id (s.callers t).rsp = some ()) ∧
      ∀ map addr size, (s.callers t).access = .read map addr size →
        ((s.advance t).callers t).phase = .checked →
          ((s.advance t).callers t).value =
            rpIoReadResponse (s.callers t).id size (s.callers t).rsp := by
  have read : ∀ map addr size, (s.callers t).access = .read map addr size →
      (s.callers t).result = rpIoReadValue (s.callers t).rsp.data size.toNat := by
    intro map addr size access
    rw [Caller.result, access, Access.result]
  by_cases passes : rpIoIdMatches (s.callers t).id (s.callers t).rsp
  · simpa [advance, received, passes, rpIoReadResponse, rpIoWriteResponse] using read
  · simp [advance, received, passes, rpIoWriteResponse]

end Channel

end RemotePort.Master
