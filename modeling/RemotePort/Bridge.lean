import RemotePort.Atomic
import RemotePort.Master.Progress
import RemotePort.System

/-! # A memory master whose peer is a memory slave

Callers run `rp_io_read` and `rp_io_write` on the regions of a memory master, and the peer at
the other end of the transport is a memory slave. The slave takes the request the transport
hands it, with the data bytes `rp_write` sent behind it, serves it with `rp_memory_master_read`
or `rp_memory_master_write`, and its response fills the response slot.

Under every interleaving the callers see `Atomic`: the slave's memory, accessed at the regions'
offsets, one call at a time. A call takes effect at the step where the slave serves its
request, and returns what its access gives back there. `Bridge.abstract` forgets the transport
and the callers' program points, `Bridge.Inv.step_refines` shows that every step is at most one
move of `Atomic`, and the run follows by induction. No call is left waiting either: the rounds
argument of the progress module applies with the slave serving (`Bridge.slaveRounds`).
-/

namespace RemotePort

open Proto Master Slave

/-- The program points past `assert(size <= 8)`. -/
def Master.Phase.sized : Phase → Bool
  | .idle | .entered | .oversized => false
  | _ => true

namespace Master.Caller

/-- The data bytes `rp_write` sends behind the caller's request: the first `size` bytes of
`pay.data` for `rp_io_write`, none for `rp_io_read`. -/
def payload (c : Caller) : List UInt8 :=
  match c.access with
  | .read .. => []
  | .write map addr value size => (rpIoWriteTransmit map addr value size c.id c.clk).2.1

/-- The caller's call as the other callers see it, given the response slot. It takes effect
when the slave serves its request, which fills the slot, and from then on it returns what the
response gives: `value`, once `rp_io_read` has computed it. A write stopped by
`assert(size <= 8)` never takes effect. -/
def toCall (c : Caller) (slot : RemotePortDynPkt) : Atomic.Call :=
  match c.phase with
  | .idle => .idle
  | .sent =>
      if slot.isValid then .done c.access (c.access.result slot.data) else .pending c.access
  | .received => .done c.access c.result
  | .checked | .invalidated | .unlocked | .synced => .done c.access c.value
  | .entered | .sampled | .numbered | .locked | .oversized | .outOfOrder => .pending c.access

theorem toCall_of_ne_sent {c : Caller} (notSent : c.phase ≠ .sent)
    (slot other : RemotePortDynPkt) : c.toCall slot = c.toCall other := by
  unfold toCall
  split <;> simp_all

theorem accepted_request (c : Caller) (sizeOk : c.sizeOk = true) :
    Accepted (deliver c.request c.payload) := by
  cases access : c.access with
  | read map addr size =>
      simpa [request, payload, access] using accepted_rpIoReadRequest map addr size c.id c.clk
  | write map addr value size =>
      have small : size.toNat ≤ 8 := by simpa [Caller.sizeOk, access] using sizeOk
      simpa [request, payload, access] using
        accepted_rpIoWriteTransmit map addr value size c.id c.clk small

theorem requestOp_request (c : Caller) : requestOp (deliver c.request c.payload) = c.access.op := by
  cases access : c.access <;>
    simp [requestOp, deliver, request, payload, access, Access.op, rpIoReadRequest,
      rpIoWriteRequest, rpIoWriteTransmit, rpEncodeRead, rpEncodeWrite, rpEncodeBusaccess,
      rpEncodeHdr, Ne.symm rpCmdWrite_ne_rpCmdRead]

end Master.Caller

namespace Master

variable {τ : Type} [DecidableEq τ]

theorem Channel.advance_inbox (s : Channel τ) (t : τ) :
    (s.advance t).inbox =
      if (s.callers t).phase = .locked then s.inbox ++ [(s.callers t).request] else s.inbox := by
  unfold Channel.advance
  dsimp only
  split <;> (try split) <;> simp_all

theorem Channel.advance_rspqueue (s : Channel τ) (t : τ) :
    (s.advance t).rspqueue = s.rspqueue ∨ (s.callers t).phase = .checked := by
  unfold Channel.advance
  dsimp only
  split <;> (try split) <;> simp_all

theorem Channel.advance_sent {s : Channel τ} {t : τ}
    (sent : ((s.advance t).callers t).phase = .sent) :
    ((s.callers t).phase = .locked ∨ (s.callers t).phase = .sent) ∧
      ((s.advance t).callers t).payload = (s.callers t).payload := by
  unfold Channel.advance at sent ⊢
  dsimp only at sent ⊢
  split at sent <;> (try split at sent) <;> simp_all [Caller.payload]

theorem Channel.advance_sized {s : Channel τ} {t : τ}
    (sized : (s.callers t).phase.sized = true → (s.callers t).sizeOk = true) :
    ((s.advance t).callers t).phase.sized = true → ((s.advance t).callers t).sizeOk = true := by
  unfold Channel.advance
  dsimp only
  split <;> (try split) <;> simp_all [Phase.sized, Caller.sizeOk]

end Master

/-- A memory master's callers and the transport, with a memory slave as the peer. -/
structure Bridge (τ : Type) where
  channel : Channel τ
  /-- The slave's address space. -/
  memory : Memory
  /-- The data bytes `rp_write` sent behind the requests the slave has not served, oldest
  first. -/
  payloads : List (List UInt8)

namespace Bridge

/-- A scheduling decision: a caller calls or steps, the slave serves, or time passes. -/
inductive Action (τ : Type) where
  | call (caller : τ) (access : Access)
  | run (caller : τ)
  | serve
  | tick (elapsed : Nat)

variable {τ : Type}

def init (memory : Memory) (currentId : UInt32) (vmclk : Int) : Bridge τ :=
  ⟨Channel.init currentId vmclk, memory, []⟩

/-- What the callers see: the slave's memory and each caller's call. -/
def abstract (b : Bridge τ) : Atomic τ :=
  ⟨b.memory, fun t => (b.channel.callers t).toCall b.channel.rspqueue⟩

theorem abstract_init (memory : Memory) (currentId : UInt32) (vmclk : Int) :
    (init memory currentId vmclk : Bridge τ).abstract = Atomic.init memory := rfl

/-! ## The invariant -/

/-- The channel's invariant; the data behind the request with the slave is its caller's; and a
caller past `assert(size <= 8)` passed it. -/
structure Inv (b : Bridge τ) : Prop where
  channel : Master.Inv b.channel
  carried : b.payloads.length = b.channel.inbox.length
  payload : ∀ t, (b.channel.callers t).phase = .sent →
    ∀ data ∈ b.payloads, data = (b.channel.callers t).payload
  sized : ∀ t, (b.channel.callers t).phase.sized = true → (b.channel.callers t).sizeOk = true

theorem Inv.init (memory : Memory) (currentId : UInt32) (vmclk : Int) :
    Inv (init memory currentId vmclk : Bridge τ) :=
  ⟨Master.Inv.init currentId vmclk, rfl, fun _ _ _ => nofun, fun _ => nofun⟩

/-- Modelled from the spec: the transport hands the slave the oldest request with the data
behind it, `rp_memory_master_read` or `rp_memory_master_write` runs it on the address space,
and the response the slave writes fills the response slot. A request the slave does not accept
aborts it, and it serves nothing more. -/
def serve (b : Bridge τ) : Bridge τ :=
  match b.channel.inbox, b.payloads with
  | req :: _, data :: rest =>
      match rpMemorySlaveDispatch b.memory (deliver req data) with
      | some (after, fields, rspData, _) =>
          { channel := b.channel.answer fields rspData, memory := after, payloads := rest }
      | none => b
  | _, _ => b

theorem Inv.serve_cons {b : Bridge τ} (inv : Inv b) {req : RpPktBusaccess}
    {rest : List RpPktBusaccess} (inbox : b.channel.inbox = req :: rest) :
    ∃ t fields, b.channel.rspMutex = some t ∧ (b.channel.callers t).phase = .sent ∧
      b.channel.inbox = [(b.channel.callers t).request] ∧
      b.channel.rspqueue.isValid = false ∧
      b.serve = ⟨b.channel.answer fields
        ((b.channel.callers t).access.op.run b.memory).2,
        ((b.channel.callers t).access.op.run b.memory).1, []⟩ := by
  obtain ⟨t, held, sent, rfl, rfl, -⟩ := inv.channel.inbox_cons inbox
  obtain ⟨-, part⟩ := inv.channel.holderPart t (by simp [sent, Phase.holds])
  simp only [HolderInv, sent] at part
  obtain ⟨-, -, ⟨-, invalid, -⟩ | ⟨empty, -⟩⟩ := part
  · obtain ⟨data, payloads⟩ : ∃ data, b.payloads = [data] := by
      have carried := inv.carried
      rw [inbox] at carried
      match b.payloads, carried with
      | [data], _ => exact ⟨data, rfl⟩
    have same := inv.payload t sent data (by simp [payloads])
    subst same
    have accepted :=
      (b.channel.callers t).accepted_request (inv.sized t (by simp [sent, Phase.sized]))
    obtain ⟨⟨after, fields, rspData, count⟩, dispatch, served⟩ :=
      Option.map_eq_some'.mp (rpMemorySlaveDispatch_accepted b.memory _ accepted)
    rw [Caller.requestOp_request] at served
    refine ⟨t, fields, held, sent, inbox, by simpa [RemotePortDynPkt.isValid] using invalid, ?_⟩
    simp only [serve, inbox, payloads, dispatch, ← served]
  · simp [Channel.wire, inbox] at empty

theorem serve_nil {b : Bridge τ} (inbox : b.channel.inbox = []) : b.serve = b := by
  simp [serve, inbox]

section Steps

variable [DecidableEq τ]

/-- One scheduling decision. A caller writing its request sends its data behind it. -/
def step (b : Bridge τ) : Action τ → Bridge τ
  | .call t access => { b with channel := b.channel.step (.call t access) }
  | .run t =>
      { b with
        channel := b.channel.advance t
        payloads :=
          if (b.channel.callers t).phase = .locked then
            b.payloads ++ [(b.channel.callers t).payload]
          else b.payloads }
  | .serve => b.serve
  | .tick elapsed => { b with channel := b.channel.step (.tick elapsed) }

def exec (b : Bridge τ) (actions : List (Action τ)) : Bridge τ := actions.foldl step b

/-- The moves of `Atomic` a step makes: a call, the effect of the call whose request the slave
serves, or a return. -/
def moves (b : Bridge τ) : Action τ → List (Atomic.Move τ)
  | .call t access => if (b.channel.callers t).phase = .idle then [.call t access] else []
  | .run t => if (b.channel.callers t).phase = .synced then [.finish t] else []
  | .serve =>
      match b.channel.inbox, b.channel.rspMutex with
      | _ :: _, some t => [.effect t]
      | _, _ => []
  | .tick _ => []

def history (b : Bridge τ) : List (Action τ) → List (Atomic.Move τ)
  | [] => []
  | action :: rest => b.moves action ++ (b.step action).history rest

/-! ## Every step keeps the invariant -/

theorem Inv.call {b : Bridge τ} (inv : Inv b) (t : τ) (access : Access) :
    Inv (b.step (.call t access)) := by
  have callers : ∀ u, ((b.step (.call t access)).channel.callers u) = b.channel.callers u ∨
      ((b.step (.call t access)).channel.callers u).phase = .entered := by
    intro u
    simp only [Bridge.step, Channel.step]
    split
    · by_cases same : u = t
      · exact .inr (by simp [same])
      · exact .inl (by simp [same])
    · exact .inl rfl
  have inbox : (b.step (.call t access)).channel.inbox = b.channel.inbox := by
    simp only [Bridge.step, Channel.step]
    split <;> rfl
  refine ⟨inv.channel.call t access, by rw [inbox]; exact inv.carried, fun u sent => ?_,
    fun u sized => ?_⟩
  · rcases callers u with same | entered
    · rw [same] at sent ⊢
      exact inv.payload u sent
    · simp [entered] at sent
  · rcases callers u with same | entered
    · rw [same] at sized ⊢
      exact inv.sized u sized
    · simp [entered, Phase.sized] at sized

theorem Inv.run {b : Bridge τ} (inv : Inv b) (t : τ) : Inv (b.step (.run t)) := by
  have quiet : (b.channel.callers t).phase = .locked → b.payloads = [] := fun locked => by
    obtain ⟨-, part⟩ := inv.channel.holderPart t (by simp [locked, Phase.holds])
    simp only [HolderInv, locked, Quiet, Channel.wire] at part
    exact List.eq_nil_of_length_eq_zero (by rw [inv.carried, part.1]; rfl)
  refine ⟨inv.channel.advance t, ?_, fun u sent data member => ?_, fun u => ?_⟩
  · simp only [Bridge.step, Channel.advance_inbox]
    split <;> simp [inv.carried]
  · simp only [Bridge.step] at sent member ⊢
    by_cases same : u = t
    · subst same
      obtain ⟨was, payload⟩ := Channel.advance_sent sent
      rw [payload]
      split at member
      · next locked => simpa [quiet locked] using member
      · next notLocked =>
          exact inv.payload u (was.resolve_left notLocked) data member
    · rw [Channel.advance_other _ same] at sent ⊢
      split at member
      · next locked =>
          exact absurd (inv.channel.holder_unique (by simp [sent, Phase.holds])
            (by simp [locked, Phase.holds])) same
      · exact inv.payload u sent data member
  · by_cases same : u = t
    · subst same
      exact Channel.advance_sized (inv.sized u)
    · simp only [Bridge.step, Channel.advance_other _ same]
      exact inv.sized u

theorem Inv.serve {b : Bridge τ} (inv : Inv b) : Inv b.serve := by
  cases inbox : b.channel.inbox with
  | nil => rwa [serve_nil inbox]
  | cons req rest =>
      obtain ⟨t, fields, -, -, single, -, served⟩ := inv.serve_cons inbox
      rw [served]
      refine ⟨inv.channel.answer fields _, ?_, fun _ _ _ => nofun, ?_⟩
      · simp [Channel.answer, single]
      · simpa using inv.sized

theorem Inv.step {b : Bridge τ} (inv : Inv b) : ∀ action, Inv (b.step action)
  | .call t access => inv.call t access
  | .run t => inv.run t
  | .serve => inv.serve
  | .tick elapsed => ⟨inv.channel.tick elapsed, inv.carried, inv.payload, inv.sized⟩

/-! ## Every step is at most one move of `Atomic` -/

theorem toCall_advance_other {s : Channel τ} (inv : Master.Inv s) {t u : τ} (other : u ≠ t) :
    ((s.advance t).callers u).toCall (s.advance t).rspqueue = (s.callers u).toCall s.rspqueue := by
  rw [Channel.advance_other s other]
  by_cases sent : (s.callers u).phase = .sent
  · rcases Channel.advance_rspqueue s t with same | checked
    · rw [same]
    · exact absurd (inv.holder_unique (by simp [sent, Phase.holds])
        (by simp [checked, Phase.holds])) other
  · exact Caller.toCall_of_ne_sent sent _ _

theorem toCall_advance_self {s : Channel τ} (inv : Master.Inv s) (t : τ) :
    ((s.advance t).callers t).toCall (s.advance t).rspqueue =
      if (s.callers t).phase = .synced then .idle else (s.callers t).toCall s.rspqueue := by
  cases phase : (s.callers t).phase
  case locked =>
    obtain ⟨-, part⟩ := inv.holderPart t (by simp [phase, Phase.holds])
    simp only [HolderInv, phase, Quiet, Channel.wire] at part
    simp [Channel.advance, Caller.toCall, phase, RemotePortDynPkt.isValid, part.2.1]
  case received =>
    obtain ⟨-, part⟩ := inv.holderPart t (by simp [phase, Phase.holds])
    simp only [HolderInv, phase] at part
    simp [Channel.advance, Caller.toCall, Caller.result, phase, rpIoIdMatches, part.2.2.2.1]
  all_goals
    simp only [Channel.advance, phase]
    (try split) <;> simp_all [Caller.toCall, Caller.result]

theorem call_refines {b : Bridge τ} (t : τ) (access : Access) :
    (b.step (.call t access)).abstract = b.abstract.exec (b.moves (.call t access)) := by
  simp only [Bridge.step, moves, Channel.step]
  split
  · next idle =>
      have called : b.abstract.calls t = .idle := by simp [abstract, Caller.toCall, idle]
      simp only [Atomic.exec_singleton, Atomic.step, called]
      ext1
      · rfl
      · funext u
        by_cases same : u = t
        · subst same
          simp [abstract, Caller.toCall]
        · simp [abstract, same]
  · rfl

theorem Inv.run_refines {b : Bridge τ} (inv : Inv b) (t : τ) :
    (b.step (.run t)).abstract = b.abstract.exec (b.moves (.run t)) := by
  have self := toCall_advance_self inv.channel t
  simp only [moves]
  split
  · next synced =>
      have returning : b.abstract.calls t =
          .done (b.channel.callers t).access (b.channel.callers t).value := by
        simp [abstract, Caller.toCall, synced]
      simp only [Atomic.exec_singleton, Atomic.step, returning]
      ext1
      · rfl
      · funext u
        by_cases same : u = t
        · subst same
          simpa [abstract, Bridge.step, synced] using self
        · simpa [abstract, Bridge.step, same] using toCall_advance_other inv.channel same
  · next notSynced =>
      ext1
      · rfl
      · funext u
        by_cases same : u = t
        · subst same
          simpa [abstract, Bridge.step, notSynced] using self
        · simpa [abstract, Bridge.step] using toCall_advance_other inv.channel same

theorem Inv.serve_refines {b : Bridge τ} (inv : Inv b) :
    b.serve.abstract = b.abstract.exec (b.moves .serve) := by
  cases inbox : b.channel.inbox with
  | nil => simp [serve_nil inbox, moves, inbox]
  | cons req rest =>
      obtain ⟨t, fields, held, sent, single, invalid, served⟩ := inv.serve_cons inbox
      have pending : b.abstract.calls t = .pending (b.channel.callers t).access := by
        simp [abstract, Caller.toCall, sent, invalid]
      simp only [moves, inbox, held, Atomic.exec_singleton, Atomic.step, pending, served]
      ext1
      · rfl
      · funext u
        by_cases same : u = t
        · subst same
          simp [abstract, Caller.toCall, sent, Channel.answer, single, RemotePortDynPkt.isValid]
        · have notSent : (b.channel.callers u).phase ≠ .sent := fun sentToo =>
            same (inv.channel.holder_unique (by simp [sentToo, Phase.holds])
              (by simp [sent, Phase.holds]))
          simp only [abstract, Function.update_noteq same, Channel.answer_callers]
          exact Caller.toCall_of_ne_sent notSent _ _

theorem Inv.step_refines {b : Bridge τ} (inv : Inv b) :
    ∀ action, (b.step action).abstract = b.abstract.exec (b.moves action)
  | .call t access => call_refines t access
  | .run t => inv.run_refines t
  | .serve => inv.serve_refines
  | .tick _ => rfl

theorem Inv.exec_refines {b : Bridge τ} (inv : Inv b) (actions : List (Action τ)) :
    (b.exec actions).abstract = b.abstract.exec (b.history actions) := by
  induction actions generalizing b with
  | nil => rfl
  | cons action rest induction =>
      rw [history, Atomic.exec_append, ← inv.step_refines action]
      exact induction (inv.step action)

theorem Inv.exec {b : Bridge τ} (inv : Inv b) (actions : List (Action τ)) :
    Inv (b.exec actions) := by
  induction actions generalizing b with
  | nil => exact inv
  | cons action rest induction => exact induction (inv.step action)

end Steps

/-! ## Every call returns -/

def Action.actor : Action τ → Option τ
  | .call t _ | .run t => some t
  | .serve | .tick _ => none

theorem serve_callers (b : Bridge τ) : b.serve.channel.callers = b.channel.callers := by
  unfold serve
  split
  · split <;> simp
  · rfl

theorem Inv.serve_answers {b : Bridge τ} (inv : Inv b) :
    ∃ rsp data, b.serve.channel = b.channel.answer rsp data := by
  cases inbox : b.channel.inbox with
  | nil => exact ⟨default, [], by rw [serve_nil inbox]; simp [Channel.answer, inbox]⟩
  | cons req rest =>
      obtain ⟨t, fields, -, -, -, -, served⟩ := inv.serve_cons inbox
      exact ⟨fields, _, by rw [served]⟩

section Returning

variable [DecidableEq τ]

theorem step_callers (b : Bridge τ) {action : Action τ} {u : τ}
    (notActor : action.actor ≠ some u) :
    (b.step action).channel.callers u = b.channel.callers u := by
  cases action with
  | call t access =>
      show (b.channel.step (.call t access)).callers u = _
      exact b.channel.step_callers fun same => notActor same
  | run t =>
      show (b.channel.step (.run t)).callers u = _
      exact b.channel.step_callers fun same => notActor same
  | serve => exact congrFun b.serve_callers u
  | tick elapsed => rfl

theorem slaveRounds : Rounds Bridge.channel Bridge.step Action.actor .serve Action.run
    (Inv (τ := τ)) :=
  ⟨fun _ inv => inv.channel, fun _ action inv => inv.step action, fun _ _ inv => by
    obtain ⟨rsp, data, answered⟩ := inv.serve_answers
    exact ⟨rsp, data, by rw [← answered]; rfl⟩, fun b _ _ notActor => b.step_callers notActor⟩

end Returning

end Bridge

/-- Any number of callers of `rp_io_read` and `rp_io_write` on the regions of a memory master
whose peer is a memory slave, under any interleaving, see one memory, the slave's, accessed at
the regions' offsets one call at a time. Each call takes effect at the step where the slave
serves its request, which lies between the call and its return; the slave's memory is then the
memory after that access, and the call returns what `rp_io_read` or `rp_io_write` computes
from the bytes the access gives back. A write stopped by `assert(size <= 8)` never takes
effect. -/
theorem rp_io_atomic_over_memory_slave {τ : Type} [DecidableEq τ] (memory : Memory)
    (currentId : UInt32) (vmclk : Int) (actions : List (Bridge.Action τ)) :
    ((Bridge.init memory currentId vmclk : Bridge τ).exec actions).abstract =
      (Atomic.init memory).exec
        ((Bridge.init memory currentId vmclk : Bridge τ).history actions) := by
  rw [← Bridge.abstract_init memory currentId vmclk]
  exact (Bridge.Inv.init memory currentId vmclk).exec_refines actions

/-- With a memory slave as the peer, every call of `rp_io_read` and `rp_io_write` returns. From
any state a run reaches, the slave serving and the callers inside those functions stepping,
with no new call, bring every caller back out of its function, or to the failed
`assert(size <= 8)` of `rp_io_write`, with the mutex free, no request with the slave and the
response slot empty. -/
theorem rp_io_calls_return_over_memory_slave {τ : Type} [DecidableEq τ] (memory : Memory)
    (currentId : UInt32) (vmclk : Int) (actions : List (Bridge.Action τ)) :
    ∃ more : List (Bridge.Action τ),
      (∀ action ∈ more, action = .serve ∨ ∃ t, action = .run t) ∧
      ((Bridge.init memory currentId vmclk : Bridge τ).exec
        (actions ++ more)).channel.Settled :=
  Bridge.slaveRounds.calls_return (Bridge.Inv.init memory currentId vmclk) (fun _ => rfl) actions

end RemotePort
