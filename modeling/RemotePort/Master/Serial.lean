import RemotePort.Master.Channel

/-! # One transaction at a time

`rsp_mutex` is taken before a caller writes its request and released only after it has taken
the response and invalidated the slot. So in every interleaving the transport carries whole
transactions one after another, each response goes to the caller whose request it answers and
to no one else, and the id assertions of `rp_io_read` and `rp_io_write` never fail.

The invariant `Inv` says what the channel holds at each program point of the caller that owns
the mutex; `Inv.step` shows that every scheduling decision keeps it.
-/

namespace RemotePort.Master

open Proto

variable {τ : Type}

/-! ## Transfers and transactions -/

/-- The events on the transport and the hand-overs of the response slot. -/
def Event.isTransfer : Event τ → Bool
  | .request .. | .response .. | .consume .. => true
  | .sync _ | .restart _ => false

/-- What the transport carried, and who took each response. -/
def transfers (trace : List (Event τ)) : List (Event τ) := trace.filter Event.isTransfer

@[simp] theorem transfers_nil : transfers ([] : List (Event τ)) = [] := rfl

@[simp] theorem transfers_append (trace more : List (Event τ)) :
    transfers (trace ++ more) = transfers trace ++ transfers more :=
  List.filter_append _ _

@[simp] theorem transfers_request (t : τ) (id : UInt32) (clk : Int) :
    transfers [.request t id clk] = [.request t id clk] := rfl

@[simp] theorem transfers_response (id : UInt32) (timestamp : UInt64) (data : List UInt8) :
    transfers ([.response id timestamp data] : List (Event τ)) = [.response id timestamp data] :=
  rfl

@[simp] theorem transfers_consume (t : τ) (id : UInt32) (data : List UInt8) :
    transfers [Event.consume t id data] = [.consume t id data] := rfl

@[simp] theorem transfers_sync (t : τ) : transfers [Event.sync t] = [] := rfl

@[simp] theorem transfers_restart (t : τ) : transfers [Event.restart t] = [] := rfl

/-- Whole transactions, one after another: a caller's request, the response with its id, and
the same caller taking that response and its data. -/
inductive Serial : List (Event τ) → Prop
  | nil : Serial []
  | block {done : List (Event τ)} (t : τ) (id : UInt32) (clk : Int) (timestamp : UInt64)
      (data : List UInt8) :
      Serial done →
        Serial (done ++ [.request t id clk, .response id timestamp data, .consume t id data])

/-- Whole transactions, then possibly the beginning of one more: its request, or its request
and the response. -/
def Transcript (events : List (Event τ)) : Prop :=
  ∃ done, Serial done ∧
    (events = done ∨ (∃ t id clk, events = done ++ [.request t id clk]) ∨
      ∃ t id clk timestamp data,
        events = done ++ [.request t id clk, .response id timestamp data])

/-! ## The invariant -/

/-- The program points at which a caller holds `rsp_mutex`. -/
def Phase.holds : Phase → Bool
  | .locked | .sent | .received | .checked | .invalidated => true
  | _ => false

/-- What the invariant reads of the channel besides the callers and the mutex. -/
structure Wire (τ : Type) where
  inbox : List RpPktBusaccess
  rspqueue : RemotePortDynPkt
  transfers : List (Event τ)

def Channel.wire (s : Channel τ) : Wire τ := ⟨s.inbox, s.rspqueue, transfers s.trace⟩

/-- No transaction in flight: the peer has nothing to answer and the slot holds no packet. -/
def Quiet (w : Wire τ) : Prop :=
  w.inbox = [] ∧ w.rspqueue.valid = false ∧ Serial w.transfers

/-- Caller `t`, with locals `c`, waits for its response: the peer still has the request, or the
response is already in the slot. -/
def Awaiting (w : Wire τ) (t : τ) (c : Caller) : Prop :=
  ∃ done, Serial done ∧
    ((w.inbox = [c.request] ∧ w.rspqueue.valid = false ∧
        w.transfers = done ++ [.request t c.id c.clk]) ∨
      (w.inbox = [] ∧ w.rspqueue.valid = true ∧ w.rspqueue.pkt.hdr.id = c.id ∧
        ∃ timestamp, w.transfers =
          done ++ [.request t c.id c.clk, .response c.id timestamp w.rspqueue.data]))

/-- Caller `t`, with locals `c`, took the response to its request, which the slot still holds;
its transaction is the last on the transport. -/
def Taken (w : Wire τ) (t : τ) (c : Caller) : Prop :=
  w.inbox = [] ∧ w.rspqueue.valid = true ∧ c.rsp = w.rspqueue ∧ c.rsp.pkt.hdr.id = c.id ∧
    ∃ done timestamp, Serial done ∧
      w.transfers =
        done ++ [.request t c.id c.clk, .response c.id timestamp c.rsp.data,
          .consume t c.id c.rsp.data]

/-- What the holder's program point says of the wire. -/
def HolderInv (w : Wire τ) (t : τ) (c : Caller) : Prop :=
  match c.phase with
  | .locked | .invalidated => Quiet w
  | .sent => Awaiting w t c
  | .received => Taken w t c
  | .checked => Taken w t c ∧ c.value = c.result
  | _ => False

/-- The wire as the mutex's state says: quiet when it is free, else as its holder says. -/
def Owned (s : Channel τ) : Prop :=
  match s.rspMutex with
  | none => Quiet s.wire
  | some t => HolderInv s.wire t (s.callers t)

/-- The channel's invariant. -/
structure Inv (s : Channel τ) : Prop where
  holder : ∀ t, (s.callers t).phase.holds = true ↔ s.rspMutex = some t
  inOrder : ∀ t, (s.callers t).phase ≠ .outOfOrder
  owned : Owned s

theorem Quiet.transcript {w : Wire τ} (quiet : Quiet w) : Transcript w.transfers :=
  ⟨_, quiet.2.2, .inl rfl⟩

theorem Awaiting.transcript {w : Wire τ} {t : τ} {c : Caller} (awaiting : Awaiting w t c) :
    Transcript w.transfers := by
  obtain ⟨done, serial, ⟨-, -, sent⟩ | ⟨-, -, -, timestamp, answered⟩⟩ := awaiting
  · exact ⟨done, serial, .inr (.inl ⟨t, c.id, c.clk, sent⟩)⟩
  · exact ⟨done, serial, .inr (.inr ⟨t, c.id, c.clk, timestamp, _, answered⟩)⟩

theorem Taken.serial {w : Wire τ} {t : τ} {c : Caller} (taken : Taken w t c) :
    Serial w.transfers := by
  obtain ⟨-, -, -, -, done, timestamp, serial, last⟩ := taken
  rw [last]
  exact serial.block t c.id c.clk timestamp c.rsp.data

theorem Inv.transcript {s : Channel τ} (inv : Inv s) : Transcript (transfers s.trace) := by
  have owned := inv.owned
  unfold Owned at owned
  split at owned
  · exact owned.transcript
  · unfold HolderInv at owned
    split at owned
    all_goals first
      | exact Quiet.transcript owned
      | exact Awaiting.transcript owned
      | exact ⟨_, owned.serial, .inl rfl⟩
      | exact ⟨_, owned.1.serial, .inl rfl⟩
      | exact owned.elim

theorem Inv.init (currentId : UInt32) (vmclk : Int) :
    Inv (Channel.init currentId vmclk : Channel τ) :=
  ⟨fun _ => by simp [Channel.init, Phase.holds], fun _ => nofun, ⟨rfl, rfl, .nil⟩⟩

theorem Inv.holderPart {s : Channel τ} (inv : Inv s) (t : τ)
    (holds : (s.callers t).phase.holds = true) :
    s.rspMutex = some t ∧ HolderInv s.wire t (s.callers t) := by
  have held := (inv.holder t).mp holds
  have owned := inv.owned
  unfold Owned at owned
  rw [held] at owned
  exact ⟨held, owned⟩

theorem Inv.inbox_cons {s : Channel τ} (inv : Inv s) {req : RpPktBusaccess}
    {rest : List RpPktBusaccess} (inbox : s.inbox = req :: rest) :
    ∃ t, s.rspMutex = some t ∧ (s.callers t).phase = .sent ∧ req = (s.callers t).request ∧
      rest = [] ∧ ∃ done, Serial done ∧
        transfers s.trace = done ++ [.request t (s.callers t).id (s.callers t).clk] := by
  have owned := inv.owned
  unfold Owned at owned
  split at owned
  · simp [Quiet, Channel.wire, inbox] at owned
  · next t held =>
      unfold HolderInv at owned
      split at owned
      all_goals try simp [Quiet, Taken, Channel.wire, inbox] at owned
      next phase =>
        obtain ⟨done, serial, ⟨pending, -, sent⟩ | ⟨empty, -⟩⟩ := owned
        · simp only [Channel.wire, inbox, List.cons.injEq] at pending sent
          exact ⟨t, held, phase, pending.1, pending.2, done, serial, sent⟩
        · simp [Channel.wire, inbox] at empty

theorem Inv.holder_unique {s : Channel τ} (inv : Inv s) {t u : τ}
    (first : (s.callers t).phase.holds = true) (second : (s.callers u).phase.holds = true) :
    t = u :=
  Option.some_injective _ (((inv.holder t).mp first).symm.trans ((inv.holder u).mp second))

/-! ## Frame lemmas -/

variable [DecidableEq τ]

theorem Inv.update {s s' : Channel τ} (inv : Inv s) {t : τ} {c : Caller}
    (callers : s'.callers = Function.update s.callers t c)
    (mutexOther : ∀ u, u ≠ t → (s'.rspMutex = some u ↔ s.rspMutex = some u))
    (holds : c.phase.holds = true ↔ s'.rspMutex = some t) (ok : c.phase ≠ .outOfOrder)
    (owned : Owned s') : Inv s' := by
  refine ⟨fun u => ?_, fun u => ?_, owned⟩
  all_goals
    by_cases same : u = t
    · subst same
      simpa [callers] using (by first | exact holds | exact ok)
  · rw [callers, Function.update_noteq same, mutexOther u same]
    exact inv.holder u
  · rw [callers, Function.update_noteq same]
    exact inv.inOrder u

theorem Inv.bystander {s s' : Channel τ} (inv : Inv s) {t : τ} {c : Caller}
    (callers : s'.callers = Function.update s.callers t c) (mutex : s'.rspMutex = s.rspMutex)
    (wire : s'.wire = s.wire) (free : (s.callers t).phase.holds = false)
    (stays : c.phase.holds = false) (ok : c.phase ≠ .outOfOrder) : Inv s' := by
  have notHolder : s.rspMutex ≠ some t := fun held => by
    simp [(inv.holder t).mpr held] at free
  refine inv.update callers (fun u _ => by rw [mutex]) ?_ ok ?_
  · rw [stays, mutex]
    simpa using notHolder
  · have owned := inv.owned
    unfold Owned at owned ⊢
    rw [mutex, wire]
    cases held : s.rspMutex with
    | none => simpa [held] using owned
    | some u =>
        have other : u ≠ t := fun equal => notHolder (equal ▸ held)
        simpa [held, callers, Function.update_noteq other] using owned

theorem Inv.holderStep {s s' : Channel τ} (inv : Inv s) {t : τ} {c : Caller}
    (callers : s'.callers = Function.update s.callers t c) (held : s'.rspMutex = some t)
    (mutex : s.rspMutex = some t) (holds : c.phase.holds = true) (ok : c.phase ≠ .outOfOrder)
    (part : HolderInv s'.wire t c) : Inv s' := by
  refine inv.update callers (fun u _ => by rw [held, mutex]) ?_ ok ?_
  · simp [holds, held]
  · unfold Owned
    simpa [held, callers] using part

/-! ## Every step keeps the invariant -/

theorem Inv.call {s : Channel τ} (inv : Inv s) (t : τ) (access : Access) :
    Inv (s.step (.call t access)) := by
  simp only [Channel.step]
  split
  · next idle => exact inv.bystander rfl rfl rfl (by simp [idle, Phase.holds]) rfl (by simp)
  · exact inv

theorem Inv.tick {s : Channel τ} (inv : Inv s) (elapsed : Nat) :
    Inv (s.step (.tick elapsed)) :=
  ⟨inv.holder, inv.inOrder, inv.owned⟩

theorem Inv.answer {s : Channel τ} (inv : Inv s) (rsp : RpPktBusaccess) (data : List UInt8) :
    Inv (s.step (.answer rsp data)) := by
  simp only [Channel.step, Channel.answer]
  split
  · exact inv
  · next req rest inbox =>
      obtain ⟨t, held, phase, rfl, rfl, done, serial, sent⟩ := inv.inbox_cons inbox
      refine ⟨inv.holder, inv.inOrder, ?_⟩
      unfold Owned HolderInv
      simp only [held, phase]
      refine ⟨done, serial, .inr ⟨rfl, rfl, Caller.request_id _, rsp.timestamp, ?_⟩⟩
      simp [Channel.wire, sent]

theorem Inv.advance {s : Channel τ} (inv : Inv s) (t : τ) : Inv (s.advance t) := by
  unfold Channel.advance
  dsimp only
  split
  · exact inv
  · next phase =>
      split
      all_goals exact inv.bystander rfl rfl rfl (by simp [phase, Phase.holds]) rfl (by simp)
  · next phase =>
      exact inv.bystander rfl rfl rfl (by simp [phase, Phase.holds]) rfl (by simp)
  · split
    · next free =>
        have owned := inv.owned
        unfold Owned at owned
        rw [free] at owned
        refine inv.update rfl (fun u other => by simp [free, Ne.symm other])
          (by simp [Phase.holds]) (by simp) ?_
        unfold Owned HolderInv
        simpa [Channel.setCaller] using owned
    · exact inv
  · next phase =>
      obtain ⟨held, part⟩ := inv.holderPart t (by simp [phase, Phase.holds])
      simp only [HolderInv, phase] at part
      refine inv.holderStep rfl held held rfl (by simp) ?_
      refine ⟨transfers s.trace, part.2.2, .inl ⟨?_, part.2.1, ?_⟩⟩
      · have empty : s.inbox = [] := part.1
        rw [empty]
        rfl
      · simp [Channel.wire]
  · next phase =>
      obtain ⟨held, part⟩ := inv.holderPart t (by simp [phase, Phase.holds])
      simp only [HolderInv, phase] at part
      split
      · next valid =>
          obtain ⟨done, serial, ⟨-, invalid, -⟩ |
            ⟨empty, -, answeredId, timestamp, answered⟩⟩ := part
          · exact absurd ((invalid : s.rspqueue.valid = false).symm.trans valid) Bool.false_ne_true
          · refine inv.holderStep rfl held held rfl (by simp)
              ⟨empty, valid, rfl, answeredId, done, timestamp, serial, ?_⟩
            simp only [Channel.wire] at answered answeredId ⊢
            rw [transfers_append, answered, answeredId, transfers_consume, List.append_assoc]
            rfl
      · exact inv
  · next phase =>
      obtain ⟨held, part⟩ := inv.holderPart t (by simp [phase, Phase.holds])
      simp only [HolderInv, phase] at part
      rw [if_pos (by rw [rpIoIdMatches, Caller.request_id]; exact part.2.2.2.1)]
      exact inv.holderStep rfl held held rfl (by simp) ⟨part, rfl⟩
  · next phase =>
      obtain ⟨held, part⟩ := inv.holderPart t (by simp [phase, Phase.holds])
      simp only [HolderInv, phase] at part
      exact inv.holderStep rfl held held rfl (by simp) ⟨part.1.1, rfl, part.1.serial⟩
  · next phase =>
      obtain ⟨held, part⟩ := inv.holderPart t (by simp [phase, Phase.holds])
      simp only [HolderInv, phase] at part
      refine inv.update rfl (fun u other => ?_) (by simp [Phase.holds]) (by simp) part
      simp [held, Ne.symm other]
  · next phase =>
      exact inv.bystander rfl rfl (by simp [Channel.wire]) (by simp [phase, Phase.holds]) rfl
        (by simp)
  · next phase =>
      exact inv.bystander rfl rfl (by simp [Channel.wire]) (by simp [phase, Phase.holds]) rfl
        (by simp)
  · exact inv
  · exact inv

theorem Inv.step {s : Channel τ} (inv : Inv s) : ∀ action, Inv (s.step action)
  | .call t access => inv.call t access
  | .run t => inv.advance t
  | .answer rsp data => inv.answer rsp data
  | .tick elapsed => inv.tick elapsed

theorem Inv.exec {s : Channel τ} (inv : Inv s) (actions : List (Action τ)) :
    Inv (s.exec actions) := by
  induction actions generalizing s with
  | nil => exact inv
  | cons action rest induction => exact induction (inv.step action)

/-- Any number of callers of `rp_io_read` and `rp_io_write` on one `RemotePort`, under any
interleaving: the transport carries whole transactions one after another, each response is
taken once and only by the caller whose request carried its id, and no caller fails its id
assertion. -/
theorem rp_io_transactions_serialized (currentId : UInt32) (vmclk : Int)
    (actions : List (Action τ)) :
    Transcript (transfers ((Channel.init currentId vmclk : Channel τ).exec actions).trace) ∧
      ∀ t, (((Channel.init currentId vmclk : Channel τ).exec actions).callers t).phase ≠
        .outOfOrder :=
  ⟨((Inv.init currentId vmclk).exec actions).transcript,
    ((Inv.init currentId vmclk).exec actions).inOrder⟩

/-- `rsp_mutex` excludes: in every state a run reaches, at most one caller is between
`rp_rsp_mutex_lock` and `rp_rsp_mutex_unlock`, and the mutex records that caller. -/
theorem rp_rsp_mutex_exclusive (currentId : UInt32) (vmclk : Int) (actions : List (Action τ))
    (t u : τ)
    (first : (((Channel.init currentId vmclk : Channel τ).exec actions).callers t).phase.holds)
    (second : (((Channel.init currentId vmclk : Channel τ).exec actions).callers u).phase.holds) :
    t = u ∧ ((Channel.init currentId vmclk : Channel τ).exec actions).rspMutex = some t :=
  ⟨((Inv.init currentId vmclk).exec actions).holder_unique first second,
    (((Inv.init currentId vmclk).exec actions).holder t).mp first⟩

/-- Caller 0 calls a one-byte read and steps until it waits in `rp_wait_resp`; caller 1 calls a
one-byte write and steps until it blocks on the mutex. -/
def waitingSchedule : List (Action (Fin 2)) :=
  [.call 0 (.read default 0 1), .call 1 (.write default 0 0x42 1), .run 0, .run 0, .run 0,
    .run 1, .run 1, .run 1, .run 0, .run 1]

/-- In `waitingSchedule` caller 1 is blocked on the mutex that caller 0 holds. -/
theorem rp_rsp_mutex_exclusive_waiting :
    (((Channel.init 0 0 : Channel (Fin 2)).exec waitingSchedule).callers 1).phase = .numbered ∧
      (((Channel.init 0 0 : Channel (Fin 2)).exec waitingSchedule).callers 0).phase.holds ∧
      (0 : Fin 2) = 0 ∧
      ((Channel.init 0 0 : Channel (Fin 2)).exec waitingSchedule).rspMutex = some 0 :=
  have waiting :
      (((Channel.init 0 0 : Channel (Fin 2)).exec waitingSchedule).callers 0).phase.holds := by
    decide
  ⟨by decide, waiting, rp_rsp_mutex_exclusive 0 0 waitingSchedule 0 0 waiting waiting⟩

/-- The states runs from a fresh channel reach. -/
def Reachable (s : Channel τ) : Prop :=
  ∃ currentId vmclk actions, s = (Channel.init currentId vmclk : Channel τ).exec actions

/-- A caller that passed its id assertion took the response to its own request, which is the
last transaction on the transport, and what it returns is computed from that response's data. -/
theorem rp_io_result_from_own_response {s : Channel τ} (reachable : Reachable s) (t : τ)
    (checked : (s.callers t).phase = .checked) :
    ∃ done timestamp data, Serial done ∧
      transfers s.trace = done ++ [.request t (s.callers t).id (s.callers t).clk,
        .response (s.callers t).id timestamp data, .consume t (s.callers t).id data] ∧
      (s.callers t).value = (s.callers t).access.result data := by
  obtain ⟨currentId, vmclk, actions, rfl⟩ := reachable
  obtain ⟨-, part⟩ := ((Inv.init currentId vmclk).exec actions).holderPart t
    (by simp [checked, Phase.holds])
  simp only [HolderInv, checked] at part
  obtain ⟨⟨-, -, -, -, done, timestamp, serial, last⟩, value⟩ := part
  exact ⟨done, timestamp, _, serial, last, value⟩

/-- Caller 0 reads one byte while caller 1, calling a write, is blocked on the mutex; the peer
answers the read with `0x42`, and caller 0 passes its id assertion. -/
def readSchedule : List (Action (Fin 2)) :=
  [.call 0 (.read default 0 1), .call 1 (.write default 0 0x42 1), .run 0, .run 0, .run 0,
    .run 1, .run 1, .run 1, .run 0, .answer default [0x42], .run 0, .run 0]

/-- The read of `readSchedule` took the response to its own request, not caller 1's, and
returns `0x42`. -/
theorem rp_io_result_from_own_response_read :
    (((Channel.init 0 0 : Channel (Fin 2)).exec readSchedule).callers 1).phase = .numbered ∧
    ∃ done timestamp data, Serial done ∧
      transfers ((Channel.init 0 0 : Channel (Fin 2)).exec readSchedule).trace =
        done ++ [.request 0 (((Channel.init 0 0 : Channel (Fin 2)).exec readSchedule).callers 0).id
            (((Channel.init 0 0 : Channel (Fin 2)).exec readSchedule).callers 0).clk,
          .response (((Channel.init 0 0 : Channel (Fin 2)).exec readSchedule).callers 0).id
            timestamp data,
          .consume 0 (((Channel.init 0 0 : Channel (Fin 2)).exec readSchedule).callers 0).id
            data] ∧
      (((Channel.init 0 0 : Channel (Fin 2)).exec readSchedule).callers 0).value =
        (((Channel.init 0 0 : Channel (Fin 2)).exec readSchedule).callers 0).access.result data :=
  ⟨by decide, rp_io_result_from_own_response ⟨0, 0, readSchedule, rfl⟩ 0 (by decide)⟩

end RemotePort.Master
