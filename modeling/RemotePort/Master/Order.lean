import RemotePort.Master.Serial

/-! # What the response mutex orders

`rp_io_read` and `rp_io_write` call `rp_normalized_vmclk` and `rp_new_id` before
`rp_rsp_mutex_lock`, and `rp_sync_vmclock` and `rp_restart_sync_timer` after
`rp_rsp_mutex_unlock`. The mutex therefore orders the transactions on the transport, but not the
ids, the request timestamps or the clock reconciliations: a caller that sampled its clock and
took its id first can reach the transport second, and the first to reach it can reconcile last.
-/

namespace RemotePort.Master

open Proto

variable {τ : Type}

/-! ## Transactions on the transport -/

theorem Serial.after_request {events : List (Event τ)} (serial : Serial events) :
    ∀ {pre rest : List (Event τ)} {t : τ} {id : UInt32} {clk : Int},
      events = pre ++ .request t id clk :: rest →
        ∃ timestamp data tail,
          rest = .response id timestamp data :: .consume t id data :: tail := by
  induction serial with
  | nil => intro pre rest t id clk split; cases pre <;> simp at split
  | block t' id' clk' timestamp data _ induction =>
      intro pre rest t id clk split
      rcases List.append_eq_append_iff.mp split with
        ⟨middle, rfl, block⟩ | ⟨middle, rfl, block⟩
      · rcases middle with
          _ | ⟨first, _ | ⟨second, _ | ⟨third, _ | ⟨fourth, middle⟩⟩⟩⟩ <;>
          simp at block
        obtain ⟨⟨rfl, rfl, rfl⟩, rfl⟩ := block
        exact ⟨timestamp, _, [], rfl⟩
      · rcases middle with _ | ⟨first, middle⟩
        · simp only [List.nil_append, List.cons.injEq, Event.request.injEq] at block
          obtain ⟨⟨rfl, rfl, rfl⟩, rfl⟩ := block
          exact ⟨timestamp, _, [], rfl⟩
        · simp only [List.cons_append, List.cons.injEq] at block
          obtain ⟨rfl, rfl⟩ := block
          obtain ⟨answer, data, tail, rfl⟩ := induction rfl
          exact ⟨answer, data, tail ++ _, rfl⟩

theorem Transcript.extends_serial {events : List (Event τ)} (transcript : Transcript events) :
    ∃ more, Serial (events ++ more) := by
  obtain ⟨done, serial, rfl | ⟨t, id, clk, rfl⟩ | ⟨t, id, clk, timestamp, data, rfl⟩⟩ :=
    transcript
  · exact ⟨[], by simpa using serial⟩
  · exact ⟨[.response id 0 [], .consume t id []], by simpa using serial.block t id clk 0 []⟩
  · exact ⟨[.consume t id data], by simpa using serial.block t id clk timestamp data⟩

/-- When a caller's request precedes another request in a transcript, its response and its
taking of that response come right after it, before the other request. -/
theorem Transcript.request_answered {events : List (Event τ)} (transcript : Transcript events)
    {pre mid post : List (Event τ)} {t u : τ} {id id' : UInt32} {clk clk' : Int}
    (order : events = pre ++ .request t id clk :: (mid ++ .request u id' clk' :: post)) :
    ∃ timestamp data rest, mid = .response id timestamp data :: .consume t id data :: rest := by
  obtain ⟨more, serial⟩ := transcript.extends_serial
  obtain ⟨timestamp, data, tail, after⟩ :=
    serial.after_request (by rw [order, List.append_assoc, List.cons_append, List.append_assoc])
  rcases mid with _ | ⟨first, _ | ⟨second, rest⟩⟩ <;> simp at after
  obtain ⟨rfl, rfl, -⟩ := after
  exact ⟨timestamp, data, rest, rfl⟩

variable [DecidableEq τ]

/-- The mutex orders whole transactions: whenever caller `t`'s request reaches the transport
before caller `u`'s, the response to `t`'s request follows it and `t` takes that response and
its data before `u`'s request is written. -/
theorem rp_io_request_follows_previous_transaction (currentId : UInt32) (vmclk : Int)
    (actions : List (Action τ)) {pre mid post : List (Event τ)} {t u : τ} {id id' : UInt32}
    {clk clk' : Int}
    (order : transfers ((Channel.init currentId vmclk : Channel τ).exec actions).trace =
      pre ++ .request t id clk :: (mid ++ .request u id' clk' :: post)) :
    ∃ timestamp data rest, mid = .response id timestamp data :: .consume t id data :: rest :=
  ((Inv.init currentId vmclk).exec actions).transcript.request_answered order

/-! ## Ids, timestamps and reconciliations -/

/-- The order of ids, request timestamps and clock reconciliations that holding the mutex
around them would give: when caller `t`'s request precedes caller `u`'s, `t`'s id and clock
are below `u`'s, and `t` runs `rp_sync_vmclock` and `rp_restart_sync_timer` before `u` does. -/
def RequestOrder (trace : List (Event τ)) : Prop :=
  ∀ pre mid post t u id id' clk clk', t ≠ u →
    trace = pre ++ .request t id clk :: (mid ++ .request u id' clk' :: post) →
      id < id' ∧ clk ≤ clk' ∧
        (∀ front back, mid ++ .request u id' clk' :: post = front ++ .sync u :: back →
          .sync t ∈ front) ∧
        (∀ front back, mid ++ .request u id' clk' :: post = front ++ .restart u :: back →
          .restart t ∈ front)

/-- Two reads: caller 0 takes its clock and id, time passes, caller 1 takes its clock and id,
wins the mutex and completes its transaction; then caller 0 completes its own and reconciles
before caller 1 does. -/
def orderSchedule : List (Action (Fin 2)) :=
  [.call 0 (.read default 0x1000 4), .call 1 (.read default 0x2000 4), .run 0, .run 0,
    .tick 5, .run 1, .run 1, .run 1, .run 1, .answer default [], .run 1, .run 1, .run 1, .run 1,
    .run 0, .run 0, .answer default [], .run 0, .run 0, .run 0, .run 0, .run 0, .run 0,
    .run 1, .run 1]

/-- Caller 1's request reaches the transport first with id 1 and clock 5; caller 0's follows
with id 0 and clock 0, and caller 0 reconciles and restarts the sync timer first. -/
theorem rp_io_request_order_fails :
    ((Channel.init 0 0 : Channel (Fin 2)).exec orderSchedule).trace =
        [.request 1 1 5, .response 1 0 [], .consume 1 1 [], .request 0 0 0, .response 0 0 [],
          .consume 0 0 [], .sync 0, .restart 0, .sync 1, .restart 1] ∧
      ¬ RequestOrder ((Channel.init 0 0 : Channel (Fin 2)).exec orderSchedule).trace := by
  refine ⟨by decide, fun order => ?_⟩
  have first := order [] [.response 1 0 [], .consume 1 1 []]
    [.response 0 0 [], .consume 0 0 [], .sync 0, .restart 0, .sync 1, .restart 1] 1 0 1 0 5 0
    (by decide) (by decide)
  exact absurd first.1 (by decide)

/-- The transcript of `orderSchedule` puts caller 1's whole transaction before caller 0's
request. -/
theorem rp_io_request_follows_previous_transaction_schedule :
    transfers ((Channel.init 0 0 : Channel (Fin 2)).exec orderSchedule).trace =
        [] ++ .request 1 1 5 :: ([.response 1 0 [], .consume 1 1 []] ++
          .request 0 0 0 :: [.response 0 0 [], .consume 0 0 []]) ∧
      ∃ timestamp data rest, ([.response 1 0 [], .consume 1 1 []] : List (Event (Fin 2))) =
        .response 1 timestamp data :: .consume 1 1 data :: rest :=
  have schedule : transfers ((Channel.init 0 0 : Channel (Fin 2)).exec orderSchedule).trace =
      [] ++ .request 1 1 5 :: ([.response 1 0 [], .consume 1 1 []] ++
        .request 0 0 0 :: [.response 0 0 [], .consume 0 0 []]) := by
    decide
  ⟨schedule, rp_io_request_follows_previous_transaction 0 0 orderSchedule schedule⟩

end RemotePort.Master
