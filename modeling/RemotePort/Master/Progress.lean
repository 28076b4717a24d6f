import RemotePort.Master.Serial

/-! # Every call can return

Neither `rsp_mutex` nor the response slot can wedge the callers. From any state a run reaches,
if the peer answers what it has received and the callers inside `rp_io_read` and `rp_io_write`
are scheduled, each of them returns, or stops at the `size <= 8` assertion of `rp_io_write`,
with no further call: the mutex is then free, the peer has nothing left to answer and the slot
is empty.

A caller's rank `Phase.remaining` counts the steps it has left. One round in which the peer
answers and the caller steps lowers the rank while the mutex is free or held by that caller,
so the holder is finished first and then every other caller in turn. The argument is made once,
for any system built on the channel whose rounds have that shape (`Rounds`): the channel on its
own here, and a master whose peer is a memory slave in the bridge module.
-/

namespace RemotePort.Master

open Proto

variable {τ : Type}

def Action.actor : Action τ → Option τ
  | .call t _ | .run t => some t
  | .answer .. | .tick _ => none

/-- How many of its own steps a caller at this phase is from returning. It is 0 exactly where
`Channel.advance` leaves the caller where it is for good. -/
def Phase.remaining : Phase → Nat
  | .entered => 10
  | .sampled => 9
  | .numbered => 8
  | .locked => 7
  | .sent => 6
  | .received => 5
  | .checked => 4
  | .invalidated => 3
  | .unlocked => 2
  | .synced => 1
  | .idle | .oversized | .outOfOrder => 0

theorem Phase.remaining_le_ten (p : Phase) : p.remaining ≤ 10 := by
  cases p <;> decide

theorem Phase.remaining_eq_zero {p : Phase} :
    p.remaining = 0 ↔ p = .idle ∨ p = .oversized ∨ p = .outOfOrder := by
  cases p <;> decide

theorem Phase.holds_of_remaining_eq_zero {p : Phase} (done : p.remaining = 0) :
    p.holds = false := by
  rcases Phase.remaining_eq_zero.mp done with rfl | rfl | rfl <;> rfl

/-- Every caller has returned or stopped at `assert(size <= 8)`, the mutex is free and no
transaction is in flight. -/
def Channel.Settled (s : Channel τ) : Prop :=
  (∀ t, (s.callers t).phase = .idle ∨ (s.callers t).phase = .oversized) ∧
    s.rspMutex = none ∧ Quiet s.wire

namespace Channel

@[simp] theorem answer_callers (s : Channel τ) (rsp : RpPktBusaccess) (data : List UInt8) :
    (s.answer rsp data).callers = s.callers := by
  unfold answer
  split <;> rfl

@[simp] theorem answer_rspMutex (s : Channel τ) (rsp : RpPktBusaccess) (data : List UInt8) :
    (s.answer rsp data).rspMutex = s.rspMutex := by
  unfold answer
  split <;> rfl

end Channel

theorem Inv.rspMutex_eq_none {s : Channel τ} (inv : Inv s) {t : τ}
    (free : ∀ u ∈ s.rspMutex, u = t) (notHeld : (s.callers t).phase.holds = false) :
    s.rspMutex = none := by
  cases held : s.rspMutex with
  | none => rfl
  | some u =>
      obtain rfl := free u held
      simp [(inv.holder u).mpr held] at notHeld

theorem Inv.answer_valid {s : Channel τ} (inv : Inv s) {t : τ}
    (sent : (s.callers t).phase = .sent) (rsp : RpPktBusaccess) (data : List UInt8) :
    (s.answer rsp data).rspqueue.isValid = true := by
  obtain ⟨-, part⟩ := inv.holderPart t (by simp [sent, Phase.holds])
  simp only [HolderInv, sent] at part
  obtain ⟨-, -, ⟨pending, -⟩ | ⟨empty, valid, -⟩⟩ := part
  · simp only [Channel.wire] at pending
    simp only [Channel.answer, pending, RemotePortDynPkt.isValid]
  · simp only [Channel.wire] at empty valid
    simpa only [Channel.answer, empty, RemotePortDynPkt.isValid] using valid

theorem Inv.settled {s : Channel τ} (inv : Inv s) (unlocked : s.rspMutex = none)
    (finished : ∀ t, (s.callers t).phase.remaining = 0) : s.Settled := by
  refine ⟨fun t => ?_, unlocked, ?_⟩
  · rcases Phase.remaining_eq_zero.mp (finished t) with idle | oversized | outOfOrder
    · exact .inl idle
    · exact .inr oversized
    · exact absurd outOfOrder (inv.inOrder t)
  · have owned := inv.owned
    unfold Owned at owned
    rwa [unlocked] at owned

/-! ## Schedules of rounds -/

section Schedules

variable {α : Type}

def rounds (peer : α) (run : τ → α) (t : τ) : Nat → List α
  | 0 => []
  | n + 1 => peer :: run t :: rounds peer run t n

def completion (peer : α) (run : τ → α) (order : List τ) : List α :=
  order.flatMap fun t => rounds peer run t 10

theorem completion_cons (peer : α) (run : τ → α) (t : τ) (order : List τ) :
    completion peer run (t :: order) = rounds peer run t 10 ++ completion peer run order :=
  List.flatMap_cons _ _ _

theorem mem_rounds {peer : α} {run : τ → α} {t : τ} {n : Nat} {action : α}
    (member : action ∈ rounds peer run t n) : action = peer ∨ action = run t := by
  induction n with
  | zero => simp [rounds] at member
  | succ n induction =>
      simp only [rounds, List.mem_cons] at member
      rcases member with first | second | later
      exacts [.inl first, .inr second, induction later]

theorem mem_completion {peer : α} {run : τ → α} {order : List τ} {action : α}
    (member : action ∈ completion peer run order) : action = peer ∨ ∃ t, action = run t := by
  obtain ⟨t, -, member⟩ := List.mem_flatMap.mp member
  exact (mem_rounds member).imp_right fun run => ⟨t, run⟩

end Schedules

variable [DecidableEq τ]

namespace Channel

theorem advance_other (s : Channel τ) {t u : τ} (other : u ≠ t) :
    (s.advance t).callers u = s.callers u := by
  unfold advance
  dsimp only
  split <;> (try split) <;> simp [other]

theorem advance_rspMutex (s : Channel τ) (t : τ) (free : ∀ u ∈ s.rspMutex, u = t) :
    ∀ u ∈ (s.advance t).rspMutex, u = t := by
  unfold advance
  dsimp only
  split <;> (try split) <;> simp <;> exact free

theorem advance_remaining (s : Channel τ) (t : τ)
    (unblocked : (s.callers t).phase = .numbered → s.rspMutex = none)
    (answered : (s.callers t).phase = .sent → s.rspqueue.isValid = true) :
    ((s.advance t).callers t).phase.remaining ≤ (s.callers t).phase.remaining - 1 := by
  unfold advance
  dsimp only
  split <;> (try split) <;> simp_all [Phase.remaining]

theorem step_callers (s : Channel τ) {action : Action τ} {u : τ}
    (notActor : action.actor ≠ some u) : (s.step action).callers u = s.callers u := by
  cases action with
  | call t access =>
      have other : u ≠ t := fun same => notActor (by rw [same]; rfl)
      simp only [step]
      split <;> simp [other]
  | run t => exact s.advance_other fun same => notActor (by rw [same]; rfl)
  | answer rsp data => simp [step]
  | tick elapsed => rfl

end Channel

open Channel

/-- One round lowers the rank of `t` while the mutex is free or held by `t`, whatever the peer
answers. -/
theorem Inv.round_remaining {s : Channel τ} (inv : Inv s) {t : τ}
    (free : ∀ u ∈ s.rspMutex, u = t) (rsp : RpPktBusaccess) (data : List UInt8) :
    (((s.answer rsp data).advance t).callers t).phase.remaining ≤
      (s.callers t).phase.remaining - 1 := by
  have unblocked : (s.callers t).phase = .numbered → s.rspMutex = none := fun numbered =>
    inv.rspMutex_eq_none free (by simp [numbered, Phase.holds])
  simpa using advance_remaining (s.answer rsp data) t (by simpa using unblocked)
    (fun sent => inv.answer_valid (by simpa using sent) rsp data)

/-! ## Rounds of a system built on the channel

The argument holds for any system whose state carries a channel, run by scheduling decisions,
in which a round for caller `t` is the peer answering, with whatever response, and then `t`
stepping: the channel alone, and a master whose peer is a memory slave. -/

section Rounds

variable {σ α : Type}

/-- A system built on the channel, run by scheduling decisions: `channel` reads the channel off
a state, `step` takes a decision, `actor` names the caller a decision moves, and in a round for
caller `t` the peer answers (`peer`) and then `t` steps (`run t`). `Good` is the system's
invariant; it includes the channel's. -/
structure Rounds (channel : σ → Channel τ) (step : σ → α → σ) (actor : α → Option τ)
    (peer : α) (run : τ → α) (Good : σ → Prop) : Prop where
  inv : ∀ x, Good x → Inv (channel x)
  good : ∀ x action, Good x → Good (step x action)
  answers : ∀ x t, Good x →
    ∃ rsp data, channel (step (step x peer) (run t)) = ((channel x).answer rsp data).advance t
  others : ∀ x action u, actor action ≠ some u →
    (channel (step x action)).callers u = (channel x).callers u

variable {channel : σ → Channel τ} {step : σ → α → σ} {actor : α → Option τ} {peer : α}
  {run : τ → α} {Good : σ → Prop}

theorem Rounds.run_good (system : Rounds channel step actor peer run Good) {x : σ}
    (good : Good x) (actions : List α) : Good (actions.foldl step x) := by
  induction actions generalizing x with
  | nil => exact good
  | cons action rest induction => exact induction (system.good x action good)

theorem Rounds.run_callers (system : Rounds channel step actor peer run Good) (x : σ)
    {actions : List α} {u : τ} (absent : ∀ action ∈ actions, actor action ≠ some u) :
    (channel (actions.foldl step x)).callers u = (channel x).callers u := by
  induction actions generalizing x with
  | nil => rfl
  | cons action rest induction =>
      rw [List.foldl_cons, induction _ fun a member => absent a (.tail _ member),
        system.others x action u (absent action (.head _))]

theorem Rounds.iterate (system : Rounds channel step actor peer run Good) {x : σ} (good : Good x)
    {t : τ} (free : ∀ u ∈ (channel x).rspMutex, u = t) (n : Nat) :
    (∀ u ∈ (channel ((rounds peer run t n).foldl step x)).rspMutex, u = t) ∧
      ((channel ((rounds peer run t n).foldl step x)).callers t).phase.remaining ≤
        ((channel x).callers t).phase.remaining - n ∧
      ∀ u, u ≠ t →
        (channel ((rounds peer run t n).foldl step x)).callers u = (channel x).callers u := by
  induction n generalizing x with
  | zero => exact ⟨free, by simp [rounds], fun _ _ => rfl⟩
  | succ n induction =>
      obtain ⟨rsp, data, answered⟩ := system.answers x t good
      have stillFree : ∀ u ∈ (channel (step (step x peer) (run t))).rspMutex, u = t := by
        rw [answered]
        exact advance_rspMutex _ t (by simpa using free)
      obtain ⟨free', remaining, others⟩ :=
        induction (system.good _ _ (system.good x peer good)) stillFree
      have lowered := (system.inv x good).round_remaining free rsp data
      rw [answered] at remaining
      simp only [rounds, List.foldl_cons]
      refine ⟨free', by omega, fun u other => ?_⟩
      rw [others u other, answered, advance_other _ other, answer_callers]

theorem Rounds.finish (system : Rounds channel step actor peer run Good) {x : σ} (good : Good x)
    {t : τ} (free : ∀ u ∈ (channel x).rspMutex, u = t) :
    (channel ((rounds peer run t 10).foldl step x)).rspMutex = none ∧
      ∀ u, u = t ∨ ((channel x).callers u).phase.remaining = 0 →
        ((channel ((rounds peer run t 10).foldl step x)).callers u).phase.remaining = 0 := by
  obtain ⟨free', remaining, others⟩ := system.iterate good free 10
  have done : ((channel ((rounds peer run t 10).foldl step x)).callers t).phase.remaining = 0 := by
    have := ((channel x).callers t).phase.remaining_le_ten
    omega
  refine ⟨(system.inv _ (system.run_good good _)).rspMutex_eq_none free'
    (Phase.holds_of_remaining_eq_zero done), ?_⟩
  rintro u (rfl | finished)
  · exact done
  · by_cases same : u = t
    · subst same
      exact done
    · rw [others u same, finished]

theorem Rounds.finishAll (system : Rounds channel step actor peer run Good) {x : σ}
    (good : Good x) (ts : List τ) (free : ∀ u ∈ (channel x).rspMutex, ts.head? = some u) :
    (channel ((completion peer run ts).foldl step x)).rspMutex = none ∧
      ∀ u, u ∈ ts ∨ ((channel x).callers u).phase.remaining = 0 →
        ((channel ((completion peer run ts).foldl step x)).callers u).phase.remaining = 0 := by
  induction ts generalizing x with
  | nil =>
      refine ⟨?_, by simp [completion]⟩
      cases held : (channel x).rspMutex with
      | none => simpa [completion] using held
      | some u => exact absurd (free u held) nofun
  | cons t rest induction =>
      obtain ⟨unlocked, finished⟩ :=
        system.finish good fun u held => Option.some_injective _ (free u held).symm
      obtain ⟨unlocked', finished'⟩ := induction (system.run_good good _) fun u held => by
        rw [Option.mem_def, unlocked] at held
        cases held
      rw [completion_cons, List.foldl_append]
      refine ⟨unlocked', ?_⟩
      rintro u (member | done)
      · rcases List.mem_cons.mp member with rfl | later
        · exact finished' u (.inr (finished u (.inl rfl)))
        · exact finished' u (.inl later)
      · exact finished' u (.inr (finished u (.inr done)))

theorem Rounds.settled (system : Rounds channel step actor peer run Good) {x : σ}
    (good : Good x) (ts : List τ)
    (outside : ∀ u, u ∉ ts → ((channel x).callers u).phase.remaining = 0) :
    (channel ((completion peer run ((channel x).rspMutex.toList ++ ts)).foldl step x)).Settled := by
  obtain ⟨unlocked, finished⟩ := system.finishAll good ((channel x).rspMutex.toList ++ ts)
    (fun u held => by rw [Option.mem_def.mp held]; rfl)
  refine (system.inv _ (system.run_good good _)).settled unlocked fun u => finished u ?_
  by_cases member : u ∈ ts
  · exact .inl (List.mem_append_right _ member)
  · exact .inr (outside u member)

/-- From a good state with every caller outside both functions, whatever decisions a run takes,
ten rounds for the holder of the mutex and for each caller the run moved settle the channel. -/
theorem Rounds.calls_return (system : Rounds channel step actor peer run Good) {x : σ}
    (good : Good x) (idle : ∀ u, ((channel x).callers u).phase = .idle) (actions : List α) :
    ∃ more : List α, (∀ action ∈ more, action = peer ∨ ∃ t, action = run t) ∧
      (channel ((actions ++ more).foldl step x)).Settled := by
  refine ⟨completion peer run ((channel (actions.foldl step x)).rspMutex.toList ++
    actions.filterMap actor), fun action member => mem_completion member, ?_⟩
  rw [List.foldl_append]
  refine system.settled (system.run_good good actions) _ fun u absent => ?_
  rw [system.run_callers x fun action member moved =>
    absent (List.mem_filterMap.mpr ⟨action, member, moved⟩), idle u]
  rfl

end Rounds

/-! ## The channel on its own -/

theorem Inv.channelRounds :
    Rounds id Channel.step Action.actor (.answer default []) Action.run (Inv (τ := τ)) :=
  ⟨fun _ inv => inv, fun _ action inv => inv.step action, fun _ _ _ => ⟨default, [], rfl⟩,
    fun s _ _ notActor => s.step_callers notActor⟩

/-- From any state a run reaches, rounds of "the peer answers, a caller steps" with no new
call bring every caller of `rp_io_read` and `rp_io_write` back out of its function, or to the
failed `assert(size <= 8)` of `rp_io_write`, and leave the mutex free, the peer with nothing to
answer, the slot empty and whole transactions on the transport. Neither the mutex nor
`rp_wait_resp` can deadlock the callers. -/
theorem rp_io_calls_return (currentId : UInt32) (vmclk : Int) (actions : List (Action τ)) :
    ∃ more : List (Action τ),
      (∀ action ∈ more,
        (∃ t, action = .run t) ∨ ∃ rsp data, action = .answer rsp data) ∧
      ((Channel.init currentId vmclk : Channel τ).exec (actions ++ more)).Settled := by
  obtain ⟨more, only, settled⟩ :=
    Inv.channelRounds.calls_return (Inv.init currentId vmclk) (fun _ => rfl) actions
  refine ⟨more, fun action member => ?_, settled⟩
  rcases only action member with answer | ⟨t, run⟩
  · exact .inr ⟨_, _, answer⟩
  · exact .inl ⟨t, run⟩

end RemotePort.Master
