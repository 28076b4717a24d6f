import RemotePort.Master.Channel
import RemotePort.Memory

/-! # One memory, one call at a time

What a memory master is for: its regions are windows onto the peer's memory. A call of
`rp_io_read` or `rp_io_write` on a region reads or writes that memory at the region's offset,
and every call takes effect at once, at a single moment between its call and its return.

`Atomic` is that machine: the memory and, for each caller, its call as seen from outside. The
bridge module shows that callers of a master whose peer is a memory slave behave as it does.
-/

namespace RemotePort

open Master

/-- The access of the peer's memory a call on a region stands for: at the call's address moved
by the region's offset, as the request's `uint64_t` sum carries it. A write stores the `size`
low bytes of its value, least significant first. -/
def Master.Access.op : Access → Memory.Op
  | .read map addr size => .load (addr + map.offset) size.toNat
  | .write map addr value size =>
      .store (addr + map.offset) ((rpIoWriteData value).take size.toNat)

namespace Atomic

/-- A call seen from outside: none, one that has not taken effect yet, or one that has, with
what it returns. -/
inductive Call where
  | idle
  | pending (access : Access)
  | done (access : Access) (result : Option UInt64)
  deriving DecidableEq, Repr

/-- What can happen: a caller calls, its call takes effect, or it returns. -/
inductive Move (τ : Type) where
  | call (caller : τ) (access : Access)
  | effect (caller : τ)
  | finish (caller : τ)
  deriving DecidableEq, Repr

end Atomic

/-- The memory and the callers' calls. -/
@[ext] structure Atomic (τ : Type) where
  memory : Memory
  calls : τ → Atomic.Call

namespace Atomic

variable {τ : Type} [DecidableEq τ]

def init (memory : Memory) : Atomic τ := ⟨memory, fun _ => .idle⟩

/-- A call takes effect in one move: the memory runs its access, and the call returns what
`rp_io_read` or `rp_io_write` computes from the bytes the access gives back. -/
def step (a : Atomic τ) : Move τ → Atomic τ
  | .call t access =>
      match a.calls t with
      | .idle => { a with calls := Function.update a.calls t (.pending access) }
      | _ => a
  | .effect t =>
      match a.calls t with
      | .pending access =>
          { memory := (access.op.run a.memory).1
            calls := Function.update a.calls t
              (.done access (access.result (access.op.run a.memory).2)) }
      | _ => a
  | .finish t =>
      match a.calls t with
      | .done .. => { a with calls := Function.update a.calls t .idle }
      | _ => a

def exec (a : Atomic τ) (moves : List (Move τ)) : Atomic τ := moves.foldl step a

@[simp] theorem exec_nil (a : Atomic τ) : a.exec [] = a := rfl

@[simp] theorem exec_singleton (a : Atomic τ) (move : Move τ) : a.exec [move] = a.step move :=
  rfl

theorem exec_append (a : Atomic τ) (moves more : List (Move τ)) :
    a.exec (moves ++ more) = (a.exec moves).exec more :=
  List.foldl_append _ _ _ _

end Atomic

end RemotePort
