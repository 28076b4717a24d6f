import Mathlib.Logic.Function.Basic
import Mathlib.Data.List.Basic
import Mathlib.Algebra.Group.Int
import Mathlib.Algebra.Group.Nat.Basic

/-! # Byte-addressed memory

The memory a remote-port memory slave stands for: a byte at every address, stores of runs of
bytes and loads of runs of bytes, one after another. Addresses are QEMU's `hwaddr`, a
`uint64_t`, so a run that passes the last address goes on at address 0.
-/

namespace RemotePort

/-- A byte at every address. -/
abbrev Memory := UInt64 → UInt8

namespace Memory

/-- Store `bytes` from `addr` on. -/
def store (memory : Memory) (addr : UInt64) : List UInt8 → Memory
  | [] => memory
  | byte :: rest => store (Function.update memory addr byte) (addr + 1) rest

/-- The `len` bytes from `addr` on. -/
def load (memory : Memory) (addr : UInt64) (len : Nat) : List UInt8 :=
  (List.range len).map fun offset => memory (addr + UInt64.ofNat offset)

private theorem toNat_sub_self (addr : UInt64) : (addr - addr).toNat = 0 := by
  simp only [UInt64.toNat, UInt64.sub_def, BitVec.toNat_sub]
  omega

private theorem toNat_self_sub_add_one (addr : UInt64) :
    (addr - (addr + 1)).toNat = 2 ^ 64 - 1 := by
  have addrBound : addr.toNat < 2 ^ 64 := addr.toNat_lt_size
  simp only [UInt64.toNat, UInt64.sub_def, UInt64.add_def, BitVec.toNat_sub,
    BitVec.toNat_add] at *
  simp
  omega

private theorem toNat_sub_add_one {at_ addr : UInt64} (other : at_ ≠ addr) :
    (at_ - addr).toNat = (at_ - (addr + 1)).toNat + 1 := by
  have differ : at_.toNat ≠ addr.toNat := fun same => other (UInt64.toNat.inj same)
  have atBound : at_.toNat < 2 ^ 64 := at_.toNat_lt_size
  have addrBound : addr.toNat < 2 ^ 64 := addr.toNat_lt_size
  simp only [UInt64.toNat, UInt64.sub_def, UInt64.add_def, BitVec.toNat_sub,
    BitVec.toNat_add] at *
  simp
  omega

theorem toNat_add_ofNat_sub (addr : UInt64) {offset : Nat} (small : offset < 2 ^ 64) :
    (addr + UInt64.ofNat offset - addr).toNat = offset := by
  have addrBound : addr.toNat < 2 ^ 64 := addr.toNat_lt_size
  have offsetNat : (UInt64.ofNat offset).toNat = offset := UInt64.toNat_ofNat_of_lt small
  simp only [UInt64.toNat, UInt64.sub_def, UInt64.add_def, BitVec.toNat_sub,
    BitVec.toNat_add] at *
  omega

/-- A store of at most `2 ^ 64` bytes changes exactly the bytes it covers: the byte `k` places
past `addr`, counted on from address 0 past the last address, is the store's byte `k`. -/
theorem store_apply (memory : Memory) (addr : UInt64) (bytes : List UInt8) (at_ : UInt64)
    (fits : bytes.length ≤ 2 ^ 64) :
    memory.store addr bytes at_ =
      if (at_ - addr).toNat < bytes.length then bytes.getD (at_ - addr).toNat 0
      else memory at_ := by
  induction bytes generalizing memory addr with
  | nil => rw [store, if_neg (by simp)]
  | cons byte rest induction =>
      rw [List.length_cons] at fits
      rw [store, induction _ _ (by omega)]
      by_cases same : at_ = addr
      · subst same
        rw [toNat_self_sub_add_one, if_neg (by omega), toNat_sub_self, if_pos (by simp)]
        simp
      · rw [toNat_sub_add_one same, Function.update_noteq same]
        simp

theorem load_length (memory : Memory) (addr : UInt64) (len : Nat) :
    (memory.load addr len).length = len := by
  simp [load]

theorem load_store (memory : Memory) (addr : UInt64) (bytes : List UInt8)
    (fits : bytes.length ≤ 2 ^ 64) : (memory.store addr bytes).load addr bytes.length = bytes := by
  apply List.ext_getElem (load_length _ _ _)
  intro offset within _
  rw [load_length] at within
  simp only [load, List.getElem_map, List.getElem_range, store_apply _ _ _ _ fits,
    toNat_add_ofNat_sub addr (by omega : offset < 2 ^ 64), if_pos within]
  simp [List.getElem?_eq_getElem within]

/-- An access of plain memory. -/
inductive Op where
  | store (addr : UInt64) (bytes : List UInt8)
  | load (addr : UInt64) (len : Nat)
  deriving DecidableEq, Repr

/-- One access: the memory after it and what it returns, no bytes for a store. -/
def Op.run (memory : Memory) : Op → Memory × List UInt8
  | .store addr bytes => (memory.store addr bytes, [])
  | .load addr len => (memory, memory.load addr len)

/-- Accesses one after another: the final memory and what each access returns. -/
def exec (memory : Memory) : List Op → Memory × List (List UInt8)
  | [] => (memory, [])
  | op :: rest =>
      let after := (op.run memory).1.exec rest
      (after.1, (op.run memory).2 :: after.2)

end Memory

end RemotePort
