import RemotePort.Proto
import Mathlib.Tactic.Ring
import Mathlib.Tactic.NormNum

/-! # Accesses of the memory master

`rp_io_read` and `rp_io_write` of `remote-port-memory-master.c`, apart from their use of the
shared `RemotePort` (the channel module interleaves them): the packets they send, the value a
read assembles from its response, and the assertions they make.

The byte loops follow C's integer rules. In `value |= data[i] << (i * 8)` the `uint8_t` is
promoted to `int` before the shift, so the shift is undefined once `i * 8` reaches the width of
`int` or the shifted byte leaves its range; the model returns `none` there.
-/

namespace RemotePort.Master

open Proto

/-! ## Little-endian numbers -/

/-- The little-endian number of `bytes`: the first byte is the least significant. -/
def leValue : List UInt8 → Nat
  | [] => 0
  | byte :: rest => byte.toNat + 256 * leValue rest

@[simp] theorem leValue_nil : leValue [] = 0 := rfl

theorem leValue_append_singleton (bytes : List UInt8) (byte : UInt8) :
    leValue (bytes ++ [byte]) = leValue bytes + 256 ^ bytes.length * byte.toNat := by
  induction bytes with
  | nil => simp [leValue]
  | cons head rest induction =>
      rw [List.cons_append, leValue, leValue, induction, List.length_cons, Nat.pow_succ]
      ring

theorem leValue_lt (bytes : List UInt8) : leValue bytes < 256 ^ bytes.length := by
  induction bytes with
  | nil => exact Nat.one_pos
  | cons head rest induction =>
      have byteBound : head.toNat < 256 := head.toNat_lt_size
      rw [leValue, List.length_cons, Nat.pow_succ]
      omega

theorem leValue_take_le (bytes : List UInt8) (count : Nat) :
    leValue (bytes.take count) ≤ leValue (bytes.take (count + 1)) := by
  rw [List.take_succ]
  cases bytes[count]? with
  | none => simp
  | some byte => simp [leValue_append_singleton]

theorem two_pow_mul_eight (count : Nat) : 2 ^ (count * 8) = 256 ^ count := by
  rw [Nat.mul_comm, Nat.pow_mul]

/-! ## The read loop -/

/-- `(int) byte << count` for a `uint8_t` promoted to a 32-bit `int`: defined only while
`count` is below the width of `int` and the result stays below `2 ^ 31`. -/
def promotedShiftLeft (byte : UInt8) (count : Nat) : Option Nat :=
  if count < 32 ∧ byte.toNat * 2 ^ count < 2 ^ 31 then some (byte.toNat * 2 ^ count) else none

/-- One iteration of `rp_io_read`'s loop: `value |= data[i] << (i * 8)`, the non-negative
`int` converted to `uint64_t` unchanged. Reading past the buffer is undefined. -/
def rpIoReadStep (data : List UInt8) (value : UInt64) (i : Nat) : Option UInt64 := do
  let byte ← data[i]?
  let shifted ← promotedShiftLeft byte (i * 8)
  pure (value ||| UInt64.ofNat shifted)

/-- The value `rp_io_read` assembles from the `size` bytes at `data`. -/
def rpIoReadValue (data : List UInt8) (size : Nat) : Option UInt64 :=
  (List.range size).foldlM (rpIoReadStep data) 0

theorem rpIoReadValue_succ (data : List UInt8) (size : Nat) :
    rpIoReadValue data (size + 1) = rpIoReadValue data size >>= (rpIoReadStep data · size) := by
  simp only [rpIoReadValue, List.range_succ, List.foldlM_append, List.foldlM_cons,
    List.foldlM_nil]
  cases (List.range size).foldlM (rpIoReadStep data) 0 <;> simp

private theorem toNat_lor (left right : UInt64) :
    (left ||| right).toNat = left.toNat ||| right.toNat :=
  BitVec.toNat_or _ _

private theorem toNat_ofNat (n : Nat) : (UInt64.ofNat n).toNat = n % 2 ^ 64 :=
  BitVec.toNat_ofNat _ _

private theorem ofNat_lor_shifted {low count : Nat} (byte : Nat) (lowBound : low < 2 ^ count)
    (fits : low + 2 ^ count * byte < 2 ^ 64) :
    UInt64.ofNat low ||| UInt64.ofNat (byte * 2 ^ count) =
      UInt64.ofNat (low + 2 ^ count * byte) := by
  apply UInt64.toNat.inj
  rw [toNat_lor, toNat_ofNat, toNat_ofNat, toNat_ofNat, Nat.mod_eq_of_lt (by omega),
    Nat.mod_eq_of_lt (by rw [Nat.mul_comm]; omega), Nat.mod_eq_of_lt fits, Nat.or_comm,
    Nat.mul_comm, ← Nat.mul_add_lt_is_or lowBound, Nat.add_comm]

private theorem rpIoReadStep_defined (data : List UInt8) (i : Nat) (within : i < data.length)
    (small : i ≤ 3) :
    rpIoReadStep data (UInt64.ofNat (leValue (data.take i))) i =
      if leValue (data.take (i + 1)) < 2 ^ 31 then
        some (UInt64.ofNat (leValue (data.take (i + 1))))
      else none := by
  have lowBound := leValue_lt (data.take i)
  have byteBound : data[i].toNat < 256 := data[i].toNat_lt_size
  have takeSucc : data.take (i + 1) = data.take i ++ [data[i]] := by
    rw [List.take_succ, List.getElem?_eq_getElem within]; rfl
  rw [List.length_take_of_le (by omega), ← two_pow_mul_eight] at lowBound
  rw [takeSucc, leValue_append_singleton, List.length_take_of_le (by omega),
    ← two_pow_mul_eight]
  simp only [rpIoReadStep, List.getElem?_eq_getElem within, Option.bind_eq_bind,
    Option.some_bind, promotedShiftLeft]
  have shiftFits : (i * 8 < 32 ∧ data[i].toNat * 2 ^ (i * 8) < 2 ^ 31) ↔
      leValue (data.take i) + 2 ^ (i * 8) * data[i].toNat < 2 ^ 31 := by
    obtain rfl | rfl | rfl | rfl : i = 0 ∨ i = 1 ∨ i = 2 ∨ i = 3 := by omega
    all_goals norm_num at lowBound ⊢ <;> omega
  by_cases fits : leValue (data.take i) + 2 ^ (i * 8) * data[i].toNat < 2 ^ 31
  · rw [if_pos (shiftFits.mpr fits), if_pos fits]
    exact congrArg some (ofNat_lor_shifted _ lowBound (by omega))
  · rw [if_neg (mt shiftFits.mp fits), if_neg fits]
    rfl

/-- `rp_io_read`'s value is the little-endian number of the bytes it reads exactly when that
number stays below `2 ^ 31` and the read is at most 4 bytes; every other read, in particular
every read of 5 to 8 bytes, runs into undefined behaviour. -/
theorem rpIoReadValue_eq (data : List UInt8) (size : Nat) :
    rpIoReadValue data size =
      if size ≤ 4 ∧ size ≤ data.length ∧ leValue (data.take size) < 2 ^ 31 then
        some (UInt64.ofNat (leValue (data.take size)))
      else none := by
  induction size with
  | zero => simp [rpIoReadValue]
  | succ size induction =>
      rw [rpIoReadValue_succ, induction]
      by_cases defined : size ≤ 4 ∧ size ≤ data.length ∧ leValue (data.take size) < 2 ^ 31
      · rw [if_pos defined]
        simp only [Option.bind_eq_bind, Option.some_bind]
        by_cases within : size < data.length
        · by_cases small : size ≤ 3
          · rw [rpIoReadStep_defined data size within small]
            split_ifs <;> first | rfl | omega
          · have wide : size = 4 := by omega
            subst wide
            simp [rpIoReadStep, List.getElem?_eq_getElem within, promotedShiftLeft]
        · rw [if_neg (by omega)]
          simp [rpIoReadStep, List.getElem?_eq_none (by omega : data.length ≤ size)]
      · rw [if_neg defined]
        simp only [Option.bind_eq_bind, Option.none_bind]
        rw [if_neg]
        have grows := leValue_take_le data size
        omega

/-- Spec scenario A: the 4 bytes `AA BB CC DD` are the number `0xDDCCBBAA`, but shifting
`0xDD` by 24 leaves `int`, so `rp_io_read` has undefined behaviour there. -/
theorem rp_io_read_scenario_a_undefined :
    leValue [0xAA, 0xBB, 0xCC, 0xDD] = 0xDDCCBBAA ∧
      rpIoReadValue [0xAA, 0xBB, 0xCC, 0xDD] 4 = none := by
  decide

/-! ## The write split -/

/-- `pay.data` as `rp_io_write` fills it: byte `i` is `value >> (i * 8)` converted to
`uint8_t`. -/
def rpIoWriteData (value : UInt64) : List UInt8 :=
  (List.range 8).map fun i => UInt8.ofNat (value.toNat / 2 ^ (i * 8))

private theorem leValue_split (value count : Nat) :
    leValue ((List.range count).map fun i => UInt8.ofNat (value / 2 ^ (i * 8))) =
      value % 256 ^ count := by
  induction count with
  | zero => simp [Nat.mod_one]
  | succ count induction =>
      have byteNat : (UInt8.ofNat (value / 2 ^ (count * 8))).toNat =
          value / 256 ^ count % 256 := by
        rw [two_pow_mul_eight]; exact BitVec.toNat_ofNat _ _
      rw [List.range_succ, List.map_append, List.map_singleton, leValue_append_singleton,
        induction, List.length_map, List.length_range, byteNat, Nat.mod_pow_succ]

theorem leValue_rpIoWriteData (value : UInt64) (size : Nat) (small : size ≤ 8) :
    leValue ((rpIoWriteData value).take size) = value.toNat % 256 ^ size := by
  rw [rpIoWriteData, ← List.map_take, List.take_range, Nat.min_eq_left small, leValue_split]

theorem rpIoReadValue_rpIoWriteData (value : UInt64) (size : Nat) (small : size ≤ 8) :
    rpIoReadValue ((rpIoWriteData value).take size) size =
      if size ≤ 4 ∧ value.toNat % 256 ^ size < 2 ^ 31 then
        some (UInt64.ofNat (value.toNat % 256 ^ size))
      else none := by
  have length : ((rpIoWriteData value).take size).length = size := by
    simp [rpIoWriteData, small]
  rw [rpIoReadValue_eq, List.take_of_length_le length.le, leValue_rpIoWriteData value size small]
  simp only [length, le_refl, true_and]

/-! ## Requests and responses -/

/-- `RemotePortMap`: a region of the master at `offset` in the peer's address space, with the
`rp_dev` of its master. -/
structure RemotePortMap where
  rpDev : UInt32
  offset : UInt64
  deriving DecidableEq, Repr, Inhabited

/-- The memory master's `rp_properties`: `rp-chan0`, and the arrays `mapsize` and `mapoffset`,
whose lengths are `cfg.num_maps` and `cfg.num_offsets`. -/
structure RpProperties where
  rpDev : UInt32 := 0
  mapsize : List UInt64 := []
  mapoffset : List UInt64 := []
  deriving DecidableEq, Repr

/-- A region `rp-i` of the master: `mapsize[i]` bytes whose accesses go to `rp_io_read` and
`rp_io_write` with `&mmaps[i]`. -/
structure Region where
  map : RemotePortMap
  size : UInt64
  deriving DecidableEq, Repr

/-- `rp_memory_master_realize`: `assert(num_maps == num_offsets)`, then region `rp-i` of
`mapsize[i]` bytes at offset `mapoffset[i]` for each `i`, all with the master's `rp_dev`. -/
def rpMemoryMasterRealize (props : RpProperties) : Option (List Region) :=
  if props.mapsize.length = props.mapoffset.length then
    some (List.zipWith (fun size offset => ⟨⟨props.rpDev, offset⟩, size⟩) props.mapsize
      props.mapoffset)
  else none

/-- The defaults pass the assertion and give a master with no region. -/
example : rpMemoryMasterRealize {} = some [] := rfl

/-- The request `rp_io_read` encodes for `size` bytes at `addr`, and the byte count it hands to
`rp_write`. -/
def rpIoReadRequest (map : RemotePortMap) (addr : UInt64) (size id : UInt32) (clk : Int) :
    RpPktBusaccess × Nat :=
  rpEncodeRead id map.rpDev clk (addr + map.offset) 0 size 0 size

/-- The request `rp_io_write` encodes, with the length `rp_encode_write` returns. -/
def rpIoWriteRequest (map : RemotePortMap) (addr : UInt64) (size id : UInt32) (clk : Int) :
    RpPktBusaccess × Nat :=
  rpEncodeWrite id map.rpDev clk (addr + map.offset) 0 size 0 size

/-- What `rp_io_write` hands to `rp_write`: `len + size` bytes from `&pay`, the request and the
first `size` bytes of `pay.data` after it. -/
def rpIoWriteTransmit (map : RemotePortMap) (addr value : UInt64) (size id : UInt32)
    (clk : Int) : RpPktBusaccess × List UInt8 × Nat :=
  let (pkt, len) := rpIoWriteRequest map addr size id clk
  (pkt, (rpIoWriteData value).take size.toNat, len + size.toNat)

/-- The one check `rp_io_read` and `rp_io_write` make of the response `rp_wait_resp` returned,
`assert(rsp.pkt->hdr.id == be32_to_cpu(pkt.hdr.id))` ("We dont support out of order answers
yet"): it carries the id of their request. -/
def rpIoIdMatches (id : UInt32) (rsp : RemotePortDynPkt) : Prop := rsp.pkt.hdr.id = id

instance (id : UInt32) (rsp : RemotePortDynPkt) : Decidable (rpIoIdMatches id rsp) :=
  inferInstanceAs (Decidable (_ = _))

/-- `rp_io_read` once `rp_wait_resp` returned `rsp`: the id assertion, then the value from the
`size` bytes at `rp_busaccess_dataptr`; `none` where the assertion fails or the loop is
undefined. -/
def rpIoReadResponse (id size : UInt32) (rsp : RemotePortDynPkt) : Option UInt64 :=
  if rpIoIdMatches id rsp then rpIoReadValue rsp.data size.toNat else none

/-- `rp_io_write` once `rp_wait_resp` returned `rsp`: the id assertion only. -/
def rpIoWriteResponse (id : UInt32) (rsp : RemotePortDynPkt) : Option Unit :=
  if rpIoIdMatches id rsp then some () else none

@[simp] theorem rpIoReadRequest_id (map : RemotePortMap) (addr : UInt64) (size id : UInt32)
    (clk : Int) : (rpIoReadRequest map addr size id clk).1.hdr.id = id := rfl

@[simp] theorem rpIoWriteRequest_id (map : RemotePortMap) (addr : UInt64) (size id : UInt32)
    (clk : Int) : (rpIoWriteRequest map addr size id clk).1.hdr.id = id := rfl

/-! ## What a response is checked for -/

/-- Both functions check only the response's id: with the same id and buffer, a response of
the other command or of another length gives the same outcome. Under the request's id a read
assembles its value from the first `size` bytes of the buffer and a write completes; under any
other id both fail by the assertion. -/
theorem rp_io_response_checks_only_id (id size : UInt32) (rsp : RemotePortDynPkt)
    (cmd len : UInt32) :
    rpIoReadResponse id size
        { rsp with pkt := { rsp.pkt with hdr := { rsp.pkt.hdr with cmd }, len } } =
      rpIoReadResponse id size rsp ∧
    rpIoWriteResponse id
        { rsp with pkt := { rsp.pkt with hdr := { rsp.pkt.hdr with cmd }, len } } =
      rpIoWriteResponse id rsp ∧
    (rsp.pkt.hdr.id = id →
      rpIoReadResponse id size rsp = rpIoReadValue rsp.data size.toNat ∧
        rpIoWriteResponse id rsp = some ()) ∧
    (rsp.pkt.hdr.id ≠ id →
      rpIoReadResponse id size rsp = none ∧ rpIoWriteResponse id rsp = none) :=
  ⟨rfl, rfl, fun same => by simp [rpIoReadResponse, rpIoWriteResponse, rpIoIdMatches, same],
    fun other => by simp [rpIoReadResponse, rpIoWriteResponse, rpIoIdMatches, other]⟩

/-- A write response to id 7 that carries no data, in a buffer still holding the byte `0x42`
of an earlier, longer packet. -/
def staleResponse : RemotePortDynPkt where
  pkt :=
    { hdr := { cmd := rpCmdWrite, len := 36, id := 7, flags := rpPktFlagsResponse, dev := 0 }
      timestamp := 0, attributes := 0, addr := 0, len := 0, width := 0, streamWidth := 0 }
  data := [0x42]
  valid := true

/-- A one-byte read with id 7 returns `0x42` from `staleResponse`. -/
theorem rp_io_read_takes_stale_data :
    staleResponse.pkt.hdr.cmd ≠ rpCmdRead ∧ staleResponse.pkt.len ≠ 1 ∧
      rpIoReadResponse 7 1 staleResponse = some 0x42 := by
  decide

end RemotePort.Master
