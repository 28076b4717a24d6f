import RemotePort.Proto
import RemotePort.Memory

/-! # The memory slave

`remote-port-memory-slave.c` serves the peer's reads and writes from an address space: the
handlers in its `ops` table pass each request to `rp_cmd_rw`, which moves the bytes with
`dma_memory_rw` and answers with one response packet.

The address space is a byte map (`Memory`). A request is the packet buffer the transport filled:
the bus-access fields and the bytes after them. A failed `assert` aborts the program, and so
does a `dma_memory_rw` that would run past its buffer; both are `none`.
-/

namespace RemotePort.Slave

open Proto

/-- `DMADirection`. -/
inductive DMADirection where
  /-- From the address space into the buffer. -/
  | toDevice
  /-- From the buffer into the address space. -/
  | fromDevice
  deriving DecidableEq, Repr

/-- `dma_memory_rw` on a byte map: moves `len` bytes between `addr` and the front of `buf`, and
returns the address space and the buffer after the transfer. -/
def dmaMemoryRw (as : Memory) (addr : UInt64) (buf : List UInt8) (len : Nat)
    (dir : DMADirection) : Option (Memory × List UInt8) :=
  if len ≤ buf.length then
    match dir with
    | .toDevice => some (as, as.load addr len ++ buf.drop len)
    | .fromDevice => some (as.store addr (buf.take len), buf)
  else none

/-- How far `pkt + 1`, on a `struct rp_pkt *`, lies past the bus-access fields. -/
def rpPktDataOffset : Nat := sizeofRpPkt - sizeofRpPktBusaccess

@[simp] theorem rpPktDataOffset_eq : rpPktDataOffset = 0 := by
  rw [rpPktDataOffset, sizeofRpPkt_eq_busaccess, Nat.sub_self]

/-- The assertions of `rp_cmd_rw`: a plain access, and a request rather than a response. -/
def rpCmdRwAsserts (pkt : RpPktBusaccess) : Prop :=
  pkt.width = 0 ∧ pkt.streamWidth = pkt.len ∧ pkt.hdr.flags &&& rpPktFlagsResponse = 0

instance : DecidablePred rpCmdRwAsserts := fun _ => inferInstanceAs (Decidable (_ ∧ _ ∧ _))

/-- `rp_cmd_rw`: serves `pkt` in direction `dir`, and returns the address space after it and
what it hands to `rp_write`: the response's fields, the data bytes after them and the byte
count. -/
def rpCmdRw (as : Memory) (pkt : RemotePortDynPkt) (dir : DMADirection) :
    Option (Memory × RpPktBusaccess × List UInt8 × Nat) :=
  let ba := pkt.pkt
  let pktlen := sizeofRpPktBusaccess + if dir = .toDevice then ba.len.toNat else 0
  if rpCmdRwAsserts ba then
    let rsp := (default : RemotePortDynPkt).alloc pktlen
    let buf := match dir with
      | .toDevice => rsp.data
      | .fromDevice => pkt.data
    match dmaMemoryRw as ba.addr (buf.drop rpPktDataOffset) ba.len.toNat dir with
    | none => none
    | some (after, moved) =>
        let rspData := match dir with
          | .toDevice => rsp.data.take rpPktDataOffset ++ moved
          | .fromDevice => rsp.data
        let delay : Int := 0
        let encode := match dir with
          | .fromDevice => rpEncodeWriteResp
          | .toDevice => rpEncodeReadResp
        let (fields, enclen) := encode ba.hdr.id ba.hdr.dev
          (int64OfUInt64 (ba.timestamp + uint64OfInt delay)) ba.addr ba.attributes.toUInt32
          ba.len ba.width ba.streamWidth
        if enclen = pktlen then
          some (after, fields, rspData.take (pktlen - sizeofRpPktBusaccess), pktlen)
        else none
  else none

/-! ## Serving one request -/

theorem rpCmdRw_of_not_asserts (as : Memory) (pkt : RemotePortDynPkt) (dir : DMADirection)
    (failed : ¬ rpCmdRwAsserts pkt.pkt) : rpCmdRw as pkt dir = none := by
  simp [rpCmdRw, failed]

theorem rpCmdRw_fromDevice (as : Memory) (pkt : RemotePortDynPkt)
    (asserts : rpCmdRwAsserts pkt.pkt) :
    rpCmdRw as pkt .fromDevice =
      if pkt.pkt.len.toNat ≤ pkt.data.length then
        some (as.store pkt.pkt.addr (pkt.data.take pkt.pkt.len.toNat),
          (rpEncodeWriteResp pkt.pkt.hdr.id pkt.pkt.hdr.dev (int64OfUInt64 pkt.pkt.timestamp)
            pkt.pkt.addr pkt.pkt.attributes.toUInt32 pkt.pkt.len pkt.pkt.width
            pkt.pkt.streamWidth).1, [], sizeofRpPktBusaccess)
      else none := by
  by_cases fits : pkt.pkt.len.toNat ≤ pkt.data.length <;>
    simp [rpCmdRw, dmaMemoryRw, asserts, fits, rpEncodeWriteResp]

theorem rpCmdRw_toDevice (as : Memory) (pkt : RemotePortDynPkt)
    (asserts : rpCmdRwAsserts pkt.pkt) :
    rpCmdRw as pkt .toDevice =
      some (as, (rpEncodeReadResp pkt.pkt.hdr.id pkt.pkt.hdr.dev (int64OfUInt64 pkt.pkt.timestamp)
          pkt.pkt.addr pkt.pkt.attributes.toUInt32 pkt.pkt.len pkt.pkt.width
          pkt.pkt.streamWidth).1,
        as.load pkt.pkt.addr pkt.pkt.len.toNat,
        sizeofRpPktBusaccess + pkt.pkt.len.toNat) := by
  simp [rpCmdRw, dmaMemoryRw, asserts, RemotePortDynPkt.alloc, rpEncodeReadResp,
    Memory.load_length]

/-- `rp_memory_master_write`. -/
def rpMemoryMasterWrite (as : Memory) (pkt : RemotePortDynPkt) :
    Option (Memory × RpPktBusaccess × List UInt8 × Nat) :=
  rpCmdRw as pkt .fromDevice

/-- `rp_memory_master_read`. -/
def rpMemoryMasterRead (as : Memory) (pkt : RemotePortDynPkt) :
    Option (Memory × RpPktBusaccess × List UInt8 × Nat) :=
  rpCmdRw as pkt .toDevice

/-- The handlers `rp_memory_master_class_init` puts in the device's `ops` table, by command. -/
def rpMemoryMasterOps (cmd : UInt32) :
    Option
      (Memory → RemotePortDynPkt → Option (Memory × RpPktBusaccess × List UInt8 × Nat)) :=
  if cmd = rpCmdWrite then some rpMemoryMasterWrite
  else if cmd = rpCmdRead then some rpMemoryMasterRead
  else none

/-- Modelled from the spec: `remote-port.c` hands a packet for the device to the handler its
`ops` table holds for the packet's command; a command with no handler is not served. -/
def rpMemorySlaveDispatch (as : Memory) (pkt : RemotePortDynPkt) :
    Option (Memory × RpPktBusaccess × List UInt8 × Nat) :=
  match rpMemoryMasterOps pkt.pkt.hdr.cmd with
  | some handler => handler as pkt
  | none => none

theorem rpMemorySlaveDispatch_write (as : Memory) (pkt : RemotePortDynPkt)
    (write : pkt.pkt.hdr.cmd = rpCmdWrite) :
    rpMemorySlaveDispatch as pkt = rpCmdRw as pkt .fromDevice := by
  simp [rpMemorySlaveDispatch, rpMemoryMasterOps, rpMemoryMasterWrite, write]

theorem rpMemorySlaveDispatch_read (as : Memory) (pkt : RemotePortDynPkt)
    (read : pkt.pkt.hdr.cmd = rpCmdRead) :
    rpMemorySlaveDispatch as pkt = rpCmdRw as pkt .toDevice := by
  simp [rpMemorySlaveDispatch, rpMemoryMasterOps, rpMemoryMasterRead, read]

theorem rpMemorySlaveDispatch_other (as : Memory) (pkt : RemotePortDynPkt)
    (write : pkt.pkt.hdr.cmd ≠ rpCmdWrite) (read : pkt.pkt.hdr.cmd ≠ rpCmdRead) :
    rpMemorySlaveDispatch as pkt = none := by
  simp [rpMemorySlaveDispatch, rpMemoryMasterOps, write, read]

/-- The slave after a run: its address space, the responses it wrote, and whether a request
stopped it. -/
structure Served where
  memory : Memory
  responses : List (RpPktBusaccess × List UInt8 × Nat)
  aborted : Bool

/-- The slave serving `requests` in order, until one aborts it. -/
def rpMemorySlaveRun (as : Memory) : List RemotePortDynPkt → Served
  | [] => ⟨as, [], false⟩
  | pkt :: rest =>
      match rpMemorySlaveDispatch as pkt with
      | none => ⟨as, [], true⟩
      | some (after, response) =>
          let served := rpMemorySlaveRun after rest
          { served with responses := response :: served.responses }

/-! ## The slave refines byte memory -/

/-- The access of plain memory a request stands for: a write stores the `len` bytes after its
fields at `addr`, a read loads `len` bytes from `addr`. -/
def requestOp (pkt : RemotePortDynPkt) : Memory.Op :=
  if pkt.pkt.hdr.cmd = rpCmdWrite then .store pkt.pkt.addr (pkt.data.take pkt.pkt.len.toNat)
  else .load pkt.pkt.addr pkt.pkt.len.toNat

/-- A request the slave serves: a write that carries its `len` bytes, or a read, that passes the
assertions of `rp_cmd_rw`. -/
def Accepted (pkt : RemotePortDynPkt) : Prop :=
  rpCmdRwAsserts pkt.pkt ∧
    (pkt.pkt.hdr.cmd = rpCmdWrite ∧ pkt.pkt.len.toNat ≤ pkt.data.length ∨
      pkt.pkt.hdr.cmd = rpCmdRead)

instance : DecidablePred Accepted := fun _ => inferInstanceAs (Decidable (_ ∧ _))

/-- An accepted request does to the address space what its access does to plain memory, and its
response carries what that access returns. -/
theorem rpMemorySlaveDispatch_accepted (as : Memory) (pkt : RemotePortDynPkt)
    (accepted : Accepted pkt) :
    (rpMemorySlaveDispatch as pkt).map (fun served => (served.1, served.2.2.1)) =
      some ((requestOp pkt).run as) := by
  obtain ⟨asserts, ⟨write, fits⟩ | read⟩ := accepted
  · simp [rpMemorySlaveDispatch_write as pkt write, rpCmdRw_fromDevice as pkt asserts, fits,
      requestOp, write, Memory.Op.run]
  · simp [rpMemorySlaveDispatch_read as pkt read, rpCmdRw_toDevice as pkt asserts, requestOp,
      read, Memory.Op.run]

theorem rpMemorySlaveDispatch_rejected (as : Memory) (pkt : RemotePortDynPkt)
    (rejected : ¬ Accepted pkt) : rpMemorySlaveDispatch as pkt = none := by
  by_cases write : pkt.pkt.hdr.cmd = rpCmdWrite
  · rw [rpMemorySlaveDispatch_write as pkt write]
    by_cases asserts : rpCmdRwAsserts pkt.pkt
    · have short : ¬ pkt.pkt.len.toNat ≤ pkt.data.length := fun fits =>
        rejected ⟨asserts, .inl ⟨write, fits⟩⟩
      rw [rpCmdRw_fromDevice as pkt asserts, if_neg short]
    · exact rpCmdRw_of_not_asserts as pkt _ asserts
  · by_cases read : pkt.pkt.hdr.cmd = rpCmdRead
    · have failed : ¬ rpCmdRwAsserts pkt.pkt := fun asserts => rejected ⟨asserts, .inr read⟩
      rw [rpMemorySlaveDispatch_read as pkt read, rpCmdRw_of_not_asserts as pkt _ failed]
    · exact rpMemorySlaveDispatch_other as pkt write read

/-- The slave is plain byte memory: over any requests, its address space and the data of its
responses are those of the accesses the requests stand for, run on plain memory, up to the
first request it does not accept, where it stops. -/
theorem rp_memory_slave_refines_memory (as : Memory) (requests : List RemotePortDynPkt) :
    ((rpMemorySlaveRun as requests).memory,
        (rpMemorySlaveRun as requests).responses.map fun response => response.2.1) =
      Memory.exec as ((requests.takeWhile fun pkt => decide (Accepted pkt)).map requestOp) ∧
    (rpMemorySlaveRun as requests).aborted =
      decide ((requests.takeWhile fun pkt => decide (Accepted pkt)).length < requests.length) := by
  induction requests generalizing as with
  | nil => simp [rpMemorySlaveRun, Memory.exec]
  | cons pkt rest induction =>
      by_cases accepted : Accepted pkt
      · obtain ⟨⟨after, fields, data, count⟩, dispatch, served⟩ :=
          Option.map_eq_some'.mp (rpMemorySlaveDispatch_accepted as pkt accepted)
        obtain ⟨sameRun, sameAborted⟩ := induction after
        simp [rpMemorySlaveRun, dispatch, accepted, Memory.exec, ← served, ← sameRun,
          sameAborted]
      · simp [rpMemorySlaveRun, rpMemorySlaveDispatch_rejected as pkt accepted, accepted,
          Memory.exec]

/-! ## The response -/

/-- The response to an accepted request echoes the request: its command, id and dev, timestamp,
address, length, width and stream width. It is flagged a response, its header counts the
data of a read, and it keeps only the low 32 bits of the attributes, which pass through the
encoders' `uint32_t attr`. -/
theorem rpMemorySlaveDispatch_response (as : Memory) (pkt : RemotePortDynPkt)
    (accepted : Accepted pkt) :
    (rpMemorySlaveDispatch as pkt).map (fun served => served.2.1) =
      some { pkt.pkt with
        hdr := { pkt.pkt.hdr with
          len := UInt32.ofNat (36 + if pkt.pkt.hdr.cmd = rpCmdRead then pkt.pkt.len.toNat else 0)
          flags := rpPktFlagsResponse }
        attributes := UInt64.ofNat (pkt.pkt.attributes.toNat % 2 ^ 32) } := by
  obtain ⟨asserts, ⟨write, fits⟩ | read⟩ := accepted
  · simp [rpMemorySlaveDispatch_write as pkt write, rpCmdRw_fromDevice as pkt asserts, fits,
      write, rpEncodeWriteResp, rpEncodeBusaccess, rpEncodeHdr]
  · simp [rpMemorySlaveDispatch_read as pkt read, rpCmdRw_toDevice as pkt asserts, read,
      rpEncodeReadResp, rpEncodeBusaccess, rpEncodeHdr]

/-- A write of no bytes at address 0 whose attributes are `RP_BUS_ATTR_EOP` and bit 32. -/
def wideAttributesWrite : RemotePortDynPkt where
  pkt :=
    { hdr := { cmd := rpCmdWrite, len := 36, id := 1, flags := 0, dev := 0 }
      timestamp := 0
      attributes := 0x100000001
      addr := 0, len := 0, width := 0, streamWidth := 0 }
  data := []
  valid := true

/-- The response to `wideAttributesWrite`. -/
theorem rpMemorySlaveDispatch_response_wide :
    Accepted wideAttributesWrite ∧
      (rpMemorySlaveDispatch (fun _ => 0) wideAttributesWrite).map (fun served => served.2.1) =
        some { wideAttributesWrite.pkt with
          hdr := { wideAttributesWrite.pkt.hdr with len := 36, flags := rpPktFlagsResponse }
          attributes := 1 } :=
  have accepted : Accepted wideAttributesWrite := by decide
  ⟨accepted, (rpMemorySlaveDispatch_response _ _ accepted).trans (by decide)⟩

/-- The slave accepts `wideAttributesWrite` and answers with attributes `1`: bit 32 is lost. -/
theorem rp_cmd_rw_attributes_truncated :
    Accepted wideAttributesWrite ∧
      (rpMemorySlaveDispatch (fun _ => 0) wideAttributesWrite).map
        (fun served => served.2.1.attributes) = some 1 := by
  decide

end RemotePort.Slave
