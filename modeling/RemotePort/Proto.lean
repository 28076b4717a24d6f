import Mathlib.Data.List.Basic
import Mathlib.Order.Basic
import Mathlib.Algebra.Group.Int
import Mathlib.Algebra.Group.Nat.Basic

/-! # Remote-Port packets

The packet layouts of `remote-port-proto.h`: the commands and flags, the packed packet
structures the devices read and write, their sizes, and the encoders the devices call.
`remote-port-proto.c`, which holds the encoders and the packet buffer functions, is not part
of the sources; those definitions follow the protocol description instead and say so.

Fields keep the widths of the C structures (`UInt32`, `UInt64`). Packets are modelled by their
fields in host order: byte order on the wire matters to none of the devices.
-/

namespace RemotePort.Proto

/-! ## Commands and flags -/

/-- `RP_CMD_read`. -/
def rpCmdRead : UInt32 := 3

/-- `RP_CMD_write`. -/
def rpCmdWrite : UInt32 := 4

/-- `RP_CMD_interrupt`. -/
def rpCmdInterrupt : UInt32 := 5

@[simp] theorem rpCmdRead_ne_rpCmdWrite : rpCmdRead ≠ rpCmdWrite := by decide

@[simp] theorem rpCmdWrite_ne_rpCmdRead : rpCmdWrite ≠ rpCmdRead := by decide

/-- `RP_PKT_FLAGS_response`. -/
def rpPktFlagsResponse : UInt32 := 2

/-- `WIRE_MAX`: the lines the protocol numbers for interrupts, halts and resets. -/
def wireMax : Nat := 192

/-! ## Packet structures -/

/-- `struct rp_pkt_hdr`. -/
structure RpPktHdr where
  cmd : UInt32
  len : UInt32
  id : UInt32
  flags : UInt32
  dev : UInt32
  deriving DecidableEq, Repr, Inhabited

/-- `struct rp_pkt_busaccess`, the packet of reads, writes and their responses. -/
structure RpPktBusaccess where
  hdr : RpPktHdr
  timestamp : UInt64
  attributes : UInt64
  addr : UInt64
  len : UInt32
  width : UInt32
  streamWidth : UInt32
  deriving DecidableEq, Repr, Inhabited

/-- `struct rp_pkt_interrupt`. -/
structure RpPktInterrupt where
  hdr : RpPktHdr
  timestamp : UInt64
  vector : UInt64
  line : UInt32
  val : UInt8
  deriving DecidableEq, Repr, Inhabited

/-! ## Sizes

All structures are `packed`, so a structure is as large as the sum of its members and the
union `struct rp_pkt` is as large as its largest member. -/

def sizeofRpPktHdr : Nat := 4 + 4 + 4 + 4 + 4

/-- `struct rp_pkt_hello`: the header and `struct rp_version`. -/
def sizeofRpPktHello : Nat := sizeofRpPktHdr + (2 + 2)

def sizeofRpPktBusaccess : Nat := sizeofRpPktHdr + 8 + 8 + 8 + 4 + 4 + 4

def sizeofRpPktInterrupt : Nat := sizeofRpPktHdr + 8 + 8 + 4 + 1

def sizeofRpPktSync : Nat := sizeofRpPktHdr + 8

/-- `sizeof (struct rp_pkt)`, the union of the header and the four packet kinds. -/
def sizeofRpPkt : Nat :=
  [sizeofRpPktHdr, sizeofRpPktHello, sizeofRpPktBusaccess, sizeofRpPktInterrupt,
    sizeofRpPktSync].foldr max 0

/-- The bus access is the largest member of `struct rp_pkt`, so `pkt + 1` on a
`struct rp_pkt *` lands right after the bus-access fields. -/
theorem sizeofRpPkt_eq_busaccess : sizeofRpPkt = sizeofRpPktBusaccess := by decide

@[simp] theorem sizeofRpPktBusaccess_sub_hdr : sizeofRpPktBusaccess - sizeofRpPktHdr = 36 := rfl

/-! ## C conversions -/

/-- Conversion of an integer to an unsigned 64-bit type: reduction modulo `2 ^ 64`. -/
def uint64OfInt (value : Int) : UInt64 := UInt64.ofNat (value % 2 ^ 64).toNat

/-- Conversion of a `uint64_t` to `int64_t`, two's complement as the compilers do it. -/
def int64OfUInt64 (value : UInt64) : Int :=
  if value.toNat < 2 ^ 63 then value.toNat else value.toNat - 2 ^ 64

@[simp] theorem uint64OfInt_int64OfUInt64 (value : UInt64) :
    uint64OfInt (int64OfUInt64 value) = value := by
  have bound := value.toNat_lt_size
  apply UInt64.toNat.inj
  unfold uint64OfInt int64OfUInt64
  split <;> simp [UInt64.toNat, UInt64.ofNat, Int.emod_emod_of_dvd] <;> omega

@[simp] theorem toUInt32_toUInt64 (value : UInt64) :
    value.toUInt32.toUInt64 = UInt64.ofNat (value.toNat % 2 ^ 32) := by
  apply UInt64.toNat.inj
  have small : value.toNat % 2 ^ 32 < 2 ^ 64 := by omega
  show (UInt32.ofNat value.toNat).toBitVec.toNat = (UInt64.ofNat _).toBitVec.toNat
  simp only [UInt32.ofNat, UInt64.ofNat, BitVec.toNat_ofNat, Nat.mod_eq_of_lt small]

@[simp] theorem add_uint64OfInt_zero (value : UInt64) : value + uint64OfInt 0 = value := by
  rw [UInt64.add_def]
  simp [uint64OfInt]

/-! ## Encoders

Modelled from the spec: `rp_encode_hdr` and the packet encoders of `remote-port-proto.c`,
which are only declared in the sources. Each lays out the header and the fixed fields of its
packet; the header's `len` is the exact number of payload bytes after the header, trailing
data included, as the 32-bit field holds it. The spec leaves open what the returned length
counts; it is the count each caller sends from the packet it was handed: the fixed block for
a request, whose data its caller appends, and the whole packet for a response. -/

/-- Modelled from the spec: `rp_encode_hdr`. -/
def rpEncodeHdr (cmd id dev : UInt32) (len : Nat) (flags : UInt32) : RpPktHdr :=
  { cmd, len := UInt32.ofNat len, id, flags, dev }

/-- Modelled from the spec: the layout the four bus-access encoders share, for a packet with
`trailing` data bytes after the fixed fields. -/
def rpEncodeBusaccess (cmd flags : UInt32) (trailing : Nat) (id dev : UInt32) (clk : Int)
    (addr : UInt64) (attr size width streamWidth : UInt32) : RpPktBusaccess :=
  { hdr := rpEncodeHdr cmd id dev (sizeofRpPktBusaccess - sizeofRpPktHdr + trailing) flags
    timestamp := uint64OfInt clk
    attributes := attr.toUInt64
    addr, len := size, width, streamWidth }

/-- Modelled from the spec: `rp_encode_read`. -/
def rpEncodeRead (id dev : UInt32) (clk : Int) (addr : UInt64)
    (attr size width streamWidth : UInt32) : RpPktBusaccess × Nat :=
  (rpEncodeBusaccess rpCmdRead 0 0 id dev clk addr attr size width streamWidth,
    sizeofRpPktBusaccess)

/-- Modelled from the spec: `rp_encode_read_resp`; the data read follows the fields. -/
def rpEncodeReadResp (id dev : UInt32) (clk : Int) (addr : UInt64)
    (attr size width streamWidth : UInt32) : RpPktBusaccess × Nat :=
  (rpEncodeBusaccess rpCmdRead rpPktFlagsResponse size.toNat id dev clk addr attr size width
    streamWidth, sizeofRpPktBusaccess + size.toNat)

/-- Modelled from the spec: `rp_encode_write`; its caller appends the data. -/
def rpEncodeWrite (id dev : UInt32) (clk : Int) (addr : UInt64)
    (attr size width streamWidth : UInt32) : RpPktBusaccess × Nat :=
  (rpEncodeBusaccess rpCmdWrite 0 size.toNat id dev clk addr attr size width streamWidth,
    sizeofRpPktBusaccess)

/-- Modelled from the spec: `rp_encode_write_resp`. -/
def rpEncodeWriteResp (id dev : UInt32) (clk : Int) (addr : UInt64)
    (attr size width streamWidth : UInt32) : RpPktBusaccess × Nat :=
  (rpEncodeBusaccess rpCmdWrite rpPktFlagsResponse 0 id dev clk addr attr size width
    streamWidth, sizeofRpPktBusaccess)

/-- Modelled from the spec: `rp_encode_interrupt`. -/
def rpEncodeInterrupt (id dev : UInt32) (clk : Int) (line : UInt32) (vector : UInt64)
    (val : UInt8) : RpPktInterrupt × Nat :=
  ({ hdr := rpEncodeHdr rpCmdInterrupt id dev (sizeofRpPktInterrupt - sizeofRpPktHdr) 0
     timestamp := uint64OfInt clk, vector, line, val },
    sizeofRpPktInterrupt)

@[simp] theorem rpEncodeBusaccess_hdr_len_toNat (cmd flags : UInt32) (trailing : Nat)
    (id dev : UInt32) (clk : Int) (addr : UInt64) (attr size width streamWidth : UInt32) :
    (rpEncodeBusaccess cmd flags trailing id dev clk addr attr size width
      streamWidth).hdr.len.toNat = (36 + trailing) % 2 ^ 32 :=
  BitVec.toNat_ofNat _ _

/-! ## Packet buffers

Modelled from the spec: `RemotePortDynPkt` and the `rp_dpkt_*` functions, declared in the
header only. A buffer holds a packet, read through `struct rp_pkt_busaccess`, the bytes after
the bus-access fields up to its allocated size, and whether it holds a meaningful packet. -/

/-- Modelled from the spec: `RemotePortDynPkt`. -/
structure RemotePortDynPkt where
  pkt : RpPktBusaccess
  data : List UInt8
  valid : Bool
  deriving DecidableEq, Repr, Inhabited

namespace RemotePortDynPkt

/-- Modelled from the spec: `rp_dpkt_alloc` grows the buffer to at least `size` bytes and
keeps what it held; the bytes it adds are zero. -/
def alloc (dpkt : RemotePortDynPkt) (size : Nat) : RemotePortDynPkt :=
  { dpkt with data := dpkt.data ++
      List.replicate (size - sizeofRpPktBusaccess - dpkt.data.length) 0 }

/-- Modelled from the spec: `rp_dpkt_invalidate`. -/
def invalidate (dpkt : RemotePortDynPkt) : RemotePortDynPkt := { dpkt with valid := false }

/-- Modelled from the spec: `rp_dpkt_is_valid`. -/
def isValid (dpkt : RemotePortDynPkt) : Bool := dpkt.valid

@[simp] theorem default_data : (default : RemotePortDynPkt).data = [] := rfl

end RemotePortDynPkt

end RemotePort.Proto
