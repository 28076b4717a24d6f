import RemotePort.Master.Access
import RemotePort.Slave
import RemotePort.Gpio

/-! # Byte counts on the transport

Every packet the devices send goes out through `rp_write` with a byte count computed at its
call site: the encoder's length for `rp_io_read` and `rp_gpio_handler`, that length plus the
data for `rp_io_write`, and `pktlen`, checked against the encoder's length, for `rp_cmd_rw`.
The header's `len` is a `uint32_t`, so it agrees with these counts only while the payload fits
in 32 bits.
-/

namespace RemotePort

open Proto Master Slave Gpio

private theorem rpCmdRw_served (as : Memory) (pkt : RemotePortDynPkt) (dir : DMADirection)
    (asserts : rpCmdRwAsserts pkt.pkt) :
    ∀ served ∈ rpCmdRw as pkt dir,
      served.2.2.2 = sizeofRpPktBusaccess + (if dir = .toDevice then pkt.pkt.len.toNat else 0) ∧
        served.2.1.hdr.len.toNat =
          (36 + if dir = .toDevice then pkt.pkt.len.toNat else 0) % 2 ^ 32 := by
  cases dir
  · simp [rpCmdRw_toDevice as pkt asserts, rpEncodeReadResp]
  · rw [rpCmdRw_fromDevice as pkt asserts]
    split <;> simp [rpEncodeWriteResp]

/-- At every call site the count handed to `rp_write` is the header and its `len`: always for
`rp_io_read` and `rp_gpio_handler`, for `rp_io_write` once its `size <= 8` held, and for
`rp_cmd_rw` unless it answers a read of at least `2 ^ 32 - 36` bytes. The assertion
`enclen == pktlen` never fails: `rp_cmd_rw` answers every request that passes its other
assertions and whose data lies in its packet. -/
theorem rp_write_count_matches_header (map : RemotePortMap) (addr value : UInt64)
    (size id : UInt32) (clk : Int) (as : Memory) (pkt : RemotePortDynPkt) (dir : DMADirection)
    (s : RemotePortGpio) (irq : Nat) (level : Int) :
    (rpIoReadRequest map addr size id clk).2 =
      sizeofRpPktHdr + (rpIoReadRequest map addr size id clk).1.hdr.len.toNat ∧
    (size.toNat ≤ 8 → (rpIoWriteTransmit map addr value size id clk).2.2 =
      sizeofRpPktHdr + (rpIoWriteTransmit map addr value size id clk).1.hdr.len.toNat) ∧
    (rpCmdRwAsserts pkt.pkt → (dir = .fromDevice → pkt.pkt.len.toNat ≤ pkt.data.length) →
      (rpCmdRw as pkt dir).isSome) ∧
    (∀ served ∈ rpCmdRw as pkt dir,
      served.2.2.2 = sizeofRpPktHdr + served.2.1.hdr.len.toNat ↔
        dir = .fromDevice ∨ pkt.pkt.len.toNat < 2 ^ 32 - 36) ∧
    (rpGpioHandler s clk irq level).2.2 =
      sizeofRpPktHdr + (rpGpioHandler s clk irq level).2.1.hdr.len.toNat := by
  refine ⟨rfl, fun small => ?_, fun asserts fits => ?_, fun served member => ?_, rfl⟩
  · simp only [rpIoWriteTransmit, rpIoWriteRequest, rpEncodeWrite, rpEncodeBusaccess_hdr_len_toNat]
    have bound : size.toNat < 2 ^ 32 := size.toNat_lt_size
    rw [Nat.mod_eq_of_lt (by omega)]
    show 56 + size.toNat = 20 + (36 + size.toNat)
    omega
  · cases dir
    · simp [rpCmdRw_toDevice as pkt asserts]
    · simp [rpCmdRw_fromDevice as pkt asserts, fits rfl]
  · by_cases asserts : rpCmdRwAsserts pkt.pkt
    · obtain ⟨count, len⟩ := rpCmdRw_served as pkt dir asserts served member
      have bound : pkt.pkt.len.toNat < 2 ^ 32 := pkt.pkt.len.toNat_lt_size
      rw [count, len]
      cases dir <;> simp [sizeofRpPktBusaccess, sizeofRpPktHdr]
      omega
    · simp [rpCmdRw_of_not_asserts as pkt dir asserts] at member

/-- A read of `2 ^ 32 - 36` bytes at address 0: a plain access the slave accepts. -/
def wrappingRead : RemotePortDynPkt where
  pkt :=
    { hdr := { cmd := rpCmdRead, len := 36, id := 1, flags := 0, dev := 0 }
      timestamp := 0, attributes := 0, addr := 0, len := 0xFFFFFFDC, width := 0,
      streamWidth := 0xFFFFFFDC }
  data := []
  valid := true

/-- The slave answers `wrappingRead` with `2 ^ 32 + 20` bytes under a header whose `len` is 0. -/
theorem rp_cmd_rw_read_header_len_wraps :
    (rpCmdRw (fun _ => 0) wrappingRead .toDevice).map
      (fun served => (served.2.2.2, served.2.1.hdr.len)) = some (2 ^ 32 + 20, 0) := by
  rw [rpCmdRw_toDevice _ _ (by decide)]
  rfl

end RemotePort
