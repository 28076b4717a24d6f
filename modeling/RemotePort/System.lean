import RemotePort.Master.Access
import RemotePort.Slave

/-! # A master and a memory slave

The memory master on one side of the transport and the memory slave on the other: the slave
accepts every request `rp_io_read` and `rp_io_write` send, answers it under its id, and a read
after a write of the same address and size gives back the bytes written.
-/

namespace RemotePort

open Proto Master Slave

/-- Modelled from the spec: the transport hands the peer the packet `rp_write` sent, its fields
and the data bytes after them, in a packet buffer. -/
def deliver (pkt : RpPktBusaccess) (data : List UInt8) : RemotePortDynPkt := ⟨pkt, data, true⟩

private theorem requestFlags : (0 : UInt32) &&& rpPktFlagsResponse = 0 := by decide

theorem accepted_rpIoReadRequest (map : RemotePortMap) (addr : UInt64) (size id : UInt32)
    (clk : Int) : Accepted (deliver (rpIoReadRequest map addr size id clk).1 []) :=
  ⟨⟨rfl, rfl, requestFlags⟩, .inr rfl⟩

theorem accepted_rpIoWriteTransmit (map : RemotePortMap) (addr value : UInt64)
    (size id : UInt32) (clk : Int) (small : size.toNat ≤ 8) :
    Accepted (deliver (rpIoWriteTransmit map addr value size id clk).1
      (rpIoWriteTransmit map addr value size id clk).2.1) :=
  ⟨⟨rfl, rfl, requestFlags⟩, .inl ⟨rfl, by
    simp [deliver, rpIoWriteTransmit, rpIoWriteRequest, rpEncodeWrite, rpEncodeBusaccess,
      rpIoWriteData, small]⟩⟩

/-- `rp_io_write` of `size` bytes of `value` at `addr` through a memory slave, then `rp_io_read`
of `size` bytes at `addr`: the slave serves both and answers each under its request's id, and
the read returns the low `size` bytes of `value` wherever the loop of `rp_io_read` is
defined. -/
theorem rp_io_write_then_read (as : Memory) (map : RemotePortMap) (addr value : UInt64)
    (size id id' : UInt32) (clk clk' : Int) (small : size.toNat ≤ 8) :
    ∃ written, rpMemorySlaveDispatch as (deliver (rpIoWriteTransmit map addr value size id clk).1
        (rpIoWriteTransmit map addr value size id clk).2.1) = some written ∧
      rpIoWriteResponse id (deliver written.2.1 written.2.2.1) = some () ∧
      ∃ read, rpMemorySlaveDispatch written.1
          (deliver (rpIoReadRequest map addr size id' clk').1 []) = some read ∧
        rpIoReadResponse id' size (deliver read.2.1 read.2.2.1) =
          if size.toNat ≤ 4 ∧ value.toNat % 256 ^ size.toNat < 2 ^ 31 then
            some (UInt64.ofNat (value.toNat % 256 ^ size.toNat))
          else none := by
  obtain ⟨writeAsserts, ⟨write, fits⟩ | read⟩ :=
    accepted_rpIoWriteTransmit map addr value size id clk small
  · obtain ⟨readAsserts, -⟩ := accepted_rpIoReadRequest map addr size id' clk'
    rw [rpMemorySlaveDispatch_write _ _ write, rpCmdRw_fromDevice _ _ writeAsserts, if_pos fits]
    refine ⟨_, rfl, by simp [rpIoWriteResponse, rpIoIdMatches, deliver, rpIoWriteTransmit,
      rpIoWriteRequest, rpEncodeWrite, rpEncodeWriteResp, rpEncodeBusaccess, rpEncodeHdr], ?_⟩
    rw [rpMemorySlaveDispatch_read _ _ rfl, rpCmdRw_toDevice _ _ readAsserts]
    refine ⟨_, rfl, ?_⟩
    have written : ((rpIoWriteData value).take size.toNat).length = size.toNat := by
      simp [rpIoWriteData, small]
    have readBack :
        (as.store (addr + map.offset) ((rpIoWriteData value).take size.toNat)).load
          (addr + map.offset) size.toNat = (rpIoWriteData value).take size.toNat := by
      simpa only [written] using Memory.load_store as _ ((rpIoWriteData value).take size.toNat)
        (by omega)
    simp only [deliver, rpIoWriteTransmit, rpIoWriteRequest, rpIoReadRequest, rpEncodeWrite,
      rpEncodeRead, rpEncodeReadResp, rpEncodeBusaccess, rpEncodeHdr, rpIoReadResponse,
      rpIoIdMatches, if_true, List.take_take, min_self, readBack]
    exact rpIoReadValue_rpIoWriteData value size.toNat small
  · exact absurd read rpCmdWrite_ne_rpCmdRead

/-- Two bytes of `0x1234` written at `0x10` of a zeroed memory read back as `0x1234`. -/
theorem rp_io_write_then_read_halfword :
    ∃ written, rpMemorySlaveDispatch (fun _ => 0)
        (deliver (rpIoWriteTransmit default 0x10 0x1234 2 1 0).1
          (rpIoWriteTransmit default 0x10 0x1234 2 1 0).2.1) = some written ∧
      rpIoWriteResponse 1 (deliver written.2.1 written.2.2.1) = some () ∧
      ∃ read, rpMemorySlaveDispatch written.1
          (deliver (rpIoReadRequest default 0x10 2 2 0).1 []) = some read ∧
        rpIoReadResponse 2 2 (deliver read.2.1 read.2.2.1) =
          if (2 : UInt32).toNat ≤ 4 ∧
              (0x1234 : UInt64).toNat % 256 ^ (2 : UInt32).toNat < 2 ^ 31
          then some (UInt64.ofNat ((0x1234 : UInt64).toNat % 256 ^ (2 : UInt32).toNat))
          else none :=
  rp_io_write_then_read (fun _ => 0) default 0x10 0x1234 2 1 2 0 0 (by decide)

end RemotePort
