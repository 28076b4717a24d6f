import RemotePort.Proto

/-! # The GPIO bridge

`remote-port-gpio.c` sends the peer an interrupt packet whenever one of its `num_gpios` inputs
changes level, and sets its `num_gpios` outputs from the interrupt packets the peer sends.
An output is the level last set on it; the wiring that `qdev_init_gpio_out`,
`qdev_init_gpio_in` and `sysbus_init_irq` make is left out.

Over a whole run each output mirrors the last interrupt for its line, and two devices back to
back are a wire from the inputs of one to the outputs of the other.
-/

namespace RemotePort.Gpio

open Proto

/-- `rp_properties`: `rp-chan0` and `num-gpios`, with their defaults. -/
structure RpProperties where
  rpDev : UInt32 := 0
  numGpios : UInt16 := 16
  deriving DecidableEq, Repr

/-- A realized `RemotePortGPIO`. `gpio_out` holds the level last set on each output, and it
has the `num_gpios` entries `rp_gpio_realize` allocated. -/
structure RemotePortGpio where
  numGpios : UInt16
  gpioOut : List UInt8
  allocated : gpioOut.length = numGpios.toNat
  currentId : UInt64
  rpDev : UInt32
  deriving DecidableEq

/-- `rp_gpio_realize`: `g_new0` allocates `num_gpios` outputs at level 0. The device is
zeroed when it is created, so `current_id` starts at 0. -/
def rpGpioRealize (props : RpProperties) : RemotePortGpio where
  numGpios := props.numGpios
  gpioOut := List.replicate props.numGpios.toNat 0
  allocated := List.length_replicate _ _
  currentId := 0
  rpDev := props.rpDev

/-- `rp_gpio_interrupt`: `qemu_set_irq(gpio_out[line], val)` with the line the peer sent,
unchecked. Indexing past `gpio_out` is undefined, `none`. -/
def rpGpioInterrupt (s : RemotePortGpio) (pkt : RpPktInterrupt) : Option RemotePortGpio :=
  if pkt.line.toNat < s.gpioOut.length then
    some { s with
      gpioOut := s.gpioOut.set pkt.line.toNat pkt.val
      allocated := (List.length_set _ _ _).trans s.allocated }
  else none

/-- `rp_gpio_handler` for input `irq` going to `level` at virtual time `clk`: the interrupt
packet with id `current_id++`, which the encoder's `uint32_t id` truncates, and the byte count
handed to `rp_write`. The encoder's `uint8_t val` takes `level` modulo 256. -/
def rpGpioHandler (s : RemotePortGpio) (clk : Int) (irq : Nat) (level : Int) :
    RemotePortGpio × RpPktInterrupt × Nat :=
  let (pkt, len) := rpEncodeInterrupt s.currentId.toUInt32 s.rpDev clk (UInt32.ofNat irq) 0
    (UInt8.ofNat (level % 256).toNat)
  ({ s with currentId := s.currentId + 1 }, pkt, len)

/-! ## Interrupts from the peer -/

/-- `rp_gpio_interrupt` stays within `gpio_out` exactly when the peer's line is below
`num_gpios`, and then sets that output alone. -/
theorem rp_gpio_interrupt_within_bounds_iff (s : RemotePortGpio) (pkt : RpPktInterrupt) :
    ((rpGpioInterrupt s pkt).isSome ↔ pkt.line.toNat < s.numGpios.toNat) ∧
      ∀ after ∈ rpGpioInterrupt s pkt, after.numGpios = s.numGpios ∧
        ∀ i, after.gpioOut[i]? = if i = pkt.line.toNat then some pkt.val else s.gpioOut[i]? := by
  unfold rpGpioInterrupt
  rw [s.allocated]
  split
  · next within =>
      refine ⟨by simp [within], ?_⟩
      rintro _ ⟨⟩
      refine ⟨rfl, fun i => ?_⟩
      by_cases same : i = pkt.line.toNat
      · subst same
        simp [List.getElem?_set_self (s.allocated ▸ within)]
      · simp [List.getElem?_set_ne (Ne.symm same), same]
  · next outside => simp [outside]

/-- An interrupt on line 16 at level 1: the first line past the 16 outputs of a device with
the default `num-gpios`, and a line the protocol's interrupt wires cover. -/
def lineSixteen : RpPktInterrupt :=
  { hdr := { cmd := rpCmdInterrupt, len := 21, id := 0, flags := 0, dev := 0 }
    timestamp := 0, vector := 0, line := 16, val := 1 }

/-- On a device realized with the defaults, `lineSixteen` indexes past `gpio_out`. -/
theorem rp_gpio_interrupt_line_sixteen :
    (rpGpioRealize {}).numGpios.toNat ≤ lineSixteen.line.toNat ∧
      lineSixteen.line.toNat < wireMax ∧
      rpGpioInterrupt (rpGpioRealize {}) lineSixteen = none := by
  decide

/-! ## Runs of the device -/

/-- What reaches the device: an interrupt packet from the peer, or its input `irq` going to
`level` at virtual time `clk`. -/
inductive Event where
  | interrupt (pkt : RpPktInterrupt)
  | input (clk : Int) (irq : Nat) (level : Int)

/-- The device handling `events` in order: the device after them and the interrupt packets it
sent; `none` once an interrupt indexes past `gpio_out`. -/
def rpGpioRun (s : RemotePortGpio) : List Event → Option (RemotePortGpio × List RpPktInterrupt)
  | [] => some (s, [])
  | .interrupt pkt :: rest => (rpGpioInterrupt s pkt).bind fun after => rpGpioRun after rest
  | .input clk irq level :: rest =>
      (rpGpioRun (rpGpioHandler s clk irq level).1 rest).map
        fun run => (run.1, (rpGpioHandler s clk irq level).2.1 :: run.2)

private theorem currentId_succ (id : UInt64) : (id + 1).toNat = (id.toNat + 1) % 2 ^ 64 := by
  rw [UInt64.add_def]
  exact BitVec.toNat_add _ _

theorem rpGpioInterrupt_currentId {s after : RemotePortGpio} {pkt : RpPktInterrupt}
    (interrupt : rpGpioInterrupt s pkt = some after) : after.currentId = s.currentId := by
  unfold rpGpioInterrupt at interrupt
  split at interrupt <;> cases interrupt
  rfl

/-- The interrupt packets a device sends carry consecutive ids from its `current_id`, as the
encoder's `uint32_t id` takes them, whatever the peer sends in between. -/
theorem rpGpioRun_ids (s : RemotePortGpio) (events : List Event) :
    ∀ run ∈ rpGpioRun s events,
      run.2.map (fun pkt => pkt.hdr.id.toNat) =
          (List.range run.2.length).map (fun i => (s.currentId.toNat + i) % 2 ^ 32) ∧
        run.1.currentId.toNat = (s.currentId.toNat + run.2.length) % 2 ^ 64 := by
  induction events generalizing s with
  | nil =>
      rintro _ ⟨⟩
      simp [Nat.mod_eq_of_lt s.currentId.toNat_lt_size]
  | cons event rest induction =>
      intro run member
      cases event with
      | interrupt pkt =>
          obtain ⟨after, interrupt, afterRun⟩ := Option.bind_eq_some.mp member
          simpa only [rpGpioInterrupt_currentId interrupt] using induction after run afterRun
      | input clk irq level =>
          obtain ⟨later, laterRun, rfl⟩ := Option.map_eq_some'.mp member
          obtain ⟨ids, currentId⟩ := induction _ later laterRun
          simp only [rpGpioHandler, currentId_succ] at ids currentId
          refine ⟨?_, by simp only [List.length_cons, currentId]; omega⟩
          simp only [List.map_cons, List.length_cons, List.range_succ_eq_map, List.map_map, ids]
          refine List.cons_eq_cons.mpr ⟨BitVec.toNat_ofNat _ _, List.map_congr_left ?_⟩
          intro i _
          simp only [Function.comp_apply]
          omega

/-- A device with the defaults sees its input 3 rise and fall, with an interrupt from the peer
in between. -/
theorem rpGpioRun_ids_realized :
    ∃ run ∈ rpGpioRun (rpGpioRealize {}) [.input 0 3 1, .interrupt default, .input 5 3 0],
      run.2.map (fun pkt => pkt.hdr.id.toNat) =
          (List.range run.2.length).map
            (fun i => ((rpGpioRealize {}).currentId.toNat + i) % 2 ^ 32) ∧
        run.1.currentId.toNat = ((rpGpioRealize {}).currentId.toNat + run.2.length) % 2 ^ 64 :=
  have served :
      (rpGpioRun (rpGpioRealize {}) [.input 0 3 1, .interrupt default, .input 5 3 0]).isSome := by
    decide
  ⟨_, Option.get_mem served, rpGpioRun_ids _ _ _ (Option.get_mem served)⟩

/-! ## What the bridge is for -/

def Event.interrupt? : Event → Option RpPktInterrupt
  | .interrupt pkt => some pkt
  | .input .. => none

def Event.input? : Event → Option (Int × Nat × Int)
  | .interrupt _ => none
  | .input clk irq level => some (clk, irq, level)

/-- The level the last of `pkts` for line `i` sets, if any of them is for that line. -/
def lastLevel : List RpPktInterrupt → Nat → Option UInt8
  | [], _ => none
  | pkt :: rest, i =>
      match lastLevel rest i with
      | some level => some level
      | none => if pkt.line.toNat = i then some pkt.val else none

private theorem set_then_later (outputs : List UInt8) {line : Nat} (val : UInt8)
    (within : line < outputs.length) (later : Option UInt8) (i : Nat) :
    (outputs.set line val)[i]?.map (fun level => later.getD level) =
      outputs[i]?.map fun level =>
        (match later with
          | some value => some value
          | none => if line = i then some val else none).getD level := by
  by_cases same : line = i
  · subst same
    rw [List.getElem?_set_self within, List.getElem?_eq_getElem within]
    cases later <;> simp
  · rw [List.getElem?_set_ne same]
    cases later <;> simp [same]

/-- The GPIO bridge over any events. It handles them all exactly when every interrupt from the
peer is for one of its `num_gpios` outputs. Each output then holds the level of the last
interrupt for its line, or the level it had if there was none, and the device has sent one
interrupt packet per change of an input, in order, carrying the device's `rp-chan0`, the time of
the change, the input's line and its level modulo 256. -/
theorem rpGpioRun_mirrors (s : RemotePortGpio) (events : List Event) :
    ((rpGpioRun s events).isSome ↔
      ∀ pkt ∈ events.filterMap Event.interrupt?, pkt.line.toNat < s.numGpios.toNat) ∧
    ∀ run ∈ rpGpioRun s events,
      run.1.numGpios = s.numGpios ∧ run.1.rpDev = s.rpDev ∧
      (∀ i, run.1.gpioOut[i]? = s.gpioOut[i]?.map
        fun level => (lastLevel (events.filterMap Event.interrupt?) i).getD level) ∧
      run.2.map (fun pkt => (pkt.hdr.cmd, pkt.hdr.dev, pkt.timestamp, pkt.line, pkt.val)) =
        (events.filterMap Event.input?).map fun (clk, irq, level) =>
          (rpCmdInterrupt, s.rpDev, uint64OfInt clk, UInt32.ofNat irq,
            UInt8.ofNat (level % 256).toNat) := by
  induction events generalizing s with
  | nil =>
      refine ⟨by simp [rpGpioRun], ?_⟩
      rintro _ ⟨⟩
      simp [lastLevel]
  | cons event rest induction =>
      cases event with
      | interrupt pkt =>
          simp only [rpGpioRun, List.filterMap_cons, Event.interrupt?, Event.input?,
            List.mem_cons, forall_eq_or_imp]
          unfold rpGpioInterrupt
          rw [s.allocated]
          split
          · next within =>
              obtain ⟨completes, runs⟩ := induction
                { s with gpioOut := s.gpioOut.set pkt.line.toNat pkt.val
                         allocated := (List.length_set _ _ _).trans s.allocated }
              refine ⟨by simpa [within] using completes, fun run member => ?_⟩
              obtain ⟨numGpios, rpDev, outputs, sent⟩ := runs run member
              refine ⟨numGpios, rpDev, fun i => ?_, sent⟩
              rw [outputs i]
              exact set_then_later _ pkt.val (s.allocated ▸ within) _ i
          · next outside => simp [outside]
      | input clk irq level =>
          obtain ⟨completes, runs⟩ := induction (rpGpioHandler s clk irq level).1
          simp only [rpGpioRun, List.filterMap_cons, Event.interrupt?, Event.input?]
          refine ⟨by simpa [rpGpioHandler] using completes, fun run member => ?_⟩
          obtain ⟨later, laterRun, rfl⟩ := Option.map_eq_some'.mp member
          obtain ⟨numGpios, rpDev, outputs, sent⟩ := runs later laterRun
          exact ⟨numGpios, rpDev, outputs, by
            simp [sent, rpGpioHandler, rpEncodeInterrupt, rpEncodeHdr]⟩

/-- Input 3 rises, the peer raises output 2 and then lowers it, and input 3 falls. -/
def toggleEvents : List Event :=
  [.input 0 3 1, .interrupt { lineSixteen with line := 2 },
    .interrupt { lineSixteen with line := 2, val := 0 }, .input 5 3 0]

/-- The device with the defaults handles `toggleEvents`. -/
theorem rpGpioRun_mirrors_toggle :
    ∃ run ∈ rpGpioRun (rpGpioRealize {}) toggleEvents,
      run.1.numGpios = (rpGpioRealize {}).numGpios ∧ run.1.rpDev = (rpGpioRealize {}).rpDev ∧
      (∀ i, run.1.gpioOut[i]? = (rpGpioRealize {}).gpioOut[i]?.map
        fun level => (lastLevel (toggleEvents.filterMap Event.interrupt?) i).getD level) ∧
      run.2.map (fun pkt => (pkt.hdr.cmd, pkt.hdr.dev, pkt.timestamp, pkt.line, pkt.val)) =
        (toggleEvents.filterMap Event.input?).map fun (clk, irq, level) =>
          (rpCmdInterrupt, (rpGpioRealize {}).rpDev, uint64OfInt clk, UInt32.ofNat irq,
            UInt8.ofNat (level % 256).toNat) :=
  have served : (rpGpioRun (rpGpioRealize {}) toggleEvents).isSome := by decide
  ⟨_, Option.get_mem served, (rpGpioRun_mirrors _ _).2 _ (Option.get_mem served)⟩

/-! ## Two bridges back to back -/

/-- The level the last change of input `i` among `changes` set, as an interrupt packet carries
the input's number and level in its `uint32_t line` and `uint8_t val`. -/
def lastChange : List (Int × Nat × Int) → Nat → Option UInt8
  | [], _ => none
  | (_, irq, level) :: rest, i =>
      match lastChange rest i with
      | some value => some value
      | none => if irq % 2 ^ 32 = i then some (UInt8.ofNat (level % 256).toNat) else none

/-- Two GPIO bridges back to back: the inputs of device `a` change as `changes` says, and the
interrupt packets `a` sends reach device `b` in the order sent. -/
def rpGpioPair (a b : RemotePortGpio) (changes : List (Int × Nat × Int)) :
    Option (RemotePortGpio × RemotePortGpio) :=
  (rpGpioRun a (changes.map fun (clk, irq, level) => .input clk irq level)).bind fun sent =>
    (rpGpioRun b (sent.2.map .interrupt)).map fun served => (sent.1, served.1)

theorem rpGpioPair_cons (a b : RemotePortGpio) (clk : Int) (irq : Nat) (level : Int)
    (rest : List (Int × Nat × Int)) :
    rpGpioPair a b ((clk, irq, level) :: rest) =
      (rpGpioInterrupt b (rpGpioHandler a clk irq level).2.1).bind
        (rpGpioPair (rpGpioHandler a clk irq level).1 · rest) := by
  unfold rpGpioPair
  simp only [List.map_cons, rpGpioRun]
  cases sent : rpGpioRun (rpGpioHandler a clk irq level).1
      (rest.map fun (clk, irq, level) => Event.input clk irq level) <;>
    cases interrupt : rpGpioInterrupt b (rpGpioHandler a clk irq level).2.1 <;>
    simp [rpGpioRun, sent, interrupt]

/-- Two GPIO bridges back to back are a wire from the inputs of one to the outputs of the
other. Over any changes of the inputs of `a`, device `b` handles all that `a` sends exactly
when the number of every changed input, as the packet's `uint32_t line` carries it, is below
the `num_gpios` of `b`. Then each output of `b` holds the level, modulo 256, of the last change
of the input with its number, or its own earlier level if that input did not change. -/
theorem rpGpioPair_wires (a b : RemotePortGpio) (changes : List (Int × Nat × Int)) :
    ((rpGpioPair a b changes).isSome ↔
      ∀ change ∈ changes, change.2.1 % 2 ^ 32 < b.numGpios.toNat) ∧
    ∀ pair ∈ rpGpioPair a b changes, pair.2.numGpios = b.numGpios ∧
      ∀ i, pair.2.gpioOut[i]? = b.gpioOut[i]?.map
        fun level => (lastChange changes i).getD level := by
  induction changes generalizing a b with
  | nil =>
      refine ⟨by simp [rpGpioPair, rpGpioRun], ?_⟩
      rintro _ ⟨⟩
      simp [lastChange]
  | cons change rest induction =>
      obtain ⟨clk, irq, level⟩ := change
      have line : (rpGpioHandler a clk irq level).2.1.line.toNat = irq % 2 ^ 32 :=
        BitVec.toNat_ofNat _ _
      rw [rpGpioPair_cons]
      unfold rpGpioInterrupt
      rw [b.allocated]
      simp only [List.mem_cons, forall_eq_or_imp]
      split
      · next within =>
          obtain ⟨completes, pairs⟩ := induction (rpGpioHandler a clk irq level).1
            { b with
              gpioOut := b.gpioOut.set (rpGpioHandler a clk irq level).2.1.line.toNat
                (rpGpioHandler a clk irq level).2.1.val
              allocated := (List.length_set _ _ _).trans b.allocated }
          refine ⟨?_, fun pair member => ?_⟩
          · simp only [Option.some_bind]
            rw [completes]
            exact ⟨fun restOk => ⟨by rw [← line]; exact within, restOk⟩, And.right⟩
          obtain ⟨numGpios, outputs⟩ := pairs pair member
          refine ⟨numGpios, fun i => ?_⟩
          rw [outputs i, set_then_later _ _ (b.allocated ▸ within), line]
          rfl
      · next outside =>
          refine ⟨⟨fun served => absurd served (by simp), fun both => ?_⟩, by simp⟩
          exact absurd (by rw [line]; exact both.1) outside

/-- Two devices with the defaults; input 3 of the first rises and falls, then input 2 rises. -/
theorem rpGpioPair_wires_realized :
    ∃ pair ∈ rpGpioPair (rpGpioRealize {}) (rpGpioRealize {}) [(0, 3, 1), (5, 3, 0), (7, 2, 1)],
      pair.2.numGpios = (rpGpioRealize {}).numGpios ∧
      ∀ i, pair.2.gpioOut[i]? = (rpGpioRealize {}).gpioOut[i]?.map
        fun level => (lastChange [(0, 3, 1), (5, 3, 0), (7, 2, 1)] i).getD level :=
  have served : (rpGpioPair (rpGpioRealize {}) (rpGpioRealize {})
      [(0, 3, 1), (5, 3, 0), (7, 2, 1)]).isSome := by
    decide
  ⟨_, Option.get_mem served, (rpGpioPair_wires _ _ _).2 _ (Option.get_mem served)⟩

end RemotePort.Gpio
