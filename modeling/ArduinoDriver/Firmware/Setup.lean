import ArduinoDriver.Firmware.In

namespace ArduinoDriver

/-- A vendor request: type bits of bmRequestType. -/
def SetupPacket.isVendor (s : SetupPacket) : Bool := s.bmRequestType &&& 0x60 == 0x40

def SetupPacket.isIn (s : SetupPacket) : Bool := s.bmRequestType &&& 0x80 != 0

/-- The device-recipient form of an OUT request. -/
def SetupPacket.out (req : Request) (value index : UInt16) : SetupPacket :=
  ⟨0x40, req.code, value, index, 0⟩

/-- The device-recipient form of an IN request. -/
def SetupPacket.inp (req : Request) (index wLength : UInt16) : SetupPacket :=
  ⟨0xC0, req.code, 0, index, wLength⟩

/-- The index a request is about. The device-recipient form carries it in wIndex,
the interface-recipient form in its high byte. -/
def SetupPacket.index (s : SetupPacket) : UInt16 :=
  if s.bmRequestType &&& 0x1F = 0 then s.wIndex else s.wIndex >>> 8

/-- handle_setup(), past the recipient policy. -/
def dispatch (b : Board) (env : Env) (d : UsbIoDevice) (s : SetupPacket) :
    UsbIoDevice × Option (List UInt8) :=
  if s.isIn then handleIn b env d s.bRequest s.index s.wLength
  else
    let r := handleOut b d s.bRequest s.wValue s.index s.wLength
    (r.1, if r.2 then some [] else none)

/-- handle_setup(): the reply to send, empty for an OUT request; `none` to STALL. -/
def handleSetup (b : Board) (env : Env) (d : UsbIoDevice) (s : SetupPacket) :
    UsbIoDevice × Option (List UInt8) :=
  if !s.isVendor then (d, none)
  else if s.bmRequestType &&& 0x1F = 0 then dispatch b env d s
  else if s.bmRequestType &&& 0x1F = 1 then
    if hasFlag d.flags flagVendorInterface then dispatch b env d s
    else ((stall d .unsupported).1, none)
  else ((stall d .badCmd).1, none)

/-- The device-recipient form of an OUT request is handle_out()'s, whatever its code. -/
theorem handleSetup_outCode (b : Board) (env : Env) (d : UsbIoDevice) (bRequest : UInt8)
    (value index : UInt16) :
    handleSetup b env d ⟨0x40, bRequest, value, index, 0⟩ =
      ((handleOut b d bRequest value index 0).1,
        if (handleOut b d bRequest value index 0).2 then some [] else none) := by
  have vendor : ((0x40 : UInt8) &&& 0x60 == 0x40) = true := by decide
  have toDevice : (0x40 : UInt8) &&& 0x1F = 0 := by decide
  have isOut : ((0x40 : UInt8) &&& 0x80 != 0) = false := by decide
  simp [handleSetup, dispatch, SetupPacket.isVendor, SetupPacket.isIn, SetupPacket.index, vendor, toDevice,
    isOut]

/-- The device-recipient form of an IN request is handle_in()'s. -/
theorem handleSetup_inCode (b : Board) (env : Env) (d : UsbIoDevice) (bRequest : UInt8)
    (value index len : UInt16) :
    handleSetup b env d ⟨0xC0, bRequest, value, index, len⟩ = handleIn b env d bRequest index len := by
  have vendor : ((0xC0 : UInt8) &&& 0x60 == 0x40) = true := by decide
  have toDevice : (0xC0 : UInt8) &&& 0x1F = 0 := by decide
  have isIn : ((0xC0 : UInt8) &&& 0x80 != 0) = true := by decide
  simp [handleSetup, dispatch, SetupPacket.isVendor, SetupPacket.isIn, SetupPacket.index, vendor, toDevice,
    isIn]

theorem handleSetup_out (b : Board) (env : Env) (d : UsbIoDevice) (req : Request)
    (value index : UInt16) :
    handleSetup b env d (.out req value index) =
      ((handleOut b d req.code value index 0).1,
        if (handleOut b d req.code value index 0).2 then some [] else none) :=
  handleSetup_outCode ..

theorem handleSetup_inp (b : Board) (env : Env) (d : UsbIoDevice) (req : Request)
    (index len : UInt16) :
    handleSetup b env d (.inp req index len) = handleIn b env d req.code index len :=
  handleSetup_inCode ..

/-- handle_usb_disconnected(). -/
def handleUsbDisconnected (d : UsbIoDevice) : UsbIoDevice :=
  { d with stream := { d.stream with running := false, nChannels := 0 } }

/-- An IN packet that is answered was for handle_in(). -/
theorem handleSetup_in {b : Board} {env : Env} {d d' : UsbIoDevice} {s : SetupPacket}
    {reply : List UInt8} (asks : s.isIn = true)
    (answered : handleSetup b env d s = (d', some reply)) :
    handleIn b env d s.bRequest s.index s.wLength = (d', some reply) := by
  have served : dispatch b env d s = handleIn b env d s.bRequest s.index s.wLength := if_pos asks
  rw [← served]
  unfold handleSetup at answered
  split at answered
  · exact absurd (congrArg Prod.snd answered) (by simp)
  · split at answered
    · exact answered
    · split at answered
      · split at answered
        · exact answered
        · exact absurd (congrArg Prod.snd answered) (by simp)
      · exact absurd (congrArg Prod.snd answered) (by simp)

end ArduinoDriver
