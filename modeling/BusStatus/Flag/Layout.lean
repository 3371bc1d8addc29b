import BusStatus.Error
import BusStatus.Flag.Table
import BusStatus.Text.Blank

/-!
# Layouts

The published assignments of bits to flags. The assignment changed between firmware revisions, so a
word is read with the layout of the revision that produced it.
-/

namespace BusStatus

/-- A published assignment of bits to flags. -/
inductive Layout where
  /-- The assignment of the current firmware header, for single words. -/
  | decoder
  /-- The assignment with which the captured ring was recorded. -/
  | capture
deriving DecidableEq, Repr

namespace Layout

/-- All layouts in the order in which they are listed. -/
def all : List Layout := [.decoder, .capture]

/-- The layout that is used when none is named. -/
instance : Inhabited Layout := ⟨.decoder⟩

def name : Layout → String
  | .decoder => "decoder"
  | .capture => "capture"

/-! ## The tables -/

/-- The flags of the current firmware header. -/
def decoderFlags : List (String × Word) :=
  [("JD_SERIAL_RECEIVING", 0x0001),
   ("JD_SERIAL_RECEIVING_HEADER", 0x0002),
   ("JD_SERIAL_TRANSMITTING", 0x0004),
   ("JD_SERIAL_RX_LO_PULSE", 0x0008),
   ("JD_SERIAL_TX_LO_PULSE", 0x0010),
   ("JD_SERIAL_BUS_LO_ERROR", 0x0020),
   ("JD_SERIAL_BUS_TIMEOUT_ERROR", 0x0040),
   ("JD_SERIAL_BUS_UART_ERROR", 0x0080),
   ("JD_SERIAL_ERR_MSK", 0x00E0),
   ("JD_SERIAL_BUS_STATE", 0x0100),
   ("JD_SERIAL_BUS_TOGGLED", 0x0200),
   ("DEVICE_COMPONENT_RUNNING", 0x1000),
   ("JD_SERIAL_DEBUG_BIT", 0x8000)]

/-- The flags of the captured ring: bit 0 is unused, and the receive and transmit bits stand one
position higher than in `decoderFlags`. -/
def captureFlags : List (String × Word) :=
  [("JD_SERIAL_RECEIVING", 0x0002),
   ("JD_SERIAL_RECEIVING_HEADER", 0x0004),
   ("JD_SERIAL_TRANSMITTING", 0x0008),
   ("JD_SERIAL_TX_DRAIN_ENABLE", 0x0010),
   ("JD_SERIAL_BUS_LO_ERROR", 0x0020),
   ("JD_SERIAL_BUS_TIMEOUT_ERROR", 0x0040),
   ("JD_SERIAL_BUS_UART_ERROR", 0x0080),
   ("JD_SERIAL_ERR_MSK", 0x00E0),
   ("JD_SERIAL_BUS_STATE", 0x0100),
   ("JD_SERIAL_BUS_TOGGLED", 0x0200),
   ("JD_SERIAL_LO_PULSE_START", 0x0400),
   ("DEVICE_COMPONENT_RUNNING", 0x1000)]

def table : Layout → FlagTable
  | .decoder => .ofList decoderFlags
  | .capture => .ofList captureFlags

/-! ## Finding a layout by its name -/

/-- Two texts differ at most in the case of ASCII letters. -/
def sameLetters (a b : List Char) : Bool :=
  a.map Char.toLower == b.map Char.toLower

/-- The layout of this name, with blanks around it and its letters in any case. -/
def ofString? (s : String) : Option Layout :=
  all.find? fun layout => sameLetters layout.name.toList (Text.trim s.toList)

/-- The layout of this name; a refusal gives the name back as it was given. -/
def parse (s : String) : Except StatusError Layout :=
  match ofString? s with
  | some layout => .ok layout
  | none => .error (.unknownLayout s)

end Layout

end BusStatus
