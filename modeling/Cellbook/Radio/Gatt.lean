import Cellbook.Text.Quoted
import Cellbook.Text.Utf8

/-!
# GATT servers

The peripheral's side of a radio link: a service with one characteristic, over which a central
writes commands and is notified of output.
-/

namespace Cellbook.Radio

/-- The largest payload of one notification, in octets. -/
def notifySize : Nat := 180

/-- The name advertised unless another is configured. -/
def defaultDeviceName : String := "unotebook"

/-- The identifier c5f50001-8280-46da-89f4-6d8051e4aeef of the service. -/
def serviceUuid : Bytes :=
  [0xc5, 0xf5, 0x00, 0x01, 0x82, 0x80, 0x46, 0xda, 0x89, 0xf4, 0x6d, 0x80, 0x51, 0xe4, 0xae, 0xef]

/-- The identifier c5f50002-8280-46da-89f4-6d8051e4aeef of the characteristic. -/
def commandUuid : Bytes :=
  [0xc5, 0xf5, 0x00, 0x02, 0x82, 0x80, 0x46, 0xda, 0x89, 0xf4, 0x6d, 0x80, 0x51, 0xe4, 0xae, 0xef]

/-- A server with state `γ`; what it reports as a failure is a text.  A central may come and go at
any time, so the state may move on whenever the server is asked for anything. -/
structure GattServer (γ : Type) where
  /-- Whether a central is connected. -/
  isConnected : γ → γ × Bool
  /-- Notifies the central of at most `notifySize` octets. -/
  notify : γ → Bytes → γ × Except String Unit
  /-- Begins to advertise under a name. -/
  advertise : γ → String → γ × Except String Unit

/-- Trouble with the radio, and what the server reported. -/
inductive RadioFault where
  | notify (report : String)
  | advertise (report : String)
  deriving Repr, DecidableEq

/-- The message of a fault. -/
def RadioFault.message : RadioFault → String
  | .notify report => "notify failed: " ++ Text.quote report
  | .advertise report => "advertising failed: " ++ Text.quote report

end Cellbook.Radio
