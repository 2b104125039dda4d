import Cellbook.Channel.Basic
import Cellbook.Radio.Gatt

/-!
# Radio channel

Sends octets to the central, cut into notifications.  With no central connected they are dropped.
-/

namespace Cellbook.Radio.GattServer

variable {γ : Type} (server : GattServer γ)

/-- Notifies fragments in order and stops at the first that fails. -/
def notifyAll : γ → List Bytes → γ × Except RadioFault Unit
  | state, [] => (state, .ok ())
  | state, fragment :: rest =>
    match server.notify state fragment with
    | (state, .ok ()) => notifyAll state rest
    | (state, .error report) => (state, .error (.notify report))

/-- Notifies the central of any number of octets. -/
def send (state : γ) (octets : Bytes) : γ × Except RadioFault Unit :=
  match server.isConnected state with
  | (state, true) => server.notifyAll state (Base64.cut notifySize octets)
  | (state, false) => (state, .ok ())

/-- Notifies the central of a text. -/
def sendText (state : γ) (text : String) : γ × Except RadioFault Unit :=
  server.send state (Text.encode text)

/-- Prints a text to the central; a failure is dropped. -/
def print (state : γ) (text : String) : γ := (server.sendText state text).1

/-- The channel to the central. -/
def channel : Channel γ where
  send state octets :=
    let (state, outcome) := server.send state octets
    (state, outcome.mapError fun fault => ⟨.other, fault.message⟩)

/-- Begins to advertise under a name. -/
def startAdvertising (state : γ) (name : String) : γ × Except RadioFault Unit :=
  let (state, outcome) := server.advertise state name
  (state, outcome.mapError .advertise)

end Cellbook.Radio.GattServer
