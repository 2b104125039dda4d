import Cellbook.Radio.Gatt

/-!
# Simulated radio

A server that keeps what it is asked to notify and advertise, and fails when told to.
-/

namespace Cellbook.Radio

/-- A simulated radio. -/
structure SimulatedRadio where
  connected : Bool := true
  /-- How many more notifications succeed, if not all. -/
  budget : Option Nat := none
  /-- What advertising reports, if it fails. -/
  advertiseReport : Option String := none
  notified : List Bytes := []
  advertised : List String := []
  deriving Repr, DecidableEq

namespace SimulatedRadio

/-- What a notification reports when no more succeed. -/
def busy : String := "radio busy"

/-- Keeps a notification, if one more succeeds. -/
def notify (radio : SimulatedRadio) (octets : Bytes) : SimulatedRadio × Except String Unit :=
  match radio.budget with
  | some 0 => (radio, .error busy)
  | some (n + 1) =>
    ({ radio with budget := some n, notified := radio.notified ++ [octets] }, .ok ())
  | none => ({ radio with notified := radio.notified ++ [octets] }, .ok ())

/-- Keeps a name advertised, unless advertising fails. -/
def advertise (radio : SimulatedRadio) (name : String) : SimulatedRadio × Except String Unit :=
  match radio.advertiseReport with
  | some report => (radio, .error report)
  | none => ({ radio with advertised := radio.advertised ++ [name] }, .ok ())

/-- The server of a simulated radio. -/
def server : GattServer SimulatedRadio :=
  ⟨fun radio => (radio, radio.connected), notify, advertise⟩

end SimulatedRadio

end Cellbook.Radio
