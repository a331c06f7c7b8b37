import CanScope.Frame.Key

/-!
# Events on a channel

An event carries frames received from a CAN bus, frames that wait to be sent, or the name of
anything else. Only frames of the first kind are shown. `CanFrame.fault?` says whether a controller
could have produced a frame: addresses have at most 29 bits and payloads at most 64 bytes.
-/
namespace CanScope

structure CanFrame where
  bus : UInt8
  address : UInt32
  data : List UInt8
  deriving DecidableEq, Repr

inductive CanFrame.Fault where
  | address (address : UInt32)
  | payload (size : Nat) (address : UInt32)
  deriving DecidableEq, Repr

namespace CanFrame

/-- The greatest extended arbitration id. -/
def maxAddress : Nat := 0x1FFFFFFF

def maxPayload : Nat := 64

/-- The first rule that a frame breaks; the address comes first. -/
def fault? (f : CanFrame) : Option Fault :=
  if maxAddress < f.address.toNat then some (.address f.address)
  else if maxPayload < f.data.length then some (.payload f.data.length f.address)
  else none

def key (f : CanFrame) : Key := ⟨f.bus, f.address⟩

def Fault.message : Fault → String
  | .address a => "address 0x" ++ Text.hex 1 a.toNat ++ " exceeds 29 bits"
  | .payload size a =>
    "payload of " ++ toString size ++ " bytes on " ++ Key.addressText a ++ " exceeds " ++
      toString maxPayload

end CanFrame

inductive Content where
  | can (frames : List CanFrame)
  /-- Frames that wait to be sent. -/
  | sendcan (frames : List CanFrame)
  | other (name : String)
  deriving DecidableEq, Repr

structure Event where
  content : Content
  /-- What the publisher said of the event; its frames inherit it. -/
  valid : Bool
  /-- The publisher's clock. It is carried along and never looked at. -/
  publisherTime : Nat
  deriving DecidableEq, Repr

namespace Event

def ofFrames (frames : List CanFrame) : Event := ⟨.can frames, true, 0⟩

def canFrames? (e : Event) : Option (List CanFrame) :=
  match e.content with
  | .can frames => some frames
  | _ => none

/-- The received frames, none if the event carries something else. -/
def canFrames (e : Event) : List CanFrame := e.canFrames?.getD []

end Event

end CanScope
