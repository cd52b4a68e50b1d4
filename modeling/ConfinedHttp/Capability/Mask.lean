import ConfinedHttp.Capability
import ConfinedHttp.Error
import ConfinedHttp.Json.Decoder

/-!
Masks: granted capabilities as the bits of one number.
-/

namespace ConfinedHttp

/-- The capabilities that have a bit of their own. -/
inductive Flag where
  | access
  | browse
  | update
  | commit
deriving DecidableEq, Repr

namespace Flag

/-- All flags in the order of their bits. -/
def all : List Flag := [access, browse, update, commit]

def bit : Flag → UInt32
  | access => 1
  | browse => 2
  | update => 4
  | commit => 8

def capability : Flag → Capability
  | access => Storage.access
  | browse => Storage.browse
  | update => Storage.update
  | commit => Storage.commit

def name : Flag → String
  | access => "Access"
  | browse => "Browse"
  | update => "Update"
  | commit => "Commit"

def ofName? (name : String) : Option Flag := all.find? (·.name == name)

end Flag

/-- A set of flags as it is stored. -/
structure Mask where
  bits : UInt32
deriving DecidableEq, Repr

namespace Mask

def empty : Mask := ⟨0⟩

def ofFlag (flag : Flag) : Mask := ⟨flag.bit⟩

/-- The bits that belong to a flag. -/
def knownBits : UInt32 := Flag.all.foldl (fun bits flag => bits ||| flag.bit) 0

/-- This function reads stored bits and refuses those that belong to no flag. -/
def ofBits (bits : UInt32) : Except InputError Mask :=
  let unknown := bits &&& ~~~knownBits
  if unknown = 0 then .ok ⟨bits⟩ else .error (.unknownBits unknown)

def isEmpty (mask : Mask) : Bool := mask.bits == 0

def contains (mask : Mask) (flag : Flag) : Bool := mask.bits &&& flag.bit != 0

def isSubset (left right : Mask) : Bool := left.bits &&& ~~~right.bits == 0

def union (left right : Mask) : Mask := ⟨left.bits ||| right.bits⟩

def inter (left right : Mask) : Mask := ⟨left.bits &&& right.bits⟩

/-- This function lists the flags in the order of their bits. -/
def flags (mask : Mask) : List Flag := Flag.all.filter mask.contains

def capabilities (mask : Mask) : List Capability := mask.flags.map Flag.capability

/-- This function joins masks.  No mask at all cannot be joined. -/
def combine : List Mask → Except InputError Mask
  | [] => .error .noFlags
  | first :: rest => .ok (rest.foldl union first)

def toJson (mask : Mask) : Json.Value := .number (.integer mask.bits.toNat)

/-- This function decodes stored bits. -/
def decoder : Json.Decoder Mask :=
  (Json.Decoder.integer 0 4294967295).refine fun bits =>
    (ofBits (UInt32.ofNat bits.toNat)).toOption

def outline (mask : Mask) : Outline := .set (mask.flags.map fun flag => .atom flag.name)

end Mask

end ConfinedHttp
