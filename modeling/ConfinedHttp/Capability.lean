import ConfinedHttp.Json.Value
import ConfinedHttp.Text.Outline

/-!
Capabilities: what an add-on may be granted.  Only the identifier counts when two are compared.
-/

namespace ConfinedHttp

/-- A permission with the texts that a consent screen shows. -/
structure Capability where
  identifier : String
  label : String
  description : String
deriving DecidableEq, Repr

namespace Capability

/-- Two capabilities are the same when their identifiers are equal. -/
def same (left right : Capability) : Bool := left.identifier == right.identifier

/-- This function compares the bytes of the identifiers. -/
def order (left right : Capability) : Ordering :=
  if same left right then .eq
  else if precedes left.identifier right.identifier then .lt else .gt

/-- The hash agrees with the comparison. -/
instance : Hashable Capability := ⟨fun capability => hash capability.identifier⟩

def outline (capability : Capability) : Outline :=
  .tuple "Capability" [.ofText capability.identifier]

def toJson (capability : Capability) : Json.Value :=
  .object [("identifier", .string capability.identifier), ("label", .string capability.label),
    ("description", .string capability.description)]

end Capability

/-- Capabilities with different identifiers, in the order of their bytes. -/
structure CapabilitySet where
  members : List Capability
deriving DecidableEq, Repr

namespace CapabilitySet

/-- This function puts a capability in its place.  It takes the place of the same one. -/
def insert (capability : Capability) : List Capability → List Capability
  | [] => [capability]
  | next :: rest =>
    match capability.order next with
    | .eq => capability :: rest
    | .lt => capability :: next :: rest
    | .gt => next :: insert capability rest

/-- This function gathers declared capabilities.  Of equal identifiers the last one declared
stays. -/
def ofDeclared (declared : List Capability) : CapabilitySet :=
  ⟨declared.foldl (fun members capability => insert capability members) []⟩

def size (set : CapabilitySet) : Nat := set.members.length

def isEmpty (set : CapabilitySet) : Bool := set.members.isEmpty

def contains (set : CapabilitySet) (capability : Capability) : Bool :=
  set.members.any capability.same

def get? (set : CapabilitySet) (identifier : String) : Option Capability :=
  set.members.find? (·.identifier == identifier)

/-- Two sets are the same when they hold the same capabilities. -/
def same (left right : CapabilitySet) : Bool :=
  left.members.map (·.identifier) == right.members.map (·.identifier)

def outline (set : CapabilitySet) : Outline :=
  .record "CapabilitySet" [.field "members" (.set (set.members.map Capability.outline))] false

end CapabilitySet

/-! The capabilities of add-ons that store files. -/

namespace Storage

def access : Capability := ⟨"access", "Access", "Read the contents of stored items."⟩

def browse : Capability := ⟨"browse", "Browse", "List folders and item metadata."⟩

def commit : Capability :=
  ⟨"commit", "Commit", "Finalize pending changes in the external service."⟩

def update : Capability := ⟨"update", "Update", "Create, modify, and delete stored items."⟩

def capabilities : CapabilitySet := CapabilitySet.ofDeclared [access, browse, update, commit]

end Storage

end ConfinedHttp
