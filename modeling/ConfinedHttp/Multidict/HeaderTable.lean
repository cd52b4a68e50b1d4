import ConfinedHttp.Text.Utf8

/-!
The table in which headers are found by name.  Each name has a hash, and the hash says at which place
the name belongs.  A name whose place is taken stands behind it, and one that has come further pushes on
those that have come less far.  A table in which names come very far either grows, although it is not
full, or hashes names with a secret from then on.
-/

namespace ConfinedHttp

/-- How hard a table looks for names.  In a crowded table some name has come very far or has pushed on
many others.  A guarded table hashes names with a secret. -/
inductive Danger where
  | calm
  | crowded
  | guarded
deriving DecidableEq, Repr

/-- The hashes of names at their places, and how many names there are.  The places of a guarded table
do not depend on the names, so it holds no hashes. -/
structure HeaderTable where
  slots : Array (Option Nat)
  used : Nat
  danger : Danger
deriving DecidableEq, Repr

namespace HeaderTable

/-- A table has at most this many places. -/
def greatest : Nat := 32768

/-- A name in a calm table comes less far than this. -/
def farthest : Nat := 512

/-- A name in a calm table pushes on fewer names than this. -/
def mostPushed : Nat := 128

def places (table : HeaderTable) : Nat := table.slots.size

/-- A fourth of the places is kept free. -/
def capacity (table : HeaderTable) : Nat := table.places - table.places / 4

/-- This function gives the least power of two that is as large as a number. -/
def powerFrom (number : Nat) : Nat :=
  if number ≤ 1 then 1 else Nat.pow 2 ((number - 1).log2 + 1)

/-- The size of a table for a number of headers. -/
def placesFor (count : Nat) : Nat := if count = 0 then 0 else powerFrom (count + count / 3)

/-- This function makes an empty table for a number of headers. -/
def make? (count : Nat) : Option HeaderTable :=
  if placesFor count ≤ greatest then some ⟨.replicate (placesFor count) none, 0, .calm⟩ else none

section Places

variable (slots : Array (Option Nat))

/-- This function gives the place behind another one.  The first place is behind the last one. -/
def behind (place : Nat) : Nat := (place + 1) % slots.size

/-- This function tells how far a place is behind the one where a hash belongs. -/
def distance (hash place : Nat) : Nat := (place + slots.size - hash % slots.size) % slots.size

/-- This function puts a hash at the first free place from one on. -/
def settle (slots : Array (Option Nat)) (hash place : Nat) : Nat → Array (Option Nat)
  | 0 => slots
  | turns + 1 =>
    match slots[place]? with
    | some (some _) => settle slots hash (behind slots place) turns
    | _ => slots.set! place (some hash)

/-- This function puts a hash at a place and pushes on what stands there up to the next free place.
It counts how many are pushed on. -/
def push (slots : Array (Option Nat)) (hash place : Nat) : Nat → Array (Option Nat) × Nat
  | 0 => (slots, 0)
  | turns + 1 =>
    match slots[place]? with
    | some (some other) =>
      let (pushed, count) := push (slots.set! place (some hash)) other (behind slots place) turns
      (pushed, count + 1)
    | _ => (slots.set! place (some hash), 0)

/-- This function looks for the place of a new hash: the first one that is free or whose hash has come
less far.  It tells whether the table has become crowded. -/
def probe (slots : Array (Option Nat)) (hash place far : Nat) : Nat → Array (Option Nat) × Bool
  | 0 => (slots, false)
  | turns + 1 =>
    match slots[place]? with
    | some (some other) =>
      if distance slots other place < far then
        let (pushed, count) := push slots hash place slots.size
        (pushed, farthest ≤ far || mostPushed ≤ count)
      else probe slots hash (behind slots place) (far + 1) turns
    | _ => (slots.set! place (some hash), false)

/-- This function gives the first place at which a hash belongs that stands there. -/
def firstAtHome : Nat :=
  (List.range slots.size).find? (fun place =>
    match slots[place]? with
    | some (some hash) => distance slots hash place == 0
    | _ => false) |>.getD 0

/-- This function puts every hash at its place among more places.  It starts with one that stands where
it belongs, so that no hash has to be pushed on. -/
def spread (places : Nat) : Array (Option Nat) :=
  let first := firstAtHome slots
  let hashes := (slots.toList.drop first ++ slots.toList.take first).reduceOption
  hashes.foldl (fun larger hash => settle larger hash (hash % places) places)
    (.replicate places none)

end Places

/-- This function gives a table more places, if there is a table of that size. -/
def grow? (table : HeaderTable) (places : Nat) : Option HeaderTable :=
  if places ≤ greatest then some { table with slots := spread table.slots places } else none

/-- This function makes room for one more name.  A full table is doubled.  A crowded table is doubled when
a fifth of its places is taken, and is guarded from then on otherwise. -/
def reserve? (table : HeaderTable) : Option HeaderTable :=
  if table.danger = .crowded then
    if table.places ≤ 5 * table.used then
      grow? { table with danger := .calm } (2 * table.places)
    else some { table with slots := .replicate table.places none, danger := .guarded }
  else if table.used = table.capacity then
    table.grow? (if table.used = 0 then 8 else 2 * table.places)
  else some table

/-- This function puts a new hash into a table with room for it. -/
def hold (table : HeaderTable) (hash : Nat) : HeaderTable :=
  if table.danger = .guarded then { table with used := table.used + 1 }
  else
    let (slots, crowds) := probe table.slots hash (hash % table.places) 0 table.places
    { slots, used := table.used + 1, danger := if crowds then .crowded else table.danger }

/-- This function takes a name.  Room is made for a name that is known as well. -/
def take? (table : HeaderTable) (hash : Nat) (known : Bool) : Option HeaderTable :=
  table.reserve?.map fun roomy => if known then roomy else roomy.hold hash

/-- The hash of a name that is none of the common ones.  Each byte of the name is mixed in behind a mark
that tells such names apart from the common ones. -/
def nameHash (name : String) : Nat :=
  (([1, 0, 0, 0, 0, 0, 0, 0] ++ textBytes name).foldl
    (fun (mixed : UInt64) (byte : UInt8) => (mixed ^^^ byte.toUInt64) * 0x100000001B3)
    0xCBF29CE484222325).toNat

end HeaderTable

end ConfinedHttp
