import ConfinedHttp.Json.Scan

/-!
Decoders of JSON text.  A decoder reads one value at the start of an input.  When it fails it also
tells where in the value.
-/

namespace ConfinedHttp.Json

/-- A decoder reads one value, with the blanks before it. -/
abbrev Decoder (α : Type) := (input : Bytes) → Except Failure (Parsed α input)

/-- A failure of the value itself and not of one inside it. -/
def here (category : Category) : Failure := ⟨category, []⟩

/-- This function places the failures of a scanner at the value itself. -/
def Scanner.atValue {α : Type} (scan : Scanner α) : Decoder α := fun input =>
  (scan input).mapError here

/-- What follows in a list or an object: its end, or one more element. -/
inductive Turn (input : Bytes) where
  | close (rest : Bytes) (shorter : rest.length < input.length)
  | element (start : Bytes) (fits : start.length ≤ input.length)

theorem length_lt_of_skipGap {input rest : Bytes} {byte : UInt8}
    (found : skipGap input = byte :: rest) : rest.length < input.length := by
  have bound := length_skipGap_le input
  rw [found, List.length_cons] at bound
  exact bound

/-- This function finds the next element.  A comma stands before each but the first. -/
def nextElement (closing : UInt8) (isFirst : Bool) (input : Bytes) : Except Category (Turn input) :=
  match found : skipGap input with
  | [] => .error .endOfText
  | byte :: rest =>
    have shorter := length_lt_of_skipGap found
    if byte = closing then .ok (.close rest shorter)
    else if isFirst then .ok (.element (byte :: rest) shorter)
    else if byte = 0x2C then
      match again : skipGap rest with
      | [] => .error .endOfText
      | next :: behind =>
        if next = closing then .error .malformed
        else .ok (.element (next :: behind) (by
          have bound := length_skipGap_le rest
          rw [again] at bound
          omega))
    else .error .malformed

/-- This function reads the items of a list behind its opening bracket. -/
def decodeItems {α : Type} (item : Decoder α) (index : Nat) : Decoder (List α) := fun input =>
  match nextElement 0x5D (index == 0) input with
  | .error category => .error (here category)
  | .ok (.close rest shorter) => .ok ⟨[], rest, shorter⟩
  | .ok (.element start fits) =>
    match item start with
    | .error failure => .error (failure.inside (.item index))
    | .ok first =>
      have := first.shorter
      (decodeItems item (index + 1) first.rest).map fun others =>
        (others.widen (by omega)).map (first.value :: ·)
termination_by input => input.length

/-- This function reads a key, which is a string. -/
def scanKey : Scanner String
  | 0x22 :: rest => (scanString rest).map (·.behind 0x22)
  | _ => .error .malformed

/-- This function passes over the colon between a key and its value. -/
def scanColon : Scanner Unit := fun input =>
  match found : skipGap input with
  | [] => .error .endOfText
  | byte :: rest =>
    if byte = 0x3A then .ok ⟨(), rest, length_lt_of_skipGap found⟩ else .error .malformed

/-- This function reads the members of an object behind its opening bracket.  The decoder of a
value depends on its key.  A key that was seen before is refused unless it may repeat. -/
def decodeMembers {α : Type} (mayRepeat : String → Bool) (member : String → Decoder α)
    (seen : List String) : Decoder (List (String × α)) := fun input =>
  match nextElement 0x7D seen.isEmpty input with
  | .error category => .error ⟨category, [.unknown]⟩
  | .ok (.close rest shorter) => .ok ⟨[], rest, shorter⟩
  | .ok (.element start fits) =>
    match scanKey start with
    | .error category => .error ⟨category, [.unknown]⟩
    | .ok key =>
      if seen.contains key.value && !mayRepeat key.value then .error (here .unsuitable)
      else
        match scanColon key.rest with
        | .error category => .error (here category)
        | .ok colon =>
          match member key.value colon.rest with
          | .error failure => .error (failure.inside (.member key.value))
          | .ok first =>
            have := key.shorter
            have := colon.shorter
            have := first.shorter
            (decodeMembers mayRepeat member (key.value :: seen) first.rest).map fun others =>
              (others.widen (by omega)).map ((key.value, first.value) :: ·)
termination_by input => input.length

/-- This function reads one of the three words behind its first letter. -/
def scanWordOf (first : UInt8) (rest : Bytes) :
    Except Category { behind : Bytes // behind.length ≤ rest.length } :=
  if first = 0x6E then scanWord (textBytes "ull") rest
  else if first = 0x74 then scanWord (textBytes "rue") rest
  else if first = 0x66 then scanWord (textBytes "alse") rest
  else .error .malformed

/-- This function reads a value that is neither a list nor an object.  It is given the scanners of
strings and numbers, and the value of each word. -/
def scanScalar {α : Type} (text : Scanner α) (number : Scanner α) (word : UInt8 → α) : Scanner α
  | [] => .error .endOfText
  | byte :: rest =>
    if byte = 0x22 then (text rest).map (·.behind byte)
    else if byte = 0x2D ∨ isDigit byte then number (byte :: rest)
    else
      (scanWordOf byte rest).map fun behind => Parsed.ofBehind byte (word byte) behind

/-- This function reads a string, a number or a word. -/
def scanValue : Scanner Value :=
  scanScalar (fun input => (scanString input).map (·.map .string))
    (fun input => (scanNumber input).map (·.map .number))
    fun first => if first = 0x6E then .null else .bool (first == 0x74)

/-- This function starts a value behind the blanks before it. -/
def atToken {α : Type} (read : Decoder α) : Decoder α := fun input =>
  if (skipGap input).isEmpty then .error (here .endOfText)
  else (read (skipGap input)).map fun parsed => parsed.widen (length_skipGap_le input)

/-- This function reads a value, given the decoders behind the two opening brackets. -/
def decodeWith (items : Decoder (List Value)) (members : Decoder (List (String × Value))) :
    Decoder Value :=
  atToken fun token =>
    match token with
    | 0x5B :: rest => (items rest).map fun parsed => (parsed.behind 0x5B).map .array
    | 0x7B :: rest =>
      (members rest).map fun parsed =>
        (parsed.behind 0x7B).map fun entries => .object (Json.members entries)
    | other => scanValue.atValue other

/-- This function reads a value with at most `depth` lists and objects around any value inside. -/
def decodeValue : Nat → Decoder Value
  | 0 => decodeWith (fun _ => .error (here .malformed)) (fun _ => .error (here .malformed))
  | depth + 1 =>
    decodeWith (decodeItems (decodeValue depth) 0)
      (decodeMembers (fun _ => true) (fun _ => decodeValue depth) [])

/-- The greatest depth of a document. -/
def greatestDepth : Nat := 127

namespace Decoder

/-- Any value at all. -/
def any : Decoder Value := decodeValue greatestDepth

def map {α β : Type} (change : α → β) (decoder : Decoder α) : Decoder β := fun input =>
  (decoder input).map (·.map change)

/-- A decoded value may still be refused. -/
def refine {α β : Type} (accept : α → Option β) (decoder : Decoder α) : Decoder β := fun input => do
  let parsed ← decoder input
  match accept parsed.value with
  | some value => .ok (parsed.map fun _ => value)
  | none => .error (here .unsuitable)

/-- This function tells why a value of another kind is refused.  A string, a number or a word is
read first, and what is wrong with its text counts more. -/
def mismatch (token : Bytes) : Failure :=
  match token with
  | 0x5B :: _ => here .unsuitable
  | 0x7B :: _ => here .unsuitable
  | other =>
    match scanValue other with
    | .error category => here category
    | .ok _ => here .unsuitable

/-- A string. -/
def text : Decoder String :=
  atToken fun token =>
    match token with
    | 0x22 :: rest => ((scanString rest).mapError here).map (·.behind 0x22)
    | other => .error (mismatch other)

/-- An integer between two bounds. -/
def integer (least greatest : Int) : Decoder Int :=
  atToken fun token =>
    match token with
    | byte :: rest =>
      if byte = 0x2D ∨ isDigit byte then do
        let number ← scanNumber.atValue (byte :: rest)
        match number.value with
        | .integer value =>
          if least ≤ value ∧ value ≤ greatest then .ok (number.map fun _ => value)
          else .error (here .unsuitable)
        | .real _ => .error (here .unsuitable)
      else .error (mismatch (byte :: rest))
    | [] => .error (here .endOfText)

/-- A list. -/
def list {α : Type} (item : Decoder α) : Decoder (List α) :=
  atToken fun token =>
    match token with
    | 0x5B :: rest => (decodeItems item 0 rest).map (·.behind 0x5B)
    | other => .error (mismatch other)

/-- The members of an object in the order of their text. -/
def members {α : Type} (mayRepeat : String → Bool) (member : String → Decoder α) :
    Decoder (List (String × α)) :=
  atToken fun token =>
    match token with
    | 0x7B :: rest =>
      (decodeMembers mayRepeat member [] rest).map (·.behind 0x7B)
    | other => .error (mismatch other)

/-- An object whose values are of one kind, in the order of its keys.  Of equal keys the last one
counts. -/
def dictionary {α : Type} (value : Decoder α) : Decoder (List (String × α)) :=
  (members (fun _ => true) fun _ => value).map Json.members

/-- The word `null` or a value. -/
def optional {α : Type} (value : Decoder α) : Decoder (Option α) :=
  atToken fun token =>
    match token with
    | 0x6E :: rest =>
      ((scanWord (textBytes "ull") rest).mapError here).map fun behind =>
        Parsed.ofBehind 0x6E none behind
    | other => (value other).map (·.map some)

/-- This function passes over the closing bracket of a list that can hold no further item. -/
def closeList : Scanner Unit := fun input =>
  match found : skipGap input with
  | [] => .error .endOfText
  | byte :: rest =>
    if byte = 0x5D then .ok ⟨(), rest, length_lt_of_skipGap found⟩ else .error .malformed

/-- This function reads a list with one item for each decoder, behind the opening bracket. -/
def decodeEach {α : Type} (index : Nat) : List (Decoder α) → Decoder (List α)
  | [], input => (closeList.atValue input).map (·.map fun _ => [])
  | item :: others, input =>
    match nextElement 0x5D (index == 0) input with
    | .error category => .error (here category)
    | .ok (.close _ _) => .error (here .unsuitable)
    | .ok (.element start fits) =>
      match item start with
      | .error failure => .error (failure.inside (.item index))
      | .ok first =>
        (decodeEach (index + 1) others first.rest).map fun rest =>
          (rest.widen (by have := first.shorter; omega)).map (first.value :: ·)

/-- A list with one item for each decoder. -/
def each {α : Type} (items : List (Decoder α)) : Decoder (List α) :=
  atToken fun token =>
    match token with
    | 0x5B :: rest => (decodeEach 0 items rest).map (·.behind 0x5B)
    | other => .error (mismatch other)

/-- A pair of strings. -/
def textPair : Decoder (String × String) :=
  (each [text, text]).refine fun
    | [key, value] => some (key, value)
    | _ => none

/-- This function reads a value that opens a list or an object, or the whole of another value.  It
tells what was opened, with `true` for an object. -/
def skipToken : Scanner (Option Bool) := fun input =>
  match found : skipGap input with
  | [] => .error .endOfText
  | byte :: rest =>
    have shorter := length_lt_of_skipGap found
    if byte = 0x5B then .ok ⟨some false, rest, shorter⟩
    else if byte = 0x7B then .ok ⟨some true, rest, shorter⟩
    else
      (scanScalar (fun input => (skipString input).map (·.map fun _ => none))
        (fun input => (scanLiteral .malformed input).map (·.map fun _ => none))
        (fun _ => none) (byte :: rest)).map fun parsed => parsed.widen shorter

/-- This function passes over a key and its colon. -/
def skipKey : Scanner Unit := fun input =>
  match found : skipGap input with
  | [] => .error .endOfText
  | byte :: rest =>
    if byte = 0x22 then do
      let key ← skipString rest
      let colon ← scanColon key.rest
      .ok ⟨(), colon.rest, by
        have := length_lt_of_skipGap found
        have := key.shorter
        have := colon.shorter
        omega⟩
    else .error .malformed

/-- This function passes over what is left of the lists and objects that are still open, the
innermost first. -/
def skipOpen (enclosing : List Bool) (isFirst : Bool) (input : Bytes) :
    Except Category { rest : Bytes // rest.length ≤ input.length } :=
  match enclosing with
  | [] => .ok ⟨input, Nat.le_refl _⟩
  | isObject :: outer =>
    match found : skipGap input with
    | [] => .error .endOfText
    | byte :: rest =>
      have shorter := length_lt_of_skipGap found
      if byte = (if isObject then 0x7D else 0x5D) then
        (skipOpen outer false rest).map fun behind =>
          ⟨behind.val, by have := behind.property; omega⟩
      else if !isFirst && byte != 0x2C then .error .malformed
      else do
        let start : { start : Bytes // start.length ≤ input.length } :=
          if isFirst then ⟨byte :: rest, shorter⟩ else ⟨rest, Nat.le_of_lt shorter⟩
        let value : { value : Bytes // value.length ≤ input.length } ←
          if isObject then
            (skipKey start.val).map fun key =>
              ⟨key.rest, by have := key.shorter; have := start.property; omega⟩
          else .ok start
        let token ← skipToken value.val
        have := token.shorter
        have := value.property
        (skipOpen (token.value.toList ++ enclosing) token.value.isSome token.rest).map fun behind =>
          ⟨behind.val, by have := behind.property; omega⟩
termination_by input.length

/-- Any value, however deep, passed over without a look at its strings and numbers. -/
def skipped : Decoder Unit := fun input =>
  Except.mapError here do
    let token ← skipToken input
    let behind ← skipOpen token.value.toList true token.rest
    .ok ⟨(), behind.val, Nat.lt_of_le_of_lt behind.property token.shorter⟩

/-- A part of a record: its name, its decoder, and what stands for it when it is missing. -/
structure Field (α : Type) where
  name : String
  decoder : Decoder α
  missing : Option α

/-- This function decodes the member of a record with the given name.  There is no value for a name
that the record does not have. -/
def fieldValue {α : Type} (fields : List (Field α)) (name : String) : Decoder (Option α) :=
  match fields.find? (·.name == name) with
  | some field => field.decoder.map some
  | none => skipped.map fun _ => none

/-- This function puts the values of a record in the order of its fields. -/
def arrange {α : Type} (fields : List (Field α)) (entries : List (String × Option α)) :
    Option (List (String × α)) :=
  fields.mapM fun field =>
    match (entries.lookup field.name).join with
    | some value => some (field.name, value)
    | none => field.missing.map fun value => (field.name, value)

/-- A record is an object with its fields in any order, or a list of all its values. -/
def record {α : Type} (fields : List (Field α)) : Decoder (List (String × α)) :=
  atToken fun token =>
    match token with
    | 0x5B :: rest =>
      (decodeEach 0 (fields.map (·.decoder)) rest).map fun parsed =>
        (parsed.behind 0x5B).map fun values => (fields.map (·.name)).zip values
    | other =>
      (members (fun name => !fields.any (·.name == name)) (fieldValue fields)).refine
        (arrange fields) other

/-- One of several words, alone or as the only key of an object with no value. -/
def choice {α : Type} (choices : List (String × α)) : Decoder α :=
  atToken fun token =>
    match token with
    | 0x22 :: rest => do
      let word ← scanString.atValue rest
      match choices.lookup word.value with
      | some value => .ok ((word.behind 0x22).map fun _ => value)
      | none => .error (here .unsuitable)
    | 0x7B :: rest => do
      let word ← text rest
      match choices.lookup word.value with
      | none => .error (here .unsuitable)
      | some value =>
        let colon ← scanColon.atValue word.rest
        let behind ← match optional (fun other => .error (mismatch other)) colon.rest with
          | .error failure => .error (failure.inside (.member word.value))
          | .ok (absent : Parsed (Option Unit) colon.rest) => .ok absent
        match found : skipGap behind.rest with
        | [] => .error (here .endOfText)
        | byte :: rest' =>
          if byte = 0x7D then
            .ok ⟨value, rest', by
              have := length_lt_of_skipGap found
              have := word.shorter
              have := colon.shorter
              have := behind.shorter
              simp only [List.length_cons]
              omega⟩
          else .error (here .malformed)
    | _ => .error (here .malformed)

/-- This function decodes a text that holds one value and nothing else. -/
def document {α : Type} (decoder : Decoder α) (text : Bytes) : Except Failure α := do
  let parsed ← decoder text
  if (skipGap parsed.rest).isEmpty then .ok parsed.value else .error (here .malformed)

end Decoder

end ConfinedHttp.Json
