import ConfinedHttp.Json.Decoder
import ConfinedHttp.Proofs.Json.ScanReading

namespace ConfinedHttp

namespace Json

/-- Scanning a word takes just the word. -/
theorem scanWord_append (word rest : Bytes) :
    ∃ behind, scanWord word (word ++ rest) = .ok behind ∧ behind.val = rest := by
  induction word with
  | nil => cases rest <;> exact ⟨_, rfl, rfl⟩
  | cons byte others inductionHypothesis =>
    obtain ⟨behind, equal, same⟩ := inductionHypothesis
    rw [List.cons_append, scanWord, if_pos rfl, equal]
    exact ⟨_, rfl, same⟩

section Blanks

variable {α : Type} {read : Decoder α} {input : Bytes} {value : α} {rest : Bytes}

theorem skipGap_of_notGap (byte : UInt8) (rest : Bytes) (notGap : isGap byte = false) :
    skipGap (byte :: rest) = byte :: rest := by
  simp [skipGap, notGap]

/-- Blanks before a token are passed over. -/
theorem skipGap_append (before input : Bytes) (blank : ∀ byte ∈ before, isGap byte = true) :
    skipGap (before ++ input) = skipGap input := List.dropWhile_append_of_pos blank

/-- A value is read behind the blanks before it. -/
theorem takes_atToken_iff :
    Takes (atToken read input) value rest ↔
      (skipGap input).isEmpty = false ∧ Takes (read (skipGap input)) value rest := by
  unfold atToken
  constructor
  · intro taken
    split at taken
    case isTrue =>
      obtain ⟨_, equal, -⟩ := taken
      cases equal
    case isFalse some =>
      obtain ⟨parsed, equal, rfl, rfl⟩ := taken
      cases inner : read (skipGap input) with
      | error failure =>
        rw [inner] at equal
        cases equal
      | ok first =>
        rw [inner] at equal
        cases equal
        exact ⟨by simpa using some, first, rfl, rfl, rfl⟩
  · rintro ⟨some, taken⟩
    rw [if_neg (by simp [some])]
    exact taken.widen _

theorem Takes.atToken_append (before : Bytes) (blank : ∀ byte ∈ before, isGap byte = true)
    (taken : Takes (atToken read input) value rest) :
    Takes (atToken read (before ++ input)) value rest := by
  have same := skipGap_append before input blank
  rw [takes_atToken_iff] at taken ⊢
  rwa [same]

end Blanks

section Elements

variable {closing byte : UInt8} {isFirst : Bool} {input rest : Bytes}

/-- At the closing bracket and before the first element, no comma is looked for. -/
theorem nextElement_of_skipGap (found : skipGap input = byte :: rest)
    (decided : byte = closing ∨ isFirst = true) :
    nextElement closing isFirst input =
      if byte = closing then .ok (.close rest (length_lt_of_skipGap found))
      else .ok (.element (byte :: rest) (length_lt_of_skipGap found)) := by
  unfold nextElement
  split
  case h_1 none =>
    rw [found] at none
    cases none
  case h_2 head others again =>
    rw [found] at again
    cases again
    by_cases isClosing : byte = closing
    · rw [if_pos isClosing, if_pos isClosing]
    · rw [if_neg isClosing, if_neg isClosing, if_pos (decided.resolve_left isClosing)]

theorem nextElement_close (closing : UInt8) (notGap : isGap closing = false) (isFirst : Bool)
    (rest : Bytes) :
    ∃ shorter, nextElement closing isFirst (closing :: rest) = .ok (.close rest shorter) := by
  rw [nextElement_of_skipGap (skipGap_of_notGap closing rest notGap) (.inl rfl), if_pos rfl]
  exact ⟨_, rfl⟩

theorem nextElement_first (notGap : isGap byte = false) (notClosing : byte ≠ closing) :
    ∃ fits, nextElement closing true (byte :: rest) = .ok (.element (byte :: rest) fits) := by
  rw [nextElement_of_skipGap (skipGap_of_notGap byte rest notGap) (.inr rfl), if_neg notClosing]
  exact ⟨_, rfl⟩

theorem nextElement_comma (notComma : closing ≠ 0x2C) (notGap : isGap byte = false)
    (notClosing : byte ≠ closing) :
    ∃ fits, nextElement closing false (0x2C :: byte :: rest) =
      .ok (.element (byte :: rest) fits) := by
  have comma := skipGap_of_notGap 0x2C (byte :: rest) rfl
  have skipped := skipGap_of_notGap byte rest notGap
  refine ⟨Nat.le_succ _, ?_⟩
  unfold nextElement
  split
  case h_1 none =>
    rw [comma] at none
    cases none
  case h_2 head others found =>
    rw [comma] at found
    cases found
    rw [if_neg (Ne.symm notComma), if_neg (by decide), if_pos rfl]
    split
    case h_1 none =>
      rw [skipped] at none
      cases none
    case h_2 next behind again =>
      rw [skipped] at again
      cases again
      exact if_neg notClosing

/-- The first byte of a value is neither a blank nor a closing bracket. -/
def StartsValue (input : Bytes) : Prop :=
  ∃ byte tail, input = byte :: tail ∧ isGap byte = false ∧ byte ≠ 0x5D ∧ byte ≠ 0x7D

theorem StartsValue.append (starts : StartsValue input) (rest : Bytes) :
    StartsValue (input ++ rest) := by
  obtain ⟨byte, tail, rfl, different⟩ := starts
  exact ⟨byte, tail ++ rest, rfl, different⟩

/-- An element is found behind its comma, and the first one at once. -/
theorem nextElement_separated (starts : StartsValue input)
    (isClosing : closing = 0x5D ∨ closing = 0x7D) (isFirst : Bool) :
    ∃ fits, nextElement closing isFirst ((if isFirst then [] else [0x2C]) ++ input) =
      .ok (.element input fits) := by
  obtain ⟨byte, tail, rfl, notGap, notBracket, notBrace⟩ := starts
  have notClosing : byte ≠ closing := by
    rintro rfl
    exact isClosing.elim notBracket notBrace
  have notComma : closing ≠ 0x2C := by
    rintro rfl
    exact absurd isClosing (by decide)
  cases isFirst with
  | true => exact nextElement_first notGap notClosing
  | false => exact nextElement_comma notComma notGap notClosing

end Elements

/-- A decoder reads the text of a value, whatever stands behind it.  Behind a number, only its end
may stand. -/
def Reads {α : Type} (decoder : Decoder α) (written : Value) (result : α) : Prop :=
  ∀ rest, (∀ number, written = .number number → EndsNumber rest) →
    Takes (decoder (Utf8.encode written.write ++ rest)) result rest

theorem endsNumber_cons (byte : UInt8) (rest : Bytes)
    (ends : isDigit byte = false ∧ byte ≠ 0x2E ∧ byte ≠ 0x65 ∧ byte ≠ 0x45) :
    EndsNumber (byte :: rest) := by
  intro other isFirst
  rw [List.head?_cons, Option.mem_some_iff] at isFirst
  rwa [← isFirst]

/-- The separator of elements as a text and as bytes. -/
theorem encode_separator (isFirst : Bool) :
    Utf8.encode (if isFirst then [] else [',']) = if isFirst then [] else [0x2C] := by
  cases isFirst <;> rfl

section Lists

variable {α : Type} {item : Decoder α}

theorem takes_decodeItems_close {index : Nat} {input rest : Bytes}
    {shorter : rest.length < input.length}
    (found : nextElement 0x5D (index == 0) input = .ok (.close rest shorter)) :
    Takes (decodeItems item index input) [] rest := by
  rw [decodeItems]
  simp only [found]
  exact ⟨_, rfl, rfl, rfl⟩

theorem takes_decodeItems_cons {index : Nat} {input start middle rest : Bytes} {value : α}
    {values : List α} {fits : start.length ≤ input.length}
    (found : nextElement 0x5D (index == 0) input = .ok (.element start fits))
    (first : Takes (item start) value middle)
    (others : Takes (decodeItems item (index + 1) middle) values rest) :
    Takes (decodeItems item index input) (value :: values) rest := by
  obtain ⟨parsed, read, rfl, rfl⟩ := first
  rw [decodeItems]
  simp only [found, read]
  exact others.widen_map _ _

theorem endsNumber_writeItems (values : List Value) (rest : Bytes) :
    EndsNumber (Utf8.encode (Value.write.writeItems false values) ++ 0x5D :: rest) := by
  cases values with
  | nil => exact endsNumber_cons 0x5D rest (by decide)
  | cons value others => exact endsNumber_cons 0x2C _ (by decide)

/-- A written item stands behind its comma and before the other items. -/
theorem encode_writeItems_cons (isFirst : Bool) (item : Value) (others : List Value)
    (rest : Bytes) :
    Utf8.encode (Value.write.writeItems isFirst (item :: others)) ++ rest =
      (if isFirst then [] else [0x2C]) ++
        (Utf8.encode item.write ++ (Utf8.encode (Value.write.writeItems false others) ++ rest)) := by
  rw [Value.write.writeItems, Utf8.encode_append, Utf8.encode_append, encode_separator]
  simp only [List.append_assoc]

/-- Items are read up to the closing bracket of their list. -/
theorem takes_decodeItems (toValue : α → Value) (items : List α) (index : Nat) (rest : Bytes)
    (starts : ∀ entry ∈ items, StartsValue (Utf8.encode (toValue entry).write))
    (reads : ∀ entry ∈ items, Reads item (toValue entry) entry) :
    Takes (decodeItems item index
      (Utf8.encode (Value.write.writeItems (index == 0) (items.map toValue)) ++ 0x5D :: rest))
      items rest := by
  induction items generalizing index with
  | nil =>
    obtain ⟨shorter, found⟩ := nextElement_close 0x5D rfl (index == 0) rest
    exact takes_decodeItems_close found
  | cons entry others inductionHypothesis =>
    obtain ⟨startsEntry, startsOthers⟩ := List.forall_mem_cons.mp starts
    obtain ⟨readsEntry, readsOthers⟩ := List.forall_mem_cons.mp reads
    let tail := Utf8.encode (Value.write.writeItems false (others.map toValue)) ++ 0x5D :: rest
    obtain ⟨fits, found⟩ := nextElement_separated (startsEntry.append tail) (.inl rfl) (index == 0)
    have first := readsEntry tail fun _ _ => endsNumber_writeItems _ rest
    rw [List.map_cons, encode_writeItems_cons]
    exact takes_decodeItems_cons found first
      (inductionHypothesis (index + 1) startsOthers readsOthers)

end Lists

section Objects

variable {α : Type} {mayRepeat : String → Bool} {member : String → Decoder α}

theorem takes_scanKey (key : String) (rest : Bytes) :
    Takes (scanKey (Utf8.encode (writeString key) ++ rest)) key rest := by
  rw [encode_writeString]
  exact (takes_scanString key rest).widen _

theorem takes_scanColon (rest : Bytes) : Takes (scanColon (0x3A :: rest)) () rest := by
  have skipped := skipGap_of_notGap 0x3A rest rfl
  unfold scanColon
  split
  case h_1 none =>
    rw [skipped] at none
    cases none
  case h_2 byte others found =>
    rw [skipped] at found
    cases found
    exact ⟨_, if_pos rfl, rfl, rfl⟩

theorem takes_decodeMembers_close {seen : List String} {input rest : Bytes}
    {shorter : rest.length < input.length}
    (found : nextElement 0x7D seen.isEmpty input = .ok (.close rest shorter)) :
    Takes (decodeMembers mayRepeat member seen input) [] rest := by
  rw [decodeMembers]
  simp only [found]
  exact ⟨_, rfl, rfl, rfl⟩

theorem takes_decodeMembers_cons {seen : List String}
    {input start behindKey behindColon middle rest : Bytes} {key : String} {value : α}
    {values : List (String × α)} {fits : start.length ≤ input.length}
    (found : nextElement 0x7D seen.isEmpty input = .ok (.element start fits))
    (isKey : Takes (scanKey start) key behindKey)
    (isNew : (seen.contains key && !mayRepeat key) = false)
    (isColon : Takes (scanColon behindKey) () behindColon)
    (first : Takes (member key behindColon) value middle)
    (others : Takes (decodeMembers mayRepeat member (key :: seen) middle) values rest) :
    Takes (decodeMembers mayRepeat member seen input) ((key, value) :: values) rest := by
  obtain ⟨parsedKey, readKey, rfl, rfl⟩ := isKey
  obtain ⟨parsedColon, readColon, -, rfl⟩ := isColon
  obtain ⟨parsed, read, rfl, rfl⟩ := first
  rw [decodeMembers]
  simp only [found, readKey, isNew, readColon, read]
  exact others.widen_map _ _

theorem endsNumber_writeMembers (members : List (String × Value)) (rest : Bytes) :
    EndsNumber (Utf8.encode (Value.write.writeMembers false members) ++ 0x7D :: rest) := by
  cases members with
  | nil => exact endsNumber_cons 0x7D rest (by decide)
  | cons member others => exact endsNumber_cons 0x2C _ (by decide)

/-- Members are read up to the closing brace of their object, in the order of the text. -/
theorem takes_decodeMembers (toValue : α → Value) (mayRepeatAny : ∀ key, mayRepeat key = true)
    (entries : List (String × α)) (seen : List String) (rest : Bytes)
    (reads : ∀ entry ∈ entries, Reads (member entry.1) (toValue entry.2) entry.2) :
    Takes (decodeMembers mayRepeat member seen
      (Utf8.encode (Value.write.writeMembers seen.isEmpty (entries.map (Prod.map id toValue))) ++
        0x7D :: rest)) entries rest := by
  induction entries generalizing seen with
  | nil =>
    obtain ⟨shorter, found⟩ := nextElement_close 0x7D rfl seen.isEmpty rest
    exact takes_decodeMembers_close found
  | cons entry others inductionHypothesis =>
    obtain ⟨key, value⟩ := entry
    obtain ⟨readsEntry, readsOthers⟩ := List.forall_mem_cons.mp reads
    let tail := Utf8.encode (Value.write.writeMembers false (others.map (Prod.map id toValue))) ++
      0x7D :: rest
    let start := Utf8.encode (writeString key) ++ 0x3A :: (Utf8.encode (toValue value).write ++ tail)
    have starts : StartsValue start := ⟨0x22, _, rfl, by decide⟩
    have whole : Utf8.encode (Value.write.writeMembers seen.isEmpty
        (((key, value) :: others).map (Prod.map id toValue))) ++ 0x7D :: rest =
        (if seen.isEmpty then [] else [0x2C]) ++ start := by
      have colon : String.utf8EncodeChar ':' = [0x3A] := rfl
      simp only [start, tail, List.map_cons, Prod.map, id, Value.write.writeMembers,
        Utf8.encode_append, Utf8.encode_cons, encode_separator, colon, List.append_assoc,
        List.cons_append, List.nil_append]
    obtain ⟨fits, found⟩ := nextElement_separated starts (.inr rfl) seen.isEmpty
    have first := readsEntry tail fun _ _ => endsNumber_writeMembers _ rest
    rw [whole]
    exact takes_decodeMembers_cons found (takes_scanKey key _) (by simp [mayRepeatAny])
      (takes_scanColon _) first (inductionHypothesis (key :: seen) readsOthers)

/-- A key that follows all others goes to the end. -/
theorem insertMember_of_last (key : String) (value : α) (gathered : List (String × α))
    (last : ∀ entry ∈ gathered, precedes entry.1 key = true) :
    insertMember key value gathered = gathered ++ [(key, value)] := by
  induction gathered with
  | nil => rfl
  | cons next others inductionHypothesis =>
    obtain ⟨before, lastOthers⟩ := List.forall_mem_cons.mp last
    have less : textBytes next.1 < textBytes key := by simpa [precedes] using before
    have different : key ≠ next.1 := by
      rintro rfl
      exact List.lt_irrefl _ less
    have notBefore : precedes key next.1 = false := by
      simpa [precedes] using List.lt_asymm less
    rw [insertMember, if_neg different, if_neg (by simp [notBefore]),
      inductionHypothesis lastOthers, List.cons_append]

/-- Members in the order of their keys stay as they are. -/
theorem members_of_increasing (entries : List (String × α))
    (increasing : entries.Pairwise fun entry later => precedes entry.1 later.1 = true) :
    Json.members entries = entries := by
  have gather (gathered later : List (String × α))
      (increasing : (gathered ++ later).Pairwise fun entry later =>
        precedes entry.1 later.1 = true) :
      later.foldl (fun gathered entry => insertMember entry.1 entry.2 gathered) gathered =
        gathered ++ later := by
    induction later generalizing gathered with
    | nil => simp
    | cons entry others inductionHypothesis =>
      have last : ∀ earlier ∈ gathered, precedes earlier.1 entry.1 = true := fun earlier inside =>
        (List.pairwise_append.mp increasing).2.2 earlier inside entry List.mem_cons_self
      rw [List.foldl_cons, insertMember_of_last _ _ _ last,
        inductionHypothesis _ (by simpa using increasing), List.append_assoc,
        List.singleton_append]
  exact gather [] entries increasing

end Objects

section Values

/-- A value without other values inside, where a number is an integer of 64 bits with or without a
sign. -/
inductive Value.IsScalar : Value → Prop
  | null : IsScalar .null
  | bool (value : Bool) : IsScalar (.bool value)
  | integer (value : Int) (isWord : Literal.IsWord value) : IsScalar (.number (.integer value))
  | string (value : String) : IsScalar (.string value)

/-- A value with at most so many lists and objects around any value inside.  Its numbers are integers
of 64 bits, and the keys of its objects increase. -/
inductive Value.Fits : Nat → Value → Prop
  | scalar {depth : Nat} (value : Value) (isScalar : value.IsScalar) : Fits depth value
  | array {depth : Nat} (items : List Value) (each : ∀ item ∈ items, Fits depth item) :
    Fits (depth + 1) (.array items)
  | object {depth : Nat} (members : List (String × Value))
    (increasing : members.Pairwise fun member later => precedes member.1 later.1 = true)
    (each : ∀ member ∈ members, Fits depth member.2) : Fits (depth + 1) (.object members)

variable {items : Decoder (List Value)} {members : Decoder (List (String × Value))}

/-- A value that is neither a list nor an object is read by its scanner. -/
theorem takes_decodeWith_scalar {byte : UInt8} {tail rest : Bytes} {value : Value}
    (notGap : isGap byte = false) (notBracket : byte ≠ 0x5B) (notBrace : byte ≠ 0x7B)
    (taken : Takes (scanValue (byte :: tail)) value rest) :
    Takes (decodeWith items members (byte :: tail)) value rest := by
  rw [decodeWith, takes_atToken_iff, skipGap_of_notGap byte tail notGap]
  refine ⟨rfl, ?_⟩
  generalize equal : byte :: tail = token at taken ⊢
  split
  case h_1 => exact absurd (List.cons.inj equal).1 notBracket
  case h_2 => exact absurd (List.cons.inj equal).1 notBrace
  case h_3 => exact taken.mapError here

theorem takes_decodeWith_array {tail rest : Bytes} {values : List Value}
    (taken : Takes (items tail) values rest) :
    Takes (decodeWith items members (0x5B :: tail)) (.array values) rest := by
  rw [decodeWith, takes_atToken_iff, skipGap_of_notGap 0x5B tail rfl]
  exact ⟨rfl, taken.widen_map _ _⟩

theorem takes_decodeWith_object {tail rest : Bytes} {entries : List (String × Value)}
    (taken : Takes (members tail) entries rest) :
    Takes (decodeWith items members (0x7B :: tail)) (.object (Json.members entries)) rest := by
  rw [decodeWith, takes_atToken_iff, skipGap_of_notGap 0x7B tail rfl]
  exact ⟨rfl, taken.widen_map _ fun entries => Value.object (Json.members entries)⟩

/-- The text of a scalar: its first byte, which no list and no object starts or ends with, and what
its scanner makes of it. -/
structure ScalarText (value : Value) (byte : UInt8) (tail : Bytes) : Prop where
  written : Utf8.encode value.write = byte :: tail
  notGap : isGap byte = false
  notOpening : byte ≠ 0x5B ∧ byte ≠ 0x7B
  notClosing : byte ≠ 0x5D ∧ byte ≠ 0x7D
  taken : ∀ rest, (∀ number, value = .number number → EndsNumber rest) →
    Takes (scanValue (byte :: (tail ++ rest))) value rest

/-- The three words behind their first letters. -/
def words : List (UInt8 × Bytes) :=
  [(0x6E, textBytes "ull"), (0x74, textBytes "rue"), (0x66, textBytes "alse")]

theorem scanWordOf_append (first : UInt8) (word : Bytes) (isWord : (first, word) ∈ words)
    (rest : Bytes) :
    ∃ behind, scanWordOf first (word ++ rest) = .ok behind ∧ behind.val = rest := by
  simp only [words, List.mem_cons, Prod.mk.injEq, List.not_mem_nil, or_false] at isWord
  obtain ⟨rfl, rfl⟩ | ⟨rfl, rfl⟩ | ⟨rfl, rfl⟩ := isWord
  all_goals exact scanWord_append _ rest

theorem scalarText_of_word {value : Value} {first : UInt8} {word : Bytes}
    (isWord : (first, word) ∈ words) (written : Utf8.encode value.write = first :: word)
    (stands : (if first = 0x6E then Value.null else .bool (first == 0x74)) = value) :
    ScalarText value first word := by
  have letter : isGap first = false ∧ (first ≠ 0x5B ∧ first ≠ 0x7B) ∧
      (first ≠ 0x5D ∧ first ≠ 0x7D) ∧ first ≠ 0x22 ∧
      ¬ (first = 0x2D ∨ isDigit first = true) := by
    simp only [words, List.mem_cons, Prod.mk.injEq, List.not_mem_nil, or_false] at isWord
    obtain ⟨rfl, -⟩ | ⟨rfl, -⟩ | ⟨rfl, -⟩ := isWord
    all_goals decide
  obtain ⟨notGap, notOpening, notClosing, notQuote, notNumber⟩ := letter
  refine ⟨written, notGap, notOpening, notClosing, ?_⟩
  intro rest _
  obtain ⟨behind, equal, same⟩ := scanWordOf_append first word isWord rest
  rw [scanValue, scanScalar, if_neg notQuote, if_neg notNumber, equal]
  exact ⟨_, rfl, stands, same⟩

section Starts

variable {byte : UInt8} (starts : byte = 0x2D ∨ isDigit byte = true)

include starts

/-- Only a sign or a digit starts a number. -/
theorem ne_of_startsNumber (other : UInt8)
    (different : ¬ (other = 0x2D ∨ isDigit other = true)) : byte ≠ other := by
  rintro rfl
  exact different starts

theorem notGap_of_startsNumber : isGap byte = false := by
  have ne := ne_of_startsNumber starts
  simp [isGap, ne 0x20 (by decide), ne 0x09 (by decide), ne 0x0A (by decide), ne 0x0D (by decide)]

/-- Behind a sign or a digit the scanner of values reads a number. -/
theorem scanValue_of_startsNumber (tail : Bytes) :
    scanValue (byte :: tail) = (scanNumber (byte :: tail)).map (·.map .number) := by
  rw [scanValue, scanScalar, if_neg (ne_of_startsNumber starts 0x22 (by decide)), if_pos starts]

end Starts

theorem exists_scalarText (value : Value) (isScalar : value.IsScalar) :
    ∃ byte tail, ScalarText value byte tail := by
  cases isScalar with
  | null => exact ⟨0x6E, _, scalarText_of_word (by decide) rfl rfl⟩
  | bool value =>
    cases value with
    | true => exact ⟨0x74, _, scalarText_of_word (by decide) rfl rfl⟩
    | false => exact ⟨0x66, _, scalarText_of_word (by decide) rfl rfl⟩
  | integer value isWord =>
    obtain ⟨byte, tail, written, starts⟩ := exists_head_integer value
    have ne := ne_of_startsNumber starts
    refine ⟨byte, tail, written, notGap_of_startsNumber starts,
      ⟨ne 0x5B (by decide), ne 0x7B (by decide)⟩, ⟨ne 0x5D (by decide), ne 0x7D (by decide)⟩, ?_⟩
    intro rest ends
    have read := takes_scanNumber value isWord (ends _ rfl)
    rw [written, List.cons_append] at read
    rw [scanValue_of_startsNumber starts]
    exact read.map Value.number
  | string text =>
    let tail := Utf8.encode (text.toList.flatMap escape) ++ [0x22]
    have written : Utf8.encode (Value.string text).write = 0x22 :: tail := by
      rw [← List.append_nil (Utf8.encode _)]
      exact encode_writeString text []
    refine ⟨0x22, tail, written, by decide, by decide, by decide, ?_⟩
    intro rest _
    have whole : tail ++ rest = Utf8.encode (text.toList.flatMap escape) ++ 0x22 :: rest :=
      List.append_assoc ..
    rw [whole, scanValue, scanScalar, if_pos rfl]
    exact ((takes_scanString text rest).map Value.string).widen _

theorem encode_write_array (items : List Value) (rest : Bytes) :
    Utf8.encode (Value.array items).write ++ rest =
      0x5B :: (Utf8.encode (Value.write.writeItems true items) ++ 0x5D :: rest) := by
  rw [Value.write, Utf8.encode_append, List.append_assoc]
  rfl

theorem encode_write_object (members : List (String × Value)) (rest : Bytes) :
    Utf8.encode (Value.object members).write ++ rest =
      0x7B :: (Utf8.encode (Value.write.writeMembers true members) ++ 0x7D :: rest) := by
  rw [Value.write, Utf8.encode_append, List.append_assoc]
  rfl

/-- What is written for a value is read as the value. -/
theorem reads_decodeValue (depth : Nat) (value : Value) (fits : value.Fits depth) :
    StartsValue (Utf8.encode value.write) ∧ Reads (decodeValue depth) value value := by
  induction fits with
  | @scalar depth value isScalar =>
    obtain ⟨byte, tail, text⟩ := exists_scalarText value isScalar
    refine ⟨⟨byte, tail, text.written, text.notGap, text.notClosing⟩, ?_⟩
    intro rest ends
    have read := text.taken rest ends
    rw [text.written, List.cons_append]
    cases depth
    all_goals exact takes_decodeWith_scalar text.notGap text.notOpening.1 text.notOpening.2 read
  | array items each inductionHypothesis =>
    refine ⟨⟨0x5B, _, rfl, by decide⟩, ?_⟩
    intro rest _
    have read := takes_decodeItems id items 0 rest
      (fun item inside => (inductionHypothesis item inside).1)
      fun item inside => (inductionHypothesis item inside).2
    rw [List.map_id] at read
    rw [encode_write_array]
    exact takes_decodeWith_array read
  | @object depth members increasing each inductionHypothesis =>
    refine ⟨⟨0x7B, _, rfl, by decide⟩, ?_⟩
    intro rest _
    have object : Takes (decodeValue (depth + 1) (0x7B ::
        (Utf8.encode (Value.write.writeMembers true (members.map (Prod.map id id))) ++
          0x7D :: rest))) (.object (Json.members members)) rest := by
      apply takes_decodeWith_object
      exact takes_decodeMembers id (fun _ => rfl) members [] rest
        fun member inside => (inductionHypothesis member inside).2
    have same : members.map (Prod.map id id) = members := by simp
    rw [same, members_of_increasing members increasing] at object
    rw [encode_write_object]
    exact object

end Values

end Json

end ConfinedHttp
