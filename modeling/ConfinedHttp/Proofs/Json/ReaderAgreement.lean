import ConfinedHttp.Proofs.Json.ValueReading

/-!
A decoder of strings, of integers, of pairs or of lists looks for one shape of value.  It reads a text
exactly when the decoder of any value finds that shape in it.  A text that is written for some value
is read as strings and lists only when the value consists of them.
-/

namespace ConfinedHttp.Json

section Inversion

variable {ε α β : Type} {input outer rest : Bytes} {result : Except ε (Parsed α input)}

/-- What is read is one value, and one rest. -/
theorem Takes.unique {value other : α} {behind : Bytes} (taken : Takes result value rest)
    (again : Takes result other behind) : value = other ∧ rest = behind := by
  obtain ⟨parsed, equal, rfl, rfl⟩ := taken
  obtain ⟨same, equalSame, rfl, rfl⟩ := again
  obtain rfl := Except.ok.inj (equal.symm.trans equalSame)
  exact ⟨rfl, rfl⟩

theorem not_takes_error {failure : ε} {value : α} :
    ¬ Takes (.error failure : Except ε (Parsed α input)) value rest := by
  rintro ⟨_, equal, -⟩
  cases equal

theorem takes_widen_map_iff {fits : input.length ≤ outer.length} {change : α → β} {value : β} :
    Takes (result.map fun parsed => (parsed.widen fits).map change) value rest ↔
      ∃ inner, Takes result inner rest ∧ change inner = value := by
  constructor
  · rintro ⟨_, equal, rfl, rfl⟩
    cases result with
    | error => cases equal
    | ok parsed =>
      obtain rfl := Except.ok.inj equal
      exact ⟨parsed.value, ⟨parsed, rfl, rfl, rfl⟩, rfl⟩
  · rintro ⟨inner, taken, rfl⟩
    exact taken.widen_map fits change

theorem takes_map_iff {change : α → β} {value : β} :
    Takes (result.map fun parsed => parsed.map change) value rest ↔
      ∃ inner, Takes result inner rest ∧ change inner = value := by
  have same : (fun parsed : Parsed α input => (parsed.widen (Nat.le_refl _)).map change) =
      fun parsed => parsed.map change := rfl
  rw [← same]
  exact takes_widen_map_iff

theorem takes_widen_iff {fits : input.length ≤ outer.length} {value : α} :
    Takes (result.map fun parsed => parsed.widen fits) value rest ↔ Takes result value rest := by
  have changed : Takes (result.map fun parsed => (parsed.widen fits).map id) value rest ↔
      ∃ inner, Takes result inner rest ∧ id inner = value := takes_widen_map_iff
  simpa [Parsed.map] using changed

theorem takes_mapError_iff {ε' : Type} {blame : ε → ε'} {value : α} :
    Takes (result.mapError blame) value rest ↔ Takes result value rest := by
  constructor
  · rintro ⟨parsed, equal, rfl, rfl⟩
    cases result with
    | error => cases equal
    | ok => exact ⟨parsed, congrArg Except.ok (Except.ok.inj equal), rfl, rfl⟩
  · exact fun taken => taken.mapError blame

end Inversion

section Elements

/-- A list or an object ends exactly where its closing bracket comes next. -/
theorem nextElement_eq_close_iff {closing : UInt8} {isFirst : Bool} {input rest : Bytes} :
    (∃ shorter, nextElement closing isFirst input = .ok (.close rest shorter)) ↔
      skipGap input = closing :: rest := by
  constructor
  · rintro ⟨shorter, equal⟩
    unfold nextElement at equal
    split at equal
    case h_1 => cases equal
    case h_2 byte tail found =>
      rw [found]
      split_ifs at equal with isClosing
      · obtain rfl := (Turn.close.inj (Except.ok.inj equal))
        rw [isClosing]
      · cases equal
      · split at equal
        case h_1 => cases equal
        case h_2 =>
          split_ifs at equal
          cases equal
  · intro found
    rw [nextElement_of_skipGap found (.inl rfl), if_pos rfl]
    exact ⟨_, rfl⟩

/-- The closing bracket that must come next is found exactly where it does. -/
theorem takes_closeList_iff {input rest : Bytes} :
    Takes (Decoder.closeList input) () rest ↔ skipGap input = 0x5D :: rest := by
  unfold Decoder.closeList
  constructor
  · intro taken
    split at taken
    case h_1 => exact absurd taken not_takes_error
    case h_2 byte tail found =>
      rw [found]
      split_ifs at taken with isClosing
      · obtain ⟨_, equal, -, rfl⟩ := taken
        obtain rfl := Except.ok.inj equal
        exact congrArg (· :: tail) isClosing
      · exact absurd taken not_takes_error
  · intro closes
    split
    case h_1 none =>
      rw [closes] at none
      cases none
    case h_2 byte tail found =>
      obtain ⟨rfl, rfl⟩ := List.cons.inj (found.symm.trans closes)
      exact ⟨_, if_pos rfl, rfl, rfl⟩

variable {α : Type} {item : Decoder α} {index : Nat} {input rest : Bytes}

/-- A list has no further item exactly when its closing bracket comes next. -/
theorem takes_decodeItems_nil_iff :
    Takes (decodeItems item index input) [] rest ↔
      ∃ shorter, nextElement 0x5D (index == 0) input = .ok (.close rest shorter) := by
  constructor
  · intro taken
    rw [decodeItems] at taken
    split at taken
    case h_1 => exact absurd taken not_takes_error
    case h_2 behind shorter found =>
      obtain ⟨_, equal, -, rfl⟩ := taken
      obtain rfl := Except.ok.inj equal
      exact ⟨shorter, found⟩
    case h_3 start fits found =>
      split at taken
      case h_1 => exact absurd taken not_takes_error
      case h_2 =>
        obtain ⟨_, -, impossible⟩ := takes_widen_map_iff.mp taken
        cases impossible
  · rintro ⟨shorter, found⟩
    exact takes_decodeItems_close found

/-- A list has a further item exactly when one comes next, and the others behind it. -/
theorem takes_decodeItems_cons_iff {value : α} {values : List α} :
    Takes (decodeItems item index input) (value :: values) rest ↔
      ∃ start fits middle, nextElement 0x5D (index == 0) input = .ok (.element start fits) ∧
        Takes (item start) value middle ∧
          Takes (decodeItems item (index + 1) middle) values rest := by
  constructor
  · intro taken
    rw [decodeItems] at taken
    split at taken
    case h_1 => exact absurd taken not_takes_error
    case h_2 =>
      obtain ⟨_, equal, impossible, -⟩ := taken
      obtain rfl := Except.ok.inj equal
      cases impossible
    case h_3 start fits found =>
      split at taken
      case h_1 => exact absurd taken not_takes_error
      case h_2 first read =>
        obtain ⟨others, later, equal⟩ := takes_widen_map_iff.mp taken
        obtain ⟨rfl, rfl⟩ := List.cons.inj equal
        exact ⟨start, fits, first.rest, found, ⟨first, read, rfl, rfl⟩, later⟩
  · rintro ⟨start, fits, middle, found, first, others⟩
    exact takes_decodeItems_cons found first others

/-- A list of no decoders reads no items. -/
theorem takes_decodeEach_nil_iff {results : List α} :
    Takes (Decoder.decodeEach index [] input) results rest ↔
      results = [] ∧ skipGap input = 0x5D :: rest := by
  rw [Decoder.decodeEach, takes_map_iff]
  constructor
  · rintro ⟨⟨⟩, closes, rfl⟩
    exact ⟨rfl, takes_closeList_iff.mp (takes_mapError_iff.mp closes)⟩
  · rintro ⟨rfl, closes⟩
    exact ⟨(), takes_mapError_iff.mpr (takes_closeList_iff.mpr closes), rfl⟩

/-- A list of decoders reads an item with the first one, and the others behind it. -/
theorem takes_decodeEach_cons_iff {items : List (Decoder α)} {results : List α} :
    Takes (Decoder.decodeEach index (item :: items) input) results rest ↔
      ∃ start fits value middle values,
        nextElement 0x5D (index == 0) input = .ok (.element start fits) ∧
          Takes (item start) value middle ∧
            Takes (Decoder.decodeEach (index + 1) items middle) values rest ∧
              results = value :: values := by
  constructor
  · intro taken
    rw [Decoder.decodeEach] at taken
    split at taken
    case h_1 => exact absurd taken not_takes_error
    case h_2 => exact absurd taken not_takes_error
    case h_3 start fits found =>
      split at taken
      case h_1 => exact absurd taken not_takes_error
      case h_2 first read =>
        obtain ⟨values, later, rfl⟩ := takes_widen_map_iff.mp taken
        exact ⟨start, fits, first.value, first.rest, values, found, ⟨first, read, rfl, rfl⟩, later,
          rfl⟩
  · rintro ⟨start, fits, value, middle, values, found, ⟨first, read, rfl, rfl⟩, later, rfl⟩
    rw [Decoder.decodeEach]
    simp only [found, read]
    exact later.widen_map _ _

end Elements

section Shapes

variable {input rest : Bytes}

/-- A decoder that goes on behind one byte and refuses every other text reads exactly where that byte
comes next. -/
theorem takes_opened_iff {α : Type} {read : Decoder α} (opening : UInt8) (inner : Decoder α)
    (opens : ∀ tail, read (opening :: tail) = (inner tail).map (·.behind opening))
    (refuses : ∀ token, (∀ tail, token ≠ opening :: tail) → ∃ failure, read token = .error failure)
    {value : α} :
    Takes (atToken read input) value rest ↔
      ∃ tail, skipGap input = opening :: tail ∧ Takes (inner tail) value rest := by
  rw [takes_atToken_iff]
  constructor
  · rintro ⟨-, taken⟩
    by_cases opened : ∃ tail, skipGap input = opening :: tail
    · obtain ⟨tail, found⟩ := opened
      rw [found, opens] at taken
      exact ⟨tail, found, takes_widen_iff.mp taken⟩
    · obtain ⟨failure, refused⟩ := refuses (skipGap input) (not_exists.mp opened)
      rw [refused] at taken
      exact absurd taken not_takes_error
  · rintro ⟨tail, found, taken⟩
    rw [found, opens]
    exact ⟨rfl, takes_widen_iff.mpr taken⟩

/-- A string is read exactly where a quote comes next and the string behind it. -/
theorem takes_text_iff {text : String} :
    Takes (Decoder.text input) text rest ↔
      ∃ tail, skipGap input = 0x22 :: tail ∧ Takes (scanString tail) text rest := by
  rw [Decoder.text, takes_opened_iff 0x22 (fun tail => (scanString tail).mapError here)
    (fun _ => rfl)]
  · simp only [takes_mapError_iff]
  · intro token other
    split
    case h_1 tail => exact absurd rfl (other tail)
    case h_2 => exact ⟨_, rfl⟩

/-- A list is read exactly where an opening bracket comes next and the items behind it. -/
theorem takes_list_iff {α : Type} {item : Decoder α} {values : List α} :
    Takes (Decoder.list item input) values rest ↔
      ∃ tail, skipGap input = 0x5B :: tail ∧ Takes (decodeItems item 0 tail) values rest := by
  rw [Decoder.list, takes_opened_iff 0x5B (decodeItems item 0) (fun _ => rfl)]
  intro token other
  split
  case h_1 tail => exact absurd rfl (other tail)
  case h_2 => exact ⟨_, rfl⟩

theorem takes_each_iff {α : Type} {items : List (Decoder α)} {values : List α} :
    Takes (Decoder.each items input) values rest ↔
      ∃ tail, skipGap input = 0x5B :: tail ∧ Takes (Decoder.decodeEach 0 items tail) values rest := by
  rw [Decoder.each, takes_opened_iff 0x5B (Decoder.decodeEach 0 items) (fun _ => rfl)]
  intro token other
  split
  case h_1 tail => exact absurd rfl (other tail)
  case h_2 => exact ⟨_, rfl⟩

/-- A refined decoder reads exactly where what is read is accepted. -/
theorem takes_refine_iff {α β : Type} {decoder : Decoder α} {accept : α → Option β} {value : β} :
    Takes (decoder.refine accept input) value rest ↔
      ∃ inner, Takes (decoder input) inner rest ∧ accept inner = some value := by
  rw [Decoder.refine]
  cases read : decoder input with
  | error failure =>
    constructor
    · exact fun taken => absurd taken not_takes_error
    · rintro ⟨_, taken, -⟩
      exact absurd taken not_takes_error
  | ok parsed =>
    simp only [bind, Except.bind]
    constructor
    · intro taken
      split at taken
      case h_1 other accepted =>
        obtain ⟨_, equal, rfl, rfl⟩ := taken
        obtain rfl := Except.ok.inj equal
        exact ⟨parsed.value, ⟨parsed, rfl, rfl, rfl⟩, accepted⟩
      case h_2 => exact absurd taken not_takes_error
    · rintro ⟨_, ⟨_, equal, rfl, rfl⟩, accepted⟩
      obtain rfl := Except.ok.inj equal
      rw [accepted]
      exact ⟨_, rfl, rfl, rfl⟩

/-- A pair is read exactly where a list of its two strings is. -/
theorem takes_textPair_iff {pair : String × String} :
    Takes (Decoder.textPair input) pair rest ↔
      Takes (Decoder.each [Decoder.text, Decoder.text] input) [pair.1, pair.2] rest := by
  rw [Decoder.textPair, takes_refine_iff]
  constructor
  · rintro ⟨values, taken, accepted⟩
    split at accepted
    case h_1 =>
      obtain rfl := Option.some.inj accepted
      exact taken
    case h_2 => cases accepted
  · exact fun taken => ⟨_, taken, rfl⟩

/-- A scanner finds a string only behind a quote and a number behind its sign or a digit.  Every other
value is a word. -/
theorem takes_scanValue {byte : UInt8} {tail : Bytes} {value : Value}
    (taken : Takes (scanValue (byte :: tail)) value rest) :
    (byte = 0x22 ∧ ∃ text, Takes (scanString tail) text rest ∧ Value.string text = value) ∨
      byte ≠ 0x22 ∧
        (((byte = 0x2D ∨ isDigit byte = true) ∧
            ∃ number, Takes (scanNumber (byte :: tail)) number rest ∧ Value.number number = value) ∨
          value = .null ∨ ∃ truth, value = .bool truth) := by
  rw [scanValue, scanScalar] at taken
  by_cases isQuote : byte = 0x22
  · rw [if_pos isQuote] at taken
    obtain ⟨text, read, equal⟩ := takes_map_iff.mp (takes_widen_iff.mp taken)
    exact .inl ⟨isQuote, text, read, equal⟩
  refine .inr ⟨isQuote, ?_⟩
  rw [if_neg isQuote] at taken
  by_cases isNumber : byte = 0x2D ∨ isDigit byte = true
  · rw [if_pos isNumber] at taken
    exact .inl ⟨isNumber, takes_map_iff.mp taken⟩
  · rw [if_neg isNumber] at taken
    obtain ⟨_, equal, rfl, -⟩ := taken
    cases word : scanWordOf byte tail with
    | error failure =>
      rw [word] at equal
      cases equal
    | ok behind =>
      rw [word] at equal
      obtain rfl := Except.ok.inj equal
      by_cases isNull : byte = 0x6E
      · exact .inr (.inl (if_pos isNull))
      · exact .inr (.inr ⟨_, if_neg isNull⟩)

/-- A scanner finds neither a list nor an object. -/
theorem not_opened_of_scanValue {byte : UInt8} {tail : Bytes} {value : Value}
    (taken : Takes (scanValue (byte :: tail)) value rest) :
    (∀ values, value ≠ .array values) ∧ ∀ members, value ≠ .object members := by
  obtain ⟨-, _, -, rfl⟩ | ⟨-, ⟨-, _, -, rfl⟩ | rfl | ⟨_, rfl⟩⟩ := takes_scanValue taken
  all_goals simp

variable {items : Decoder (List Value)} {members : Decoder (List (String × Value))}

/-- What is read of a value depends on its first byte. -/
theorem takes_decodeWith_iff {value : Value} :
    Takes (decodeWith items members input) value rest ↔
      ∃ byte tail, skipGap input = byte :: tail ∧
        ((byte = 0x5B ∧ ∃ values, Takes (items tail) values rest ∧ Value.array values = value) ∨
          (byte = 0x7B ∧ ∃ entries, Takes (members tail) entries rest ∧
            Value.object (Json.members entries) = value) ∨
          (byte ≠ 0x5B ∧ byte ≠ 0x7B ∧ Takes (scanValue (byte :: tail)) value rest)) := by
  rw [decodeWith, takes_atToken_iff]
  constructor
  · rintro ⟨some, taken⟩
    generalize skipGap input = token at some taken ⊢
    split at taken
    case h_1 tail =>
      exact ⟨0x5B, tail, rfl, .inl ⟨rfl, takes_widen_map_iff.mp taken⟩⟩
    case h_2 tail =>
      exact ⟨0x7B, tail, rfl, .inr (.inl ⟨rfl, takes_widen_map_iff.mp taken⟩)⟩
    case h_3 notBracket notBrace =>
      cases token with
      | nil => cases some
      | cons byte tail =>
        refine ⟨byte, tail, rfl, .inr (.inr ⟨?_, ?_, takes_mapError_iff.mp taken⟩)⟩
        · rintro rfl
          exact notBracket tail rfl
        · rintro rfl
          exact notBrace tail rfl
  · rintro ⟨byte, tail, found, shape⟩
    rw [found]
    refine ⟨rfl, ?_⟩
    obtain ⟨rfl, taken⟩ | ⟨rfl, taken⟩ | ⟨notBracket, notBrace, taken⟩ := shape
    · exact takes_widen_map_iff.mpr taken
    · exact takes_widen_map_iff.mpr taken
    · generalize same : byte :: tail = token at taken ⊢
      split
      case h_1 => exact absurd (List.cons.inj same).1 notBracket
      case h_2 => exact absurd (List.cons.inj same).1 notBrace
      case h_3 => exact takes_mapError_iff.mpr taken

/-- The decoder of any value finds a list exactly behind an opening bracket. -/
theorem takes_decodeWith_array_iff {values : List Value} :
    Takes (decodeWith items members input) (.array values) rest ↔
      ∃ tail, skipGap input = 0x5B :: tail ∧ Takes (items tail) values rest := by
  rw [takes_decodeWith_iff]
  constructor
  · rintro ⟨byte, tail, found, ⟨rfl, others, taken, equal⟩ | ⟨-, _, -, impossible⟩ |
      ⟨-, -, taken⟩⟩
    · rw [← Value.array.inj equal]
      exact ⟨tail, found, taken⟩
    · cases impossible
    · exact absurd rfl ((not_opened_of_scanValue taken).1 values)
  · rintro ⟨tail, found, taken⟩
    exact ⟨0x5B, tail, found, .inl ⟨rfl, values, taken, rfl⟩⟩

/-- The decoder of any value finds a string exactly behind a quote. -/
theorem takes_decodeWith_string_iff {text : String} :
    Takes (decodeWith items members input) (.string text) rest ↔
      ∃ tail, skipGap input = 0x22 :: tail ∧ Takes (scanString tail) text rest := by
  rw [takes_decodeWith_iff]
  constructor
  · rintro ⟨byte, tail, found, ⟨-, _, -, impossible⟩ | ⟨-, _, -, impossible⟩ | ⟨-, -, taken⟩⟩
    · cases impossible
    · cases impossible
    · obtain ⟨rfl, other, read, equal⟩ |
        ⟨-, ⟨-, _, -, impossible⟩ | impossible | ⟨_, impossible⟩⟩ := takes_scanValue taken
      · rw [← Value.string.inj equal]
        exact ⟨tail, found, read⟩
      all_goals cases impossible
  · rintro ⟨tail, found, taken⟩
    refine ⟨0x22, tail, found, .inr (.inr ⟨by decide, by decide, ?_⟩)⟩
    rw [scanValue, scanScalar, if_pos rfl]
    exact takes_widen_iff.mpr (takes_map_iff.mpr ⟨text, taken, rfl⟩)

/-- The decoder of any value finds a string where the decoder of strings does, whatever may still be
opened. -/
theorem takes_decodeValue_string_iff {depth : Nat} {text : String} :
    Takes (decodeValue depth input) (.string text) rest ↔ Takes (Decoder.text input) text rest := by
  cases depth <;> rw [decodeValue, takes_decodeWith_string_iff, takes_text_iff]

/-- The decoder of any value finds a number exactly behind its sign or a digit. -/
theorem takes_decodeWith_number_iff {number : Number} :
    Takes (decodeWith items members input) (.number number) rest ↔
      ∃ byte tail, skipGap input = byte :: tail ∧ (byte = 0x2D ∨ isDigit byte = true) ∧
        Takes (scanNumber (byte :: tail)) number rest := by
  rw [takes_decodeWith_iff]
  constructor
  · rintro ⟨byte, tail, found, ⟨-, _, -, impossible⟩ | ⟨-, _, -, impossible⟩ | ⟨-, -, taken⟩⟩
    · cases impossible
    · cases impossible
    · obtain ⟨-, _, -, impossible⟩ |
        ⟨-, ⟨starts, other, read, equal⟩ | impossible | ⟨_, impossible⟩⟩ := takes_scanValue taken
      · cases impossible
      · rw [← Value.number.inj equal]
        exact ⟨byte, tail, found, starts, read⟩
      all_goals cases impossible
  · rintro ⟨byte, tail, found, starts, taken⟩
    have ne := ne_of_startsNumber starts
    refine ⟨byte, tail, found, .inr (.inr ⟨ne 0x5B (by decide), ne 0x7B (by decide), ?_⟩)⟩
    rw [scanValue_of_startsNumber starts]
    exact takes_map_iff.mpr ⟨number, taken, rfl⟩

/-- An integer is read exactly where a number comes next that is one and lies between the bounds. -/
theorem takes_integer_iff {least greatest value : Int} :
    Takes (Decoder.integer least greatest input) value rest ↔
      (least ≤ value ∧ value ≤ greatest) ∧
        ∃ byte tail, skipGap input = byte :: tail ∧ (byte = 0x2D ∨ isDigit byte = true) ∧
          Takes (scanNumber (byte :: tail)) (.integer value) rest := by
  rw [Decoder.integer, takes_atToken_iff]
  constructor
  · rintro ⟨some, taken⟩
    generalize skipGap input = token at some taken ⊢
    cases token with
    | nil => cases some
    | cons byte tail =>
      dsimp only at taken
      split_ifs at taken with starts
      · cases read : scanNumber (byte :: tail) with
        | error category =>
          rw [Scanner.atValue, read] at taken
          exact absurd taken not_takes_error
        | ok parsed =>
          simp only [Scanner.atValue, read, Except.mapError, bind, Except.bind] at taken
          split at taken
          case h_1 isInteger =>
            split_ifs at taken with within
            · obtain ⟨_, equal, rfl, rfl⟩ := taken
              obtain rfl := Except.ok.inj equal
              exact ⟨within, byte, tail, rfl, starts, parsed, read, isInteger, rfl⟩
            · exact absurd taken not_takes_error
          case h_2 => exact absurd taken not_takes_error
      · exact absurd taken not_takes_error
  · rintro ⟨within, byte, tail, found, starts, parsed, read, isInteger, rfl⟩
    rw [found]
    refine ⟨rfl, ?_⟩
    simp only [if_pos starts, Scanner.atValue, read, Except.mapError, bind, Except.bind, isInteger,
      if_pos within]
    exact ⟨_, rfl, rfl, rfl⟩

/-- The decoder of any value finds an integer where the decoder of integers does, whatever may still be
opened. -/
theorem takes_decodeValue_integer_iff {depth : Nat} {least greatest value : Int} :
    Takes (Decoder.integer least greatest input) value rest ↔
      (least ≤ value ∧ value ≤ greatest) ∧
        Takes (decodeValue depth input) (.number (.integer value)) rest := by
  cases depth <;> rw [decodeValue, takes_decodeWith_number_iff, takes_integer_iff]

theorem takes_decodeValue_array_iff {depth : Nat} {values : List Value} :
    Takes (decodeValue (depth + 1) input) (.array values) rest ↔
      ∃ tail, skipGap input = 0x5B :: tail ∧
        Takes (decodeItems (decodeValue depth) 0 tail) values rest := by
  rw [decodeValue, takes_decodeWith_array_iff]

/-- Items of one kind are read where the decoder of any value finds what they stand for. -/
theorem takes_decodeItems_image_iff {α : Type} {item : Decoder α} {image : α → Value} {depth : Nat}
    (agrees : ∀ input value rest,
      Takes (item input) value rest ↔ Takes (decodeValue depth input) (image value) rest)
    {index : Nat} (values : List α) :
    Takes (decodeItems item index input) values rest ↔
      Takes (decodeItems (decodeValue depth) index input) (values.map image) rest := by
  induction values generalizing index input with
  | nil => rw [List.map_nil, takes_decodeItems_nil_iff, takes_decodeItems_nil_iff]
  | cons value others inductionHypothesis =>
    simp only [List.map_cons, takes_decodeItems_cons_iff, agrees, inductionHypothesis]

/-- A list of one kind is read where the decoder of any value finds the list of what its items stand
for. -/
theorem takes_list_image_iff {α : Type} {item : Decoder α} {image : α → Value} {depth : Nat}
    (agrees : ∀ input value rest,
      Takes (item input) value rest ↔ Takes (decodeValue depth input) (image value) rest)
    (values : List α) :
    Takes (Decoder.list item input) values rest ↔
      Takes (decodeValue (depth + 1) input) (.array (values.map image)) rest := by
  simp only [takes_list_iff, takes_decodeValue_array_iff, takes_decodeItems_image_iff agrees]

/-- A list of as many decoders of one kind as values reads them where the decoder of any value finds
what they stand for. -/
theorem takes_decodeEach_image_iff {α : Type} {item : Decoder α} {image : α → Value} {depth : Nat}
    (agrees : ∀ input value rest,
      Takes (item input) value rest ↔ Takes (decodeValue depth input) (image value) rest)
    {index : Nat} (values : List α) :
    Takes (Decoder.decodeEach index (values.map fun _ => item) input) values rest ↔
      Takes (decodeItems (decodeValue depth) index input) (values.map image) rest := by
  induction values generalizing index input with
  | nil =>
    rw [List.map_nil, List.map_nil, takes_decodeEach_nil_iff, takes_decodeItems_nil_iff,
      nextElement_eq_close_iff, and_iff_right rfl]
  | cons value others inductionHypothesis =>
    rw [List.map_cons, List.map_cons, takes_decodeEach_cons_iff, takes_decodeItems_cons_iff]
    simp only [← agrees, ← inductionHypothesis]
    constructor
    · rintro ⟨start, fits, first, middle, later, found, taken, takenLater, equal⟩
      obtain ⟨rfl, rfl⟩ := List.cons.inj equal
      exact ⟨start, fits, middle, found, taken, takenLater⟩
    · rintro ⟨start, fits, middle, found, taken, takenLater⟩
      exact ⟨start, fits, value, middle, others, found, taken, takenLater, rfl⟩

/-- A pair is read where the decoder of any value finds a list of its two strings. -/
theorem takes_textPair_image_iff {depth : Nat} (pair : String × String) :
    Takes (Decoder.textPair input) pair rest ↔
      Takes (decodeValue (depth + 1) input) (.array [.string pair.1, .string pair.2]) rest := by
  rw [takes_textPair_iff, takes_each_iff, takes_decodeValue_array_iff]
  have strings (tail : Bytes) :
      Takes (Decoder.decodeEach 0 [Decoder.text, Decoder.text] tail) [pair.1, pair.2] rest ↔
        Takes (decodeItems (decodeValue depth) 0 tail) [.string pair.1, .string pair.2] rest :=
    takes_decodeEach_image_iff (fun _ _ _ => takes_decodeValue_string_iff.symm) [pair.1, pair.2]
  simp only [strings]

end Shapes

section Written

/-- A value that consists of strings and lists only. -/
inductive Value.IsTextual : Value → Prop
  | string (text : String) : IsTextual (.string text)
  | array (items : List Value) (each : ∀ item ∈ items, IsTextual item) : IsTextual (.array items)

/-- A character that a number can start with: its sign or a digit. -/
def StartsNumber (character : Char) : Prop :=
  ∃ byte tail, String.utf8EncodeChar character = byte :: tail ∧ (byte = 0x2D ∨ isDigit byte = true)

theorem exists_head_decimal (value : Nat) :
    ∃ first others, Ascii.decimal value = first :: others ∧ StartsNumber first := by
  cases digits : Ascii.decimal value with
  | nil => exact absurd digits Nat.toDigits_ne_nil
  | cons first others =>
    obtain ⟨numbers, isDecimal, written⟩ := exists_isDecimal value
    obtain ⟨byte, tail, isText, isDigit⟩ := isDecimal.exists_head
    rw [isText, digits, Utf8.encode_cons] at written
    refine ⟨first, others, rfl, ?_⟩
    cases bytes : String.utf8EncodeChar first with
    | nil => exact absurd bytes String.utf8EncodeChar_ne_nil
    | cons head behind =>
      rw [bytes] at written
      exact ⟨head, behind, bytes, .inr ((List.cons.inj written).1 ▸ isDigit)⟩

/-- A binary number starts with its sign or a digit. -/
theorem exists_head_real (number : Binary64) :
    ∃ first others, Shortest.write number = first :: others ∧ StartsNumber first := by
  obtain ⟨first, others, digits, starts⟩ := exists_head_decimal (Shortest.decimal number).digits
  have zero : StartsNumber '0' := ⟨0x30, [], rfl, .inr rfl⟩
  have sign : StartsNumber '-' := ⟨0x2D, [], rfl, .inl rfl⟩
  have fixed (point : Int) :
      ∃ head tail, Shortest.writeFixed (first :: others) point = head :: tail ∧
        StartsNumber head := by
    rw [Shortest.writeFixed]
    split_ifs with before behind
    · exact ⟨'0', _, rfl, zero⟩
    · exact ⟨first, _, rfl, starts⟩
    · obtain ⟨places, positive⟩ : ∃ places, point.toNat = places + 1 := ⟨point.toNat - 1, by omega⟩
      rw [positive]
      exact ⟨first, _, rfl, starts⟩
  simp only [Shortest.write, digits]
  split_ifs
  · exact ⟨'-', _, rfl, sign⟩
  · exact ⟨'-', _, rfl, sign⟩
  · exact ⟨'-', _, rfl, sign⟩
  · exact ⟨'0', _, rfl, zero⟩
  · exact fixed _
  · exact ⟨first, _, rfl, starts⟩

/-- The first byte of a written value.  Only a string starts with a quote, and only a list with its
bracket. -/
structure FirstByte (value : Value) (byte : UInt8) : Prop where
  notGap : isGap byte = false
  notClosing : byte ≠ 0x5D ∧ byte ≠ 0x7D
  quote : byte = 0x22 → ∃ text, value = .string text
  bracket : byte = 0x5B → ∃ items, value = .array items

theorem firstByte_of_number (number : Number) (byte : UInt8)
    (starts : byte = 0x2D ∨ isDigit byte = true) : FirstByte (.number number) byte := by
  have ne := ne_of_startsNumber starts
  refine ⟨notGap_of_startsNumber starts, ⟨ne 0x5D (by decide), ne 0x7D (by decide)⟩, ?_, ?_⟩
  · exact fun quote => absurd quote (ne 0x22 (by decide))
  · exact fun bracket => absurd bracket (ne 0x5B (by decide))

theorem exists_firstByte (value : Value) :
    ∃ byte tail, Utf8.encode value.write = byte :: tail ∧ FirstByte value byte := by
  have other (byte : UInt8) (tail : Bytes) (written : Utf8.encode value.write = byte :: tail)
      (plain : isGap byte = false ∧ (byte ≠ 0x5D ∧ byte ≠ 0x7D) ∧ byte ≠ 0x22 ∧ byte ≠ 0x5B) :
      ∃ byte tail, Utf8.encode value.write = byte :: tail ∧ FirstByte value byte := by
    obtain ⟨notGap, notClosing, notQuote, notBracket⟩ := plain
    exact ⟨byte, tail, written, notGap, notClosing, fun quote => absurd quote notQuote,
      fun bracket => absurd bracket notBracket⟩
  cases value with
  | null => exact other 0x6E _ rfl (by decide)
  | bool truth =>
    cases truth with
    | true => exact other 0x74 _ rfl (by decide)
    | false => exact other 0x66 _ rfl (by decide)
  | number number =>
    cases number with
    | integer value =>
      obtain ⟨byte, tail, written, starts⟩ := exists_head_integer value
      exact ⟨byte, tail, written, firstByte_of_number _ byte starts⟩
    | real number =>
      obtain ⟨first, others, written, byte, tail, bytes, starts⟩ := exists_head_real number
      refine ⟨byte, tail ++ Utf8.encode others, ?_, firstByte_of_number _ byte starts⟩
      rw [Value.write, Number.write, written, Utf8.encode_cons, bytes, List.cons_append]
  | string text =>
    exact ⟨0x22, _, rfl, by decide, by decide, fun _ => ⟨text, rfl⟩,
      fun bracket => absurd bracket (by decide)⟩
  | array items =>
    exact ⟨0x5B, _, rfl, by decide, by decide, fun quote => absurd quote (by decide),
      fun _ => ⟨items, rfl⟩⟩
  | object members => exact other 0x7B _ rfl (by decide)

theorem startsValue_write (value : Value) : StartsValue (Utf8.encode value.write) := by
  obtain ⟨byte, tail, written, first⟩ := exists_firstByte value
  exact ⟨byte, tail, written, first.notGap, first.notClosing⟩

/-- Only a written string is read as one, and whole. -/
theorem written_of_takes_string {written : Value} {tail rest : Bytes} {text : String}
    (taken : Takes (Decoder.text (Utf8.encode written.write ++ tail)) text rest) :
    written = .string text ∧ rest = tail := by
  obtain ⟨inner, found, read⟩ := takes_text_iff.mp taken
  obtain ⟨byte, behind, bytes, first⟩ := exists_firstByte written
  rw [bytes, List.cons_append, skipGap_of_notGap _ _ first.notGap] at found
  obtain ⟨isQuote, -⟩ := List.cons.inj found
  obtain ⟨other, rfl⟩ := first.quote isQuote
  rw [← List.cons_append, ← bytes, Value.write, encode_writeString] at found
  obtain ⟨-, rfl⟩ := List.cons.inj found
  obtain ⟨rfl, rfl⟩ := read.unique (takes_scanString other tail)
  exact ⟨rfl, rfl⟩

/-- Only written items are read as items, where each item that is read was written. -/
theorem written_of_takes_items {item : Decoder Value} {tail rest : Bytes} (values : List Value)
    (each : ∀ value ∈ values, ∀ (written : Value) (tail rest : Bytes),
      Takes (item (Utf8.encode written.write ++ tail)) value rest → written = value ∧ rest = tail)
    (index : Nat) (written : List Value)
    (taken : Takes (decodeItems item index
      (Utf8.encode (Value.write.writeItems (index == 0) written) ++ 0x5D :: tail)) values rest) :
    written = values ∧ rest = tail := by
  have next (item : Value) (others : List Value) (isFirst : Bool) :
      ∃ fits, nextElement 0x5D isFirst (Utf8.encode
        (Value.write.writeItems isFirst (item :: others)) ++ 0x5D :: tail) =
          .ok (.element (Utf8.encode item.write ++
            (Utf8.encode (Value.write.writeItems false others) ++ 0x5D :: tail)) fits) := by
    rw [encode_writeItems_cons]
    exact nextElement_separated ((startsValue_write item).append _) (.inl rfl) isFirst
  have last (isFirst : Bool) := nextElement_close 0x5D rfl isFirst tail
  induction values generalizing index written with
  | nil =>
    obtain ⟨_, found⟩ := takes_decodeItems_nil_iff.mp taken
    cases written with
    | nil =>
      obtain ⟨_, ends⟩ := last (index == 0)
      obtain rfl := Turn.close.inj (Except.ok.inj (found.symm.trans ends))
      exact ⟨rfl, rfl⟩
    | cons item others =>
      obtain ⟨_, goesOn⟩ := next item others (index == 0)
      exact nomatch found.symm.trans goesOn
  | cons value values inductionHypothesis =>
    obtain ⟨start, _, middle, found, read, later⟩ := takes_decodeItems_cons_iff.mp taken
    obtain ⟨readsValue, readsOthers⟩ := List.forall_mem_cons.mp each
    cases written with
    | nil =>
      obtain ⟨_, ends⟩ := last (index == 0)
      exact nomatch found.symm.trans ends
    | cons item others =>
      obtain ⟨_, goesOn⟩ := next item others (index == 0)
      obtain rfl := Turn.element.inj (Except.ok.inj (found.symm.trans goesOn))
      obtain ⟨rfl, rfl⟩ := readsValue item _ middle read
      obtain ⟨rfl, rfl⟩ := inductionHypothesis readsOthers (index + 1) others later
      exact ⟨rfl, rfl⟩

/-- A text that is read as strings and lists was written for them. -/
theorem written_of_takes_textual {value : Value} (textual : value.IsTextual) (depth : Nat)
    (written : Value) (tail rest : Bytes)
    (taken : Takes (decodeValue depth (Utf8.encode written.write ++ tail)) value rest) :
    written = value ∧ rest = tail := by
  induction textual generalizing depth written tail rest with
  | string text => exact written_of_takes_string (takes_decodeValue_string_iff.mp taken)
  | array items each inductionHypothesis =>
    obtain ⟨byte, behind, bytes, first⟩ := exists_firstByte written
    cases depth with
    | zero =>
      obtain ⟨_, _, impossible⟩ := takes_decodeWith_array_iff.mp taken
      exact absurd impossible not_takes_error
    | succ depth =>
      obtain ⟨inner, found, read⟩ := takes_decodeValue_array_iff.mp taken
      rw [bytes, List.cons_append, skipGap_of_notGap _ _ first.notGap] at found
      obtain ⟨isBracket, -⟩ := List.cons.inj found
      obtain ⟨others, rfl⟩ := first.bracket isBracket
      rw [← List.cons_append, ← bytes, encode_write_array] at found
      obtain ⟨-, rfl⟩ := List.cons.inj found
      obtain ⟨rfl, rfl⟩ := written_of_takes_items items
        (fun item inside => inductionHypothesis item inside depth) 0 others read
      exact ⟨rfl, rfl⟩

end Written

section Documents

/-- A document is its value, with nothing but blanks behind it. -/
theorem document_eq_ok_iff {α : Type} (decoder : Decoder α) (text : Bytes) (value : α) :
    decoder.document text = .ok value ↔
      ∃ rest, Takes (decoder text) value rest ∧ (skipGap rest).isEmpty = true := by
  rw [Decoder.document]
  cases read : decoder text with
  | error failure =>
    constructor
    · intro equal
      cases equal
    · rintro ⟨rest, taken, -⟩
      exact absurd taken not_takes_error
  | ok parsed =>
    simp only [bind, Except.bind]
    constructor
    · intro equal
      split_ifs at equal with ends
      exact ⟨parsed.rest, ⟨parsed, rfl, Except.ok.inj equal, rfl⟩, ends⟩
    · rintro ⟨rest, ⟨_, same, rfl, rfl⟩, ends⟩
      obtain rfl := Except.ok.inj same
      exact if_pos ends

theorem textBytes_text (value : Value) : textBytes value.text = Utf8.encode value.write := by
  rw [textBytes, Value.text, String.toList_ofList]

/-- A value that is not nested too deeply is read from its text. -/
theorem document_text (value : Value) (fits : value.Fits greatestDepth) :
    Decoder.any.document (textBytes value.text) = .ok value := by
  have taken := (reads_decodeValue greatestDepth value fits).2 [] (by simp [EndsNumber])
  rw [List.append_nil, ← textBytes_text] at taken
  exact (document_eq_ok_iff Decoder.any _ value).mpr ⟨[], taken, rfl⟩

/-- A text whose value is not accepted is refused. -/
theorem document_refine_of_none {α β : Type} {decoder : Decoder α} {accept : α → Option β}
    {text rest : Bytes} {value : α} (taken : Takes (decoder text) value rest)
    (notAccepted : accept value = none) :
    (decoder.refine accept).document text = .error (here .unsuitable) := by
  obtain ⟨parsed, read, rfl, rfl⟩ := taken
  rw [Decoder.document, Decoder.refine, read]
  simp only [bind, Except.bind, notAccepted]

end Documents

end ConfinedHttp.Json
