import ConfinedHttp.Domain.Punycode
import Mathlib

namespace ConfinedHttp.Domain.Punycode

/-- A digit of a number in a label. -/
def IsDigit (character : Char) : Prop := ∃ value < 36, character = digit value

theorem digitValue_digit (value : Nat) (small : value < 36) :
    digitValue? (digit value) = some value := by
  revert value
  decide

theorem threshold_bounds (position bias : Nat) :
    1 ≤ threshold position bias ∧ threshold position bias ≤ 26 :=
  ⟨Nat.le_max_left .., Nat.max_le.mpr ⟨by decide, Nat.min_le_left ..⟩⟩

/-- A digit that is not the last one stands between its threshold and 36. -/
theorem digit_bounds (number position bias : Nat) :
    let least := threshold position bias
    least ≤ least + (number - least) % (36 - least) ∧
      least + (number - least) % (36 - least) < 36 := by
  intro least
  have bounds := threshold_bounds position bias
  have remainder : (number - least) % (36 - least) < 36 - least := Nat.mod_lt _ (by omega)
  omega

section Digits

/-- A number is written in digits below 36. -/
theorem isDigit_of_mem_writeNumber (bias number position : Nat) :
    ∀ character ∈ writeNumber bias number position, IsDigit character := by
  fun_induction writeNumber bias number position with
  | case1 number position least below =>
    have bounds := threshold_bounds position bias
    intro character inside
    exact ⟨number, by omega, List.mem_singleton.mp inside⟩
  | case2 number position least below inductionHypothesis =>
    intro character inside
    obtain rfl | later := List.mem_cons.mp inside
    · exact ⟨_, (digit_bounds number position bias).2, rfl⟩
    · exact inductionHypothesis character later

/-- Passing a character adds at most one number. -/
theorem isDigit_of_mem_pass (basic code : Nat) (writing : Writing) (character : Char)
    (before : ∀ digit ∈ writing.digits, IsDigit digit) :
    ∀ digit ∈ (pass basic code writing character).digits, IsDigit digit := by
  rw [pass]
  split
  · exact before
  · split
    · intro digit inside
      obtain earlier | here := List.mem_append.mp inside
      · exact before digit earlier
      · exact isDigit_of_mem_writeNumber _ _ _ digit here
    · exact before

theorem isDigit_of_mem_passes (basic code : Nat) (label : List Char) (writing : Writing)
    (before : ∀ digit ∈ writing.digits, IsDigit digit) :
    ∀ digit ∈ (label.foldl (pass basic code) writing).digits, IsDigit digit := by
  induction label generalizing writing with
  | nil => exact before
  | cons character rest inductionHypothesis =>
    exact inductionHypothesis _ (isDigit_of_mem_pass basic code writing character before)

theorem isDigit_of_mem_writeCodes (label : List Char) (basic next : Nat) (writing : Writing)
    (codes : List Nat) (before : ∀ digit ∈ writing.digits, IsDigit digit) :
    ∀ digit ∈ (writeCodes label basic next writing codes).digits, IsDigit digit := by
  induction codes generalizing next writing with
  | nil => exact before
  | cons code others inductionHypothesis =>
    exact inductionHypothesis _ _ (isDigit_of_mem_passes basic code label _ before)

end Digits

/-- The ASCII characters of a label. -/
def basicOf (label : List Char) : List Char := label.filter (·.toNat < 128)

/-- The codes of the other characters, each once and in increasing order. -/
def codesOf (label : List Char) : List Nat :=
  ((label.map Char.toNat).filter (128 ≤ ·)).foldr insertCode []

/-- The digits that stand behind the ASCII characters. -/
def digitsOf (label : List Char) : List Char :=
  (writeCodes label (basicOf label).length 128 ⟨0, 72, (basicOf label).length, []⟩
    (codesOf label)).digits

theorem encode_eq (label : List Char) :
    encode label =
      basicOf label ++ (if (basicOf label).isEmpty then [] else ['-']) ++ digitsOf label := rfl

theorem isDigit_of_mem_digitsOf (label : List Char) :
    ∀ character ∈ digitsOf label, IsDigit character :=
  isDigit_of_mem_writeCodes label _ _ _ _ (by simp)

/-- A digit below its threshold ends the number. -/
theorem step_of_lt (reading : Reading) (value : Nat)
    (below : value < threshold reading.position reading.bias) :
    reading.step? (digit value) = reading.insert? (reading.number + value * reading.weight) := by
  have bounds := threshold_bounds reading.position reading.bias
  simp [Reading.step?, digitValue_digit value (by omega), below]

/-- Another digit is added with its weight. -/
theorem step_of_le (reading : Reading) (value : Nat) (small : value < 36)
    (notBelow : threshold reading.position reading.bias ≤ value) :
    reading.step? (digit value) =
      some { reading with
        number := reading.number + value * reading.weight
        weight := reading.weight * (36 - threshold reading.position reading.bias)
        position := reading.position + 36 } := by
  simp [Reading.step?, digitValue_digit value small, notBelow]

/-- Reading the digits of a number ends with the insertion that the number says, added to what was
gathered before.  The digits weigh as much as the reading says. -/
theorem foldlM_writeNumber (bias number position : Nat) (reading : Reading)
    (sameBias : reading.bias = bias) (here : reading.position = position) :
    (writeNumber bias number position).foldlM Reading.step? reading =
      reading.insert? (reading.number + number * reading.weight) := by
  fun_induction writeNumber bias number position generalizing reading with
  | case1 number position least below =>
    subst sameBias here
    rw [List.foldlM_cons, step_of_lt reading number below]
    simp
  | case2 number position least notBelow inductionHypothesis =>
    subst sameBias here
    obtain ⟨notLast, small⟩ := digit_bounds number reading.position reading.bias
    have bounds := threshold_bounds reading.position reading.bias
    have divided := Nat.mod_add_div' (number - least) (36 - least)
    have whole : least + (number - least) % (36 - least) +
        (number - least) / (36 - least) * (36 - least) = number := by
      omega
    have next := inductionHypothesis { reading with
      number := reading.number + (least + (number - least) % (36 - least)) * reading.weight
      weight := reading.weight * (36 - least)
      position := reading.position + 36 } rfl rfl
    rw [List.foldlM_cons, step_of_le reading _ small notLast, Option.bind_eq_bind,
      Option.bind_some]
    refine next.trans ?_
    change reading.insert? _ = _
    congr 1
    calc
      reading.number + (least + (number - least) % (36 - least)) * reading.weight +
          (number - least) / (36 - least) * (reading.weight * (36 - least)) =
        reading.number + (least + (number - least) % (36 - least) +
          (number - least) / (36 - least) * (36 - least)) * reading.weight := by ring
      _ = reading.number + number * reading.weight := by rw [whole]

/-- A reader that has read nothing but the ASCII characters. -/
def startOf (basic : List Char) : Reading := ⟨basic, 128, 0, 72, 0, 1, 36⟩

/-- A reader has followed a writer that is passing the characters of a label and writes those with
one code.  It holds all smaller characters and, of those equal to the code, the ones that were
passed.  What the writer has counted leads from the last insertion to the place reached. -/
structure Follows (basic : List Char) (code : Nat) (passed rest : List Char) (writing : Writing)
    (reading : Reading) : Prop where
  run : writing.digits.foldlM Reading.step? (startOf basic) = some reading
  label : reading.label = passed.filter (·.toNat ≤ code) ++ rest.filter (·.toNat < code)
  place : reading.code * (reading.label.length + 1) + reading.place + writing.delta =
    code * (reading.label.length + 1) + (passed.filter (·.toNat ≤ code)).length
  written : writing.written = reading.label.length
  bias : writing.bias = reading.bias
  fresh : reading.number = 0 ∧ reading.weight = 1 ∧ reading.position = 36
  first : reading.place = 0 ↔ writing.written = basic.length
  basic_le : basic.length ≤ writing.written

variable {basic : List Char} {code : Nat} {passed rest : List Char} {writing : Writing}
  {reading : Reading}

/-- The number that a writer writes leads its reader to the place of the next insertion. -/
theorem Follows.place_spec (follows : Follows basic code passed rest writing reading) :
    let size := reading.label.length + 1
    reading.code + (reading.place + writing.delta) / size = code ∧
      (reading.place + writing.delta) % size = (passed.filter (·.toNat ≤ code)).length := by
  intro size
  have reached := follows.place
  have within : (passed.filter (·.toNat ≤ code)).length < size := by
    have length := congrArg List.length follows.label
    rw [List.length_append] at length
    omega
  have notAhead : reading.code ≤ code := by
    by_contra ahead
    have further : (code + 1) * size ≤ reading.code * size := Nat.mul_le_mul_right _ (by omega)
    rw [Nat.add_mul] at further
    change reading.code * size + reading.place + writing.delta = code * size + _ at reached
    omega
  obtain ⟨steps, rfl⟩ := Nat.exists_eq_add_of_le notAhead
  have split : reading.place + writing.delta =
      (passed.filter (·.toNat ≤ reading.code + steps)).length + size * steps := by
    have spread : (reading.code + steps) * size = reading.code * size + size * steps := by ring
    change reading.code * size + reading.place + writing.delta =
      (reading.code + steps) * size + _ at reached
    omega
  rw [split, Nat.add_mul_div_left _ _ (by omega), Nat.add_mul_mod_self_left,
    Nat.div_eq_of_lt within, Nat.mod_eq_of_lt within]
  exact ⟨by omega, rfl⟩

theorem insertIdx_length_append (front back : List Char) (character : Char) :
    (front ++ back).insertIdx front.length character = front ++ character :: back := by
  induction front with
  | nil => rfl
  | cons first others inductionHypothesis =>
    rw [List.cons_append, List.length_cons, List.insertIdx_succ_cons, inductionHypothesis,
      List.cons_append]

/-- The reader of a written number inserts the character with the code behind the ones that are
equal to it and were passed. -/
theorem Follows.insert {character : Char}
    (follows : Follows basic code passed (character :: rest) writing reading)
    (equal : character.toNat = code) :
    reading.insert? writing.delta =
      some
        { label := passed.filter (·.toNat ≤ code) ++ character :: rest.filter (·.toNat < code)
          code := code
          place := (passed.filter (·.toNat ≤ code)).length + 1
          bias := adapt writing.delta (writing.written + 1) (writing.written == basic.length)
          number := 0
          weight := 1
          position := 36 } := by
  obtain ⟨reachedCode, reachedPlace⟩ := follows.place_spec
  have valid : code.isValidChar := equal ▸ character.valid
  have isFirst : (reading.place == 0) = (writing.written == basic.length) := by
    rw [Bool.eq_iff_iff, beq_iff_eq, beq_iff_eq]
    exact follows.first
  have placed : reading.label.insertIdx (passed.filter (·.toNat ≤ code)).length (Char.ofNat code) =
      passed.filter (·.toNat ≤ code) ++ character :: rest.filter (·.toNat < code) := by
    rw [follows.label, ← equal, Char.ofNat_toNat, insertIdx_length_append]
    simp
  simp only [Reading.insert?, reachedCode, reachedPlace, if_pos valid, placed, isFirst,
    follows.written]

/-- A reader follows a writer that passes one more character. -/
theorem Follows.pass {character : Char}
    (follows : Follows basic code passed (character :: rest) writing reading) :
    ∃ next, Follows basic code (passed ++ [character]) rest
      (Punycode.pass basic.length code writing character) next := by
  obtain smaller | equal | larger := Nat.lt_trichotomy character.toNat code
  · have kept : character.toNat ≤ code := Nat.le_of_lt smaller
    have reached := follows.place
    refine ⟨reading, ?_⟩
    rw [Punycode.pass, if_pos smaller]
    exact
      { follows with
        label := by simp [follows.label, smaller, kept]
        place := by
          rw [List.filter_append, List.length_append, ← Nat.add_assoc, ← Nat.add_assoc, reached]
          simp [kept] }
  · have inserted := follows.insert equal
    obtain ⟨number, weight, position⟩ := follows.fresh
    have size := congrArg List.length follows.label
    have written := follows.written
    have basic_le := follows.basic_le
    have run : (writing.digits ++ writeNumber writing.bias writing.delta 36).foldlM Reading.step?
        (startOf basic) = reading.insert? writing.delta := by
      rw [List.foldlM_append, follows.run, Option.bind_eq_bind, Option.bind_some,
        foldlM_writeNumber _ _ _ _ follows.bias.symm position, number, weight, Nat.zero_add,
        Nat.mul_one]
    rw [Punycode.pass, if_neg (by omega), if_pos equal]
    exact ⟨_,
      { run := run.trans inserted
        label := by simp [equal]
        place := by simp [equal]
        written := by
          simp [equal] at size ⊢
          omega
        bias := rfl
        fresh := ⟨rfl, rfl, rfl⟩
        first := by
          simp
          omega
        basic_le := Nat.le_succ_of_le basic_le }⟩
  · have notSmaller : ¬ character.toNat < code := by omega
    have notKept : ¬ character.toNat ≤ code := by omega
    refine ⟨reading, ?_⟩
    rw [Punycode.pass, if_neg notSmaller, if_neg (by omega)]
    exact
      { follows with
        label := by simp [follows.label, notSmaller, notKept]
        place := by simpa [List.filter_append, notKept] using follows.place }

/-- A reader follows a writer that passes the rest of the label. -/
theorem Follows.passes (follows : Follows basic code passed rest writing reading) :
    ∃ next, Follows basic code (passed ++ rest) []
      (rest.foldl (Punycode.pass basic.length code) writing) next := by
  induction rest generalizing passed writing reading with
  | nil => exact ⟨reading, by simpa using follows⟩
  | cons character rest inductionHypothesis =>
    obtain ⟨next, followsNext⟩ := follows.pass
    simpa using inductionHypothesis followsNext

/-- Behind the last character of the label, the writer goes on with the next code. -/
theorem Follows.next {label : List Char} (follows : Follows basic code label [] writing reading) :
    Follows basic (code + 1) [] label { writing with delta := writing.delta + 1 } reading := by
  have whole : reading.label = label.filter (·.toNat ≤ code) := by simpa using follows.label
  have reached := follows.place
  exact
    { follows with
      label := by simp [whole]
      place := by
        rw [← whole] at reached
        simp only [List.filter_nil, List.length_nil, Nat.add_mul]
        omega }

/-- The writer skips codes that the label does not hold. -/
theorem Follows.skip {label : List Char} {next : Nat}
    (follows : Follows basic next [] label writing reading) (ahead : next ≤ code)
    (absent : ∀ character ∈ label, character.toNat < code → character.toNat < next) :
    Follows basic code [] label
      { writing with delta := writing.delta + (code - next) * (writing.written + 1) } reading := by
  have reached := follows.place
  obtain ⟨steps, rfl⟩ := Nat.exists_eq_add_of_le ahead
  exact
    { follows with
      label := by
        rw [follows.label, List.filter_nil, List.filter_nil, List.filter_congr]
        intro character inside
        have := absent character inside
        simp only [decide_eq_decide]
        omega
      place := by
        rw [Nat.add_sub_cancel_left, follows.written, Nat.add_mul]
        simp only [List.filter_nil, List.length_nil] at reached ⊢
        omega }

/-- Once all codes of a label are written, the reader holds the label. -/
theorem Follows.writeCodes {label : List Char} {next : Nat} {codes : List Nat}
    (follows : Follows basic next [] label writing reading)
    (increasing : codes.Pairwise (· < ·)) (ahead : ∀ code ∈ codes, next ≤ code)
    (all : ∀ character ∈ label, next ≤ character.toNat → character.toNat ∈ codes) :
    ∃ final : Reading,
      (Punycode.writeCodes label basic.length next writing codes).digits.foldlM Reading.step?
          (startOf basic) = some final ∧
        final.position = 36 ∧ final.label = label := by
  induction codes generalizing next writing reading with
  | nil =>
    refine ⟨reading, follows.run, follows.fresh.2.2, ?_⟩
    rw [follows.label, List.filter_nil, List.nil_append, List.filter_eq_self]
    intro character inside
    have := all character inside
    simp at this
    simpa using this
  | cons code others inductionHypothesis =>
    obtain ⟨first, increasing⟩ := List.pairwise_cons.mp increasing
    have skipped := follows.skip (ahead code (List.mem_cons_self ..))
      fun character inside below => by
        by_contra notBefore
        obtain equal | later := List.mem_cons.mp (all character inside (by omega))
        · omega
        · have := first _ later
          omega
    obtain ⟨reached, passes⟩ := skipped.passes
    refine inductionHypothesis passes.next increasing (fun other inside => first other inside)
      fun character inside above => ?_
    obtain equal | later := List.mem_cons.mp
      (all character inside (by have := ahead code (List.mem_cons_self ..); omega))
    · omega
    · exact later

theorem mem_insertCode_iff (code other : Nat) (codes : List Nat) :
    other ∈ insertCode code codes ↔ other = code ∨ other ∈ codes := by
  fun_induction insertCode code codes <;> simp_all
  tauto

theorem pairwise_insertCode (code : Nat) (codes : List Nat) (increasing : codes.Pairwise (· < ·)) :
    (insertCode code codes).Pairwise (· < ·) := by
  induction codes with
  | nil => simp [insertCode]
  | cons next rest inductionHypothesis =>
    obtain ⟨first, rest_increasing⟩ := List.pairwise_cons.mp increasing
    rw [insertCode]
    split_ifs with before equal
    · refine List.pairwise_cons.mpr ⟨fun other inside => ?_, increasing⟩
      obtain rfl | later := List.mem_cons.mp inside
      · exact before
      · exact before.trans (first other later)
    · exact increasing
    · refine List.pairwise_cons.mpr ⟨fun other inside => ?_, inductionHypothesis rest_increasing⟩
      obtain rfl | later := (mem_insertCode_iff ..).mp inside
      · omega
      · exact first other later

theorem pairwise_codesOf (label : List Char) : (codesOf label).Pairwise (· < ·) := by
  rw [codesOf]
  induction (label.map Char.toNat).filter (128 ≤ ·) with
  | nil => simp
  | cons code rest inductionHypothesis =>
    exact pairwise_insertCode code _ inductionHypothesis

theorem mem_codesOf_iff (label : List Char) (code : Nat) :
    code ∈ codesOf label ↔ 128 ≤ code ∧ ∃ character ∈ label, character.toNat = code := by
  have inserted (codes : List Nat) : code ∈ codes.foldr insertCode [] ↔ code ∈ codes := by
    induction codes with
    | nil => simp
    | cons first rest inductionHypothesis =>
      rw [List.foldr_cons, mem_insertCode_iff, inductionHypothesis, List.mem_cons]
  rw [codesOf, inserted]
  simp [and_comm]

/-- The numbers behind the ASCII characters of a label are read as its other characters. -/
theorem readNumbers_digitsOf (label : List Char) :
    readNumbers (basicOf label) (digitsOf label) = some label := by
  have start : Follows (basicOf label) 128 [] label ⟨0, 72, (basicOf label).length, []⟩
      (startOf (basicOf label)) :=
    { run := rfl
      label := rfl
      place := by simp [startOf]
      written := rfl
      bias := rfl
      fresh := ⟨rfl, rfl, rfl⟩
      first := by simp [startOf]
      basic_le := Nat.le_refl _ }
  obtain ⟨final, run, position, isLabel⟩ := start.writeCodes (pairwise_codesOf label)
    (fun code inside => ((mem_codesOf_iff label code).mp inside).1)
    fun character inside above => (mem_codesOf_iff label _).mpr ⟨above, character, inside, rfl⟩
  rw [readNumbers]
  change (do
    let reading ← (digitsOf label).foldlM Reading.step? (startOf (basicOf label))
    if reading.position = 36 then some reading.label else none) = _
  rw [digitsOf, run]
  simp [position, isLabel]

theorem digit_ne_hyphen (character : Char) (isDigit : IsDigit character) : character ≠ '-' := by
  obtain ⟨value, small, rfl⟩ := isDigit
  revert value
  decide

/-- The ASCII form of a label stands for the label. -/
theorem decode_encode (label : List Char) : decode? (encode label) = some label := by
  have noHyphen : ∀ character ∈ (digitsOf label).reverse, (character != '-') = true := by
    intro character inside
    simpa using digit_ne_hyphen character
      (isDigit_of_mem_digitsOf label character (List.mem_reverse.mp inside))
  have numbers := readNumbers_digitsOf label
  rw [encode_eq]
  by_cases bare : basicOf label = []
  · rw [bare] at numbers ⊢
    simp only [List.isEmpty_nil, if_true, List.nil_append, decode?,
      List.takeWhile_eq_self_iff.mpr noHyphen, List.reverse_reverse, numbers]
  · have isSome : (basicOf label).isEmpty = false := by simpa using bare
    have last : ((basicOf label ++ ['-'] ++ digitsOf label).reverse.takeWhile (· != '-')).reverse =
        digitsOf label := by
      rw [List.reverse_append, List.takeWhile_append_of_pos noHyphen]
      simp
    simp only [isSome, Bool.false_eq_true, if_false, decode?, last]
    have longer : (digitsOf label).length ≠ (basicOf label ++ ['-'] ++ digitsOf label).length := by
      simp only [List.length_append, List.length_singleton]
      omega
    have front : (basicOf label ++ ['-'] ++ digitsOf label).take
        ((basicOf label ++ ['-'] ++ digitsOf label).length - (digitsOf label).length) =
          basicOf label ++ ['-'] := by
      rw [List.length_append, Nat.add_sub_cancel, List.take_left]
    rw [if_neg longer, front, List.dropLast_concat, isSome]
    exact numbers

/-- Every character that is inserted is past ASCII. -/
theorem wide_of_insert {reading next : Reading} {number : Nat}
    (inserted : reading.insert? number = some next) (wide : 128 ≤ reading.code) :
    128 ≤ next.code ∧ next.position = 36 ∧ ∃ other ∈ next.label, 128 ≤ other.toNat := by
  simp only [Reading.insert?] at inserted
  split at inserted
  case isTrue valid =>
    have within : (reading.place + number) % (reading.label.length + 1) ≤ reading.label.length :=
      Nat.le_of_lt_succ (Nat.mod_lt _ (Nat.succ_pos _))
    obtain rfl := Option.some.inj inserted
    have above := Nat.le_add_right_of_le
      (k := (reading.place + number) / (reading.label.length + 1)) wide
    refine ⟨above, rfl, _, (List.mem_insertIdx within).mpr (.inl rfl), ?_⟩
    rw [Char.toNat_ofNat, if_pos valid]
    exact above
  case isFalse => cases inserted

/-- A digit that ends a number inserts a character past ASCII. -/
theorem wide_of_step {reading next : Reading} {character : Char}
    (step : reading.step? character = some next) (wide : 128 ≤ reading.code)
    (inside : 0 < reading.position) :
    128 ≤ next.code ∧ 0 < next.position ∧
      (next.position = 36 → ∃ other ∈ next.label, 128 ≤ other.toNat) := by
  simp only [Reading.step?, Option.bind_eq_bind, Option.bind_eq_some_iff] at step
  obtain ⟨value, -, step⟩ := step
  split at step
  · obtain ⟨nextWide, position, held⟩ := wide_of_insert step wide
    exact ⟨nextWide, by omega, fun _ => held⟩
  · obtain rfl := Option.some.inj step
    refine ⟨wide, Nat.succ_pos _, fun atStart => ?_⟩
    simp only at atStart
    omega

/-- Digits that end with a number insert a character past ASCII. -/
theorem wide_of_foldlM (digits : List Char) (some : digits ≠ []) (reading final : Reading)
    (run : digits.foldlM Reading.step? reading = .some final) (wide : 128 ≤ reading.code)
    (inside : 0 < reading.position) (ended : final.position = 36) :
    ∃ character ∈ final.label, 128 ≤ character.toNat := by
  induction digits generalizing reading with
  | nil => exact absurd rfl some
  | cons digit rest inductionHypothesis =>
    rw [List.foldlM_cons, Option.bind_eq_bind, Option.bind_eq_some_iff] at run
    obtain ⟨next, step, run⟩ := run
    obtain ⟨nextWide, nextInside, inserted⟩ := wide_of_step step wide inside
    cases rest with
    | nil =>
      obtain rfl : next = final := Option.some.inj run
      exact inserted ended
    | cons other others => exact inductionHypothesis (by simp) next run nextWide nextInside

/-- The label that a text in ASCII stands for is not in ASCII, if the text ends in a digit. -/
theorem wide_of_decode (written label : List Char) (decoded : decode? written = some label)
    (last : written.getLast?.any (· != '-') = true) :
    ∃ character ∈ label, 128 ≤ character.toNat := by
  have digits : (written.reverse.takeWhile (· != '-')).reverse ≠ [] := by
    rw [← List.head?_reverse] at last
    cases reversed : written.reverse with
    | nil => simp [reversed] at last
    | cons first rest =>
      rw [reversed] at last
      have plain : (first != '-') = true := by simpa using last
      simp [plain]
  have numbers (basic text : List Char) (some : text ≠ [])
      (read : readNumbers basic text = .some label) :
      ∃ character ∈ label, 128 ≤ character.toNat := by
    simp only [readNumbers, Option.bind_eq_bind, Option.bind_eq_some_iff] at read
    obtain ⟨final, run, read⟩ := read
    split at read
    case isTrue ended =>
      rw [← Option.some.inj read]
      exact wide_of_foldlM text some _ final run (by simp) (by simp) ended
    case isFalse => cases read
  rw [decode?] at decoded
  split at decoded
  case isTrue whole =>
    refine numbers [] written ?_ decoded
    rintro rfl
    simp at digits
  case isFalse =>
    split at decoded
    · cases decoded
    · exact numbers _ _ digits decoded

end ConfinedHttp.Domain.Punycode
