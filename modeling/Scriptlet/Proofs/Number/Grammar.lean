import Scriptlet.Proofs.Number.Text

/-!
# The grammar of numerals

`Numeral.Spells` says which texts are numerals and what they denote, without any reference to how
they are read: digits with a point at most, between an optional sign and an optional exponent, or a
word for infinity or for what is not a number. Reading also knows hexadecimal digits and
separators; the checks in front of it take out these and nothing else, so that what is left is the
grammar. The texts that numbers are printed as belong to it, so that every number is read back from
its text.

An exponent is counted by its first five significant digits. That differs from its value only if the
value has six digits or more, and then the decimal is beyond all numbers, or vanishes, unless
thousands of zeros stand against it.
-/

namespace Scriptlet

namespace Numeral

/-- An optional sign, and whether it is a minus. -/
inductive Sign : Text → Bool → Prop where
  | none : Sign [] false
  | plus : Sign [byte '+'] false
  | minus : Sign [byte '-'] true

/-- Digits with a point at most: all the digits, and how many of them follow the point. -/
inductive Mantissa : Text → Text → Nat → Prop where
  | whole {digits : Text} (starts : digits ≠ []) (areDigits : ∀ digit ∈ digits, isDigit digit) :
      Mantissa digits digits 0
  | pointed {digits places : Text} (starts : digits ++ places ≠ [])
      (areDigits : ∀ digit ∈ digits, isDigit digit)
      (arePlaces : ∀ digit ∈ places, isDigit digit) :
      Mantissa (digits ++ byte '.' :: places) (digits ++ places) places.length

/-- An optional exponent, given what its digits count. -/
inductive Exponent (count : Text → Nat) : Text → Int → Prop where
  | none : Exponent count [] 0
  | written {letter : UInt8} {sign digits : Text} {negative : Bool}
      (isLetter : letter = byte 'e' ∨ letter = byte 'E') (signed : Sign sign negative)
      (starts : digits ≠ []) (areDigits : ∀ digit ∈ digits, isDigit digit) :
      Exponent count (letter :: (sign ++ digits))
        (if negative then -(count digits : Int) else count digits)

/-- The numerals and what they denote. -/
inductive Spells (count : Text → Nat) : Text → Numeral → Prop where
  | decimal {sign mantissa power digits : Text} {negative : Bool} {places : Nat} {exponent : Int}
      (signed : Sign sign negative) (isMantissa : Mantissa mantissa digits places)
      (isExponent : Exponent count power exponent) :
      Spells count (sign ++ (mantissa ++ power))
        (.decimal negative ⟨ofDigits 10 digits, exponent - places⟩)
  | infinite {sign word : Text} {negative : Bool} (signed : Sign sign negative)
      (isWord : word.map lower = text "inf" ∨ word.map lower = text "infinity") :
      Spells count (sign ++ word) (.infinite negative)
  | nan {word : Text} (isWord : word.map lower = text "nan") : Spells count word .nan

/-- No sign stands at the start. -/
def Unsigned (source : Text) : Prop :=
  ∀ first rest, source = first :: rest → first ≠ byte '-' ∧ first ≠ byte '+'

theorem unsigned_of_isDigit {digits : Text} (areDigits : ∀ digit ∈ digits, isDigit digit) :
    Unsigned digits := by
  rintro first rest rfl
  have digit := areDigits first (.head rest)
  constructor
  · rintro rfl
    cases digit
  · rintro rfl
    cases digit

theorem Sign.splitSign_append {sign : Text} {negative : Bool} (signed : Sign sign negative)
    {rest : Text} (unsigned : Unsigned rest) : splitSign (sign ++ rest) = (negative, rest) := by
  cases signed with
  | none =>
      cases rest with
      | nil => rfl
      | cons first more =>
          rcases unsigned first more rfl with ⟨noMinus, noPlus⟩
          simp [splitSign, noMinus, noPlus]
  | plus => rfl
  | minus => rfl

theorem exists_sign (source : Text) :
    ∃ sign, Sign sign (splitSign source).1 ∧ source = sign ++ (splitSign source).2 := by
  cases source with
  | nil => exact ⟨[], .none, rfl⟩
  | cons first rest =>
      by_cases isMinus : first = byte '-'
      · subst isMinus
        exact ⟨_, .minus, rfl⟩
      · by_cases isPlus : first = byte '+'
        · subst isPlus
          exact ⟨_, .plus, rfl⟩
        · refine ⟨[], ?_, ?_⟩
          · simpa [splitSign, isMinus, isPlus] using Sign.none
          · simp [splitSign, isMinus, isPlus]

/-- Neither a digit nor a point stands at the start. -/
def Stops (source : Text) : Prop :=
  ∀ first rest, source = first :: rest → isDigit first = false ∧ first ≠ byte '.'

theorem takeWhile_digits {digits rest : Text} (areDigits : ∀ digit ∈ digits, isDigit digit)
    (stops : ∀ first more, rest = first :: more → isDigit first = false) :
    (digits ++ rest).takeWhile isDigit = digits ∧ (digits ++ rest).dropWhile isDigit = rest := by
  rw [List.takeWhile_append_of_pos areDigits, List.dropWhile_append_of_pos areDigits]
  cases rest with
  | nil => simp
  | cons first more => simp [stops first more rfl]

theorem Mantissa.read_append {mantissa digits rest : Text} {places : Nat}
    (isMantissa : Mantissa mantissa digits places) (stops : Stops rest) :
    mantissa? isDigit (mantissa ++ rest) = some (digits, places, rest) := by
  have ends : ∀ first more, rest = first :: more → isDigit first = false :=
    fun first more same => (stops first more same).1
  cases isMantissa with
  | whole starts areDigits =>
      rcases takeWhile_digits areDigits ends with ⟨taken, dropped⟩
      rw [mantissa?, taken, dropped]
      cases rest with
      | nil => simp [starts]
      | cons first more => simp [starts, (stops first more rfl).2]
  | @pointed whole fraction starts areDigits arePlaces =>
      have noDigit : isDigit (byte '.') = false := by decide
      have pointEnds : ∀ first more, byte '.' :: (fraction ++ rest) = first :: more →
          isDigit first = false := by
        rintro first more ⟨⟩
        exact noDigit
      rcases takeWhile_digits areDigits pointEnds with ⟨taken, dropped⟩
      rcases takeWhile_digits arePlaces ends with ⟨takenToo, droppedToo⟩
      rw [List.append_assoc, List.cons_append, mantissa?, taken, dropped]
      simp only [if_true, takenToo, droppedToo]
      rw [if_neg]
      simpa [List.append_eq_nil_iff] using starts

theorem isDigit_of_mem_takeWhile {source : Text} :
    ∀ digit ∈ source.takeWhile isDigit, isDigit digit :=
  fun _ member => List.mem_takeWhile_imp member

theorem exists_mantissa {source digits rest : Text} {places : Nat}
    (read : mantissa? isDigit source = some (digits, places, rest)) :
    ∃ mantissa, Mantissa mantissa digits places ∧ source = mantissa ++ rest := by
  have parts := @List.takeWhile_append_dropWhile _ isDigit source
  unfold mantissa? at read
  dsimp only at read
  split at read
  · rename_i nothing
    split at read
    · cases read
    · rename_i starts
      cases read
      exact ⟨_, .whole (by simpa using starts) isDigit_of_mem_takeWhile,
        by rw [← nothing, parts]⟩
  · rename_i next more after
    rw [after] at parts
    split at read
    · rename_i point
      subst point
      split at read
      · cases read
      · rename_i starts
        cases read
        refine ⟨_, .pointed ?_ isDigit_of_mem_takeWhile isDigit_of_mem_takeWhile, ?_⟩
        · simpa using starts
        · rw [List.append_assoc, List.cons_append, List.takeWhile_append_dropWhile, parts]
    · split at read
      · cases read
      · rename_i starts
        cases read
        exact ⟨_, .whole (by simpa using starts) isDigit_of_mem_takeWhile, parts.symm⟩

theorem lower_eq_letter_iff {item : UInt8} :
    lower item = byte 'e' ↔ item = byte 'e' ∨ item = byte 'E' := by
  constructor
  · intro same
    unfold lower at same
    split at same
    · rename_i upper
      right
      simp only [Bool.and_eq_true, decide_eq_true_eq, UInt8.le_iff_toNat_le] at upper
      have sum := congrArg UInt8.toNat same
      rw [UInt8.toNat_add] at sum
      apply UInt8.toNat.inj
      have letters : (byte 'e').toNat = 101 ∧ (byte 'E').toNat = 69 := by decide
      have ends : (65 : UInt8).toNat = 65 ∧ (90 : UInt8).toNat = 90 ∧ (32 : UInt8).toNat = 32 := by
        decide
      omega
    · exact .inl same
  · rintro (rfl | rfl)
    · decide
    · decide

theorem exponent?_eq_some_iff {source : Text} {exponent : Int} :
    exponent? 'e' false source = some exponent ↔ Exponent saturating source exponent := by
  constructor
  · intro read
    cases source with
    | nil =>
        cases read
        exact .none
    | cons letter rest =>
        rcases exists_sign rest with ⟨sign, signed, whole⟩
        unfold exponent? at read
        dsimp only at read
        split at read
        · rename_i passes
          simp only [Bool.and_eq_true, decide_eq_true_eq, Bool.not_eq_true',
            List.isEmpty_eq_false_iff, List.all_eq_true] at passes
          rcases passes with ⟨⟨isLetter, starts⟩, areDigits⟩
          have written : Exponent saturating _ _ :=
            .written (lower_eq_letter_iff.mp isLetter) signed starts areDigits
          rw [← whole] at written
          cases read
          exact written
        · cases read
  · intro isExponent
    cases isExponent with
    | none => rfl
    | @written letter sign digits negative isLetter signed starts areDigits =>
        have same := signed.splitSign_append (unsigned_of_isDigit areDigits)
        have allDigits : digits.all isDigit := List.all_eq_true.mpr areDigits
        simp [exponent?, same, lower_eq_letter_iff.mpr isLetter, starts, allDigits]

theorem Exponent.stops {count : Text → Nat} {power : Text} {exponent : Int}
    (isExponent : Exponent count power exponent) : Stops power := by
  cases isExponent with
  | none =>
      rintro first rest ⟨⟩
  | written isLetter signed starts areDigits =>
      rintro first rest ⟨⟩
      rcases isLetter with rfl | rfl
      · decide
      · decide

/-- An unsigned numeral that is not hexadecimal is a mantissa with an exponent behind it. -/
theorem unsigned?_eq_some_iff {source : Text} {negative : Bool} {numeral : Numeral}
    (noHexadecimal : isHexadecimal source = false) :
    unsigned? negative source = some numeral ↔
      ∃ mantissa power digits places exponent, Mantissa mantissa digits places ∧
        Exponent saturating power exponent ∧ source = mantissa ++ power ∧
        numeral = .decimal negative ⟨ofDigits 10 digits, exponent - places⟩ := by
  simp only [unsigned?, noHexadecimal, Bool.false_eq_true, if_false]
  constructor
  · intro read
    rcases Option.bind_eq_some_iff.mp read with ⟨⟨digits, places, power⟩, front, behind⟩
    rcases Option.bind_eq_some_iff.mp behind with ⟨exponent, back, same⟩
    rcases exists_mantissa front with ⟨mantissa, isMantissa, whole⟩
    exact ⟨mantissa, power, digits, places, exponent, isMantissa, exponent?_eq_some_iff.mp back,
      whole, (Option.some.inj same).symm⟩
  · rintro ⟨mantissa, power, digits, places, exponent, isMantissa, isExponent, rfl, rfl⟩
    have back := exponent?_eq_some_iff.mpr isExponent
    simp [isMantissa.read_append isExponent.stops, back]

theorem Mantissa.isDigit_or_point {mantissa digits : Text} {places : Nat}
    (isMantissa : Mantissa mantissa digits places) :
    ∀ item ∈ mantissa, isDigit item ∨ item = byte '.' := by
  intro item member
  cases isMantissa with
  | whole starts areDigits => exact .inl (areDigits item member)
  | pointed starts areDigits arePlaces =>
      simp only [List.mem_append, List.mem_cons] at member
      rcases member with inDigits | point | inPlaces
      · exact .inl (areDigits item inDigits)
      · exact .inr point
      · exact .inl (arePlaces item inPlaces)

theorem ne_of_isDigit_or_point {item other : UInt8} (plain : isDigit item ∨ item = byte '.')
    (noDigit : isDigit other = false) (noPoint : other ≠ byte '.') : item ≠ other := by
  rintro rfl
  rcases plain with digit | point
  · rw [noDigit] at digit
    cases digit
  · exact noPoint point

theorem Mantissa.exists_cons {mantissa digits : Text} {places : Nat}
    (isMantissa : Mantissa mantissa digits places) : ∃ first rest, mantissa = first :: rest := by
  apply List.exists_cons_of_ne_nil
  cases isMantissa with
  | whole starts areDigits => exact starts
  | pointed starts areDigits arePlaces => simp

/-- The characters of a decimal that are no digits. -/
def decimalMarks : Text :=
  text ".eE+-"

theorem Sign.mem_decimalMarks {sign : Text} {negative : Bool} (signed : Sign sign negative) :
    ∀ item ∈ sign, item ∈ decimalMarks := by
  cases signed with
  | none => simp
  | plus => decide +kernel
  | minus => decide +kernel

theorem isDigit_or_mark {mantissa power digits : Text} {places : Nat} {count : Text → Nat}
    {exponent : Int} (isMantissa : Mantissa mantissa digits places)
    (isExponent : Exponent count power exponent) :
    ∀ item ∈ mantissa ++ power, isDigit item ∨ item ∈ decimalMarks := by
  intro item member
  rcases List.mem_append.mp member with inFront | inBack
  · rcases isMantissa.isDigit_or_point item inFront with digit | rfl
    · exact .inl digit
    · exact .inr (by decide)
  · cases isExponent with
    | none => cases inBack
    | written isLetter signed starts areDigits =>
        rcases List.mem_cons.mp inBack with rfl | behind
        · right
          rcases isLetter with rfl | rfl
          · decide
          · decide
        · rcases List.mem_append.mp behind with inSign | inDigits
          · exact .inr (signed.mem_decimalMarks item inSign)
          · exact .inl (areDigits item inDigits)

theorem lower_ne_mark {item : UInt8} (plain : isDigit item ∨ item ∈ decimalMarks) :
    lower item ≠ byte 'x' ∧ item ≠ byte '_' := by
  rcases plain with digit | mark
  · rw [lower_of_isDigit_or_point (.inl digit)]
    constructor
    · rintro rfl
      cases digit
    · rintro rfl
      cases digit
  · have others : ∀ mark ∈ decimalMarks, lower mark ≠ byte 'x' ∧ mark ≠ byte '_' := by
      decide +kernel
    exact others item mark

theorem looksHexadecimal_append {sign rest : Text} {negative : Bool} (signed : Sign sign negative)
    (unsigned : Unsigned rest) : looksHexadecimal (sign ++ rest) = isHexadecimal rest := by
  have alone : looksHexadecimal rest = isHexadecimal rest := by
    cases rest with
    | nil => rfl
    | cons first more =>
        rcases unsigned first more rfl with ⟨noMinus, noPlus⟩
        have noSign : ¬(first = 43 ∨ first = 45) := by
          rintro (rfl | rfl)
          · exact noPlus rfl
          · exact noMinus rfl
        simp [looksHexadecimal, noSign]
  cases signed with
  | none => exact alone
  | plus => exact alone
  | minus => exact alone

theorem ofText?_of_unseparated {source : Text} (unseparated : byte '_' ∉ source) :
    ofText? source =
      (special? ((splitSign source).2.length < source.length) (splitSign source).1
        (splitSign source).2).or (unsigned? (splitSign source).1 (splitSign source).2) := by
  rcases exists_sign source with ⟨sign, signed, whole⟩
  have none : byte '_' ∉ (splitSign source).2 := by
    intro member
    rw [whole] at unseparated
    exact unseparated (List.mem_append_right sign member)
  simp only [ofText?]
  cases special? ((splitSign source).2.length < source.length) (splitSign source).1
      (splitSign source).2 with
  | none => simp [none]
  | some numeral => rfl

/-- The numerals that are written as words, in lower case. -/
def words : List Text :=
  [text "inf", text "infinity", text "nan"]

theorem free_of_mem_words : ∀ spelling ∈ words, ∀ item ∈ text "_+-0", item ∉ spelling := by
  decide +kernel

theorem not_mem_word {word : Text} (isWord : word.map lower ∈ words) :
    ∀ item ∈ text "_+-0", item ∉ word := by
  intro item member inWord
  have fixed : ∀ item ∈ text "_+-0", lower item = item := by decide +kernel
  apply free_of_mem_words _ isWord item member
  rw [← fixed item member]
  exact List.mem_map_of_mem inWord

theorem unseparated_word {word : Text} (isWord : word.map lower ∈ words) : byte '_' ∉ word :=
  not_mem_word isWord _ (by decide)

theorem unsigned_word {word : Text} (isWord : word.map lower ∈ words) : Unsigned word := by
  rintro first rest rfl
  constructor
  · rintro rfl
    exact not_mem_word isWord (byte '-') (by decide) (.head rest)
  · rintro rfl
    exact not_mem_word isWord (byte '+') (by decide) (.head rest)

theorem isHexadecimal_word {word : Text} (isWord : word.map lower ∈ words) :
    isHexadecimal word = false := by
  have noZero := not_mem_word isWord (byte '0') (by decide)
  match word with
  | [] => rfl
  | [_] => rfl
  | first :: second :: rest =>
      have other : first ≠ byte '0' := by
        rintro rfl
        exact noZero (.head _)
      simp [isHexadecimal, other]

theorem Mantissa.unsigned_append {mantissa digits : Text} {places : Nat}
    (isMantissa : Mantissa mantissa digits places) (power : Text) :
    Unsigned (mantissa ++ power) := by
  rcases isMantissa.exists_cons with ⟨first, rest, starts⟩
  have plain := isMantissa.isDigit_or_point first (by simp [starts])
  rw [starts]
  rintro _ _ ⟨⟩
  constructor
  · exact ne_of_isDigit_or_point plain (by decide) (by decide)
  · exact ne_of_isDigit_or_point plain (by decide) (by decide)

theorem Mantissa.special?_append {mantissa digits : Text} {places : Nat}
    (isMantissa : Mantissa mantissa digits places) (power : Text) (signed negative : Bool) :
    special? signed negative (mantissa ++ power) = none := by
  rcases isMantissa.exists_cons with ⟨first, rest, starts⟩
  have plain := isMantissa.isDigit_or_point first (by simp [starts])
  have noWord (letter : UInt8) (letters : Text) (noDigit : isDigit letter = false)
      (noPoint : letter ≠ byte '.') : (mantissa ++ power).map lower ≠ letter :: letters := by
    intro same
    rw [starts, List.cons_append, List.map_cons, lower_of_isDigit_or_point plain] at same
    exact ne_of_isDigit_or_point plain noDigit noPoint (List.cons.inj same).1
  have noInf : (mantissa ++ power).map lower ≠ text "inf" := noWord _ _ (by decide) (by decide)
  have noInfinity : (mantissa ++ power).map lower ≠ text "infinity" :=
    noWord _ _ (by decide) (by decide)
  have noNan : (mantissa ++ power).map lower ≠ text "nan" := noWord _ _ (by decide) (by decide)
  simp only [special?, noInf, noInfinity, noNan]
  simp

theorem isHexadecimal_decimal {source : Text}
    (plain : ∀ item ∈ source, isDigit item ∨ item ∈ decimalMarks) :
    isHexadecimal source = false := by
  match source with
  | [] => rfl
  | [_] => rfl
  | first :: second :: rest =>
      have noMark := (lower_ne_mark (plain second (by simp))).1
      simp [isHexadecimal, noMark]

/-- A numeral of the grammar is read as what it denotes, and neither of the checks in front of
reading refuses it. -/
theorem Spells.read {source : Text} {numeral : Numeral}
    (spells : Spells saturating source numeral) :
    byte '_' ∉ source ∧ looksHexadecimal source = false ∧ ofText? source = some numeral := by
  cases spells with
  | @decimal sign mantissa power digits negative places exponent signed isMantissa isExponent =>
      have plain := isDigit_or_mark isMantissa isExponent
      have unsigned := isMantissa.unsigned_append power
      have noHexadecimal := isHexadecimal_decimal plain
      have unseparated : byte '_' ∉ sign ++ (mantissa ++ power) := by
        intro member
        rcases List.mem_append.mp member with inSign | behind
        · exact (lower_ne_mark (.inr (signed.mem_decimalMarks _ inSign))).2 rfl
        · exact (lower_ne_mark (plain _ behind)).2 rfl
      have isRead : unsigned? negative (mantissa ++ power) = _ :=
        (unsigned?_eq_some_iff noHexadecimal).mpr
          ⟨mantissa, power, digits, places, exponent, isMantissa, isExponent, rfl, rfl⟩
      refine ⟨unseparated, ?_, ?_⟩
      · rw [looksHexadecimal_append signed unsigned, noHexadecimal]
      · rw [ofText?_of_unseparated unseparated, signed.splitSign_append unsigned,
          isMantissa.special?_append, Option.none_or, isRead]
  | @infinite sign word negative signed isWord =>
      have known : word.map lower ∈ words := by
        rcases isWord with same | same
        · rw [same]
          decide
        · rw [same]
          decide
      have unsigned := unsigned_word known
      have unseparated : byte '_' ∉ sign ++ word := by
        intro member
        rcases List.mem_append.mp member with inSign | inWord
        · exact (lower_ne_mark (.inr (signed.mem_decimalMarks _ inSign))).2 rfl
        · exact unseparated_word known inWord
      refine ⟨unseparated, ?_, ?_⟩
      · rw [looksHexadecimal_append signed unsigned, isHexadecimal_word known]
      · rw [ofText?_of_unseparated unseparated, signed.splitSign_append unsigned]
        simp [special?, isWord]
  | nan isWord =>
      have known : source.map lower ∈ words := by
        rw [isWord]
        decide
      have unsigned := unsigned_word known
      have unseparated := unseparated_word known
      have noInfinity : text "nan" ≠ text "inf" ∧ text "nan" ≠ text "infinity" := by decide
      refine ⟨unseparated, ?_, ?_⟩
      · exact (looksHexadecimal_append .none unsigned).trans (isHexadecimal_word known)
      · have alone : splitSign source = (false, source) := Sign.none.splitSign_append unsigned
        rw [ofText?_of_unseparated unseparated, alone]
        simp [special?, isWord, noInfinity]

theorem isHexadecimal_of_looksHexadecimal {sign rest : Text} {negative : Bool}
    (signed : Sign sign negative) (looks : looksHexadecimal (sign ++ rest) = false) :
    isHexadecimal rest = false := by
  rw [← Bool.not_eq_true]
  intro hexadecimal
  have unsigned : Unsigned rest := by
    rintro first more rfl
    have zero : first = byte '0' := by
      cases more with
      | nil => cases hexadecimal
      | cons second behind =>
          simp only [isHexadecimal, Bool.and_eq_true, decide_eq_true_eq] at hexadecimal
          exact hexadecimal.1
    rw [zero]
    decide
  rw [looksHexadecimal_append signed unsigned, hexadecimal] at looks
  cases looks

/-- What is read, and not refused before, is a numeral of the grammar. -/
theorem spells_of_read {source : Text} {numeral : Numeral} (unseparated : byte '_' ∉ source)
    (looks : looksHexadecimal source = false) (read : ofText? source = some numeral) :
    Spells saturating source numeral := by
  rcases exists_sign source with ⟨sign, signed, whole⟩
  rw [ofText?_of_unseparated unseparated] at read
  generalize (splitSign source).1 = negative, (splitSign source).2 = rest at signed whole read
  subst whole
  cases special : special? (rest.length < (sign ++ rest).length) negative rest with
  | none =>
      rw [special, Option.none_or] at read
      have noHexadecimal := isHexadecimal_of_looksHexadecimal signed looks
      rcases (unsigned?_eq_some_iff noHexadecimal).mp read with
        ⟨mantissa, power, digits, places, exponent, isMantissa, isExponent, rfl, rfl⟩
      exact .decimal signed isMantissa isExponent
  | some found =>
      rw [special] at read
      cases read
      simp only [special?] at special
      split at special
      · rename_i isWord
        cases special
        exact .infinite signed (by simpa using isWord)
      · split at special
        · rename_i isWord
          cases special
          simp only [Bool.and_eq_true, decide_eq_true_eq, Bool.not_eq_true',
            decide_eq_false_iff_not, List.length_append] at isWord
          have noSign : sign = [] := by
            apply List.eq_nil_of_length_eq_zero
            omega
          rw [noSign, List.nil_append]
          exact .nan isWord.1
        · cases special

/-- A text is accepted exactly if it is a numeral of the grammar, as the number nearest to what it
denotes. -/
theorem decimal?_eq_some_iff {source : Text} {number : Number} :
    decimal? source = some number ↔
      ∃ numeral, Spells saturating source numeral ∧ numeral.value = number := by
  constructor
  · intro accepted
    unfold decimal? at accepted
    split at accepted
    · cases accepted
    · rename_i passes
      simp only [Bool.or_eq_true, List.contains_iff_mem, not_or, Bool.not_eq_true] at passes
      rcases Option.map_eq_some_iff.mp accepted with ⟨numeral, read, value⟩
      exact ⟨numeral, spells_of_read passes.1 passes.2 read, value⟩
  · rintro ⟨numeral, spells, rfl⟩
    rcases spells.read with ⟨unseparated, looks, read⟩
    simp [decimal?, unseparated, looks, read]

theorem Plain.exists_mantissa {source : Text} {decimal : Decimal} (plain : Plain source decimal) :
    ∃ digits places, Mantissa source digits places ∧
      decimal = ⟨ofDigits 10 digits, 0 - (places : Int)⟩ := by
  cases plain with
  | whole starts areDigits => exact ⟨_, _, .whole starts areDigits, rfl⟩
  | @fraction digits places starts areDigits arePlaces =>
      have some : digits ++ places ≠ [] := by simp [starts]
      exact ⟨_, _, .pointed some areDigits arePlaces, by rw [Int.zero_sub]⟩

theorem Plain.isDigit_or_point {source : Text} {decimal : Decimal} (plain : Plain source decimal) :
    ∀ item ∈ source, isDigit item ∨ item = byte '.' := by
  rcases plain.exists_mantissa with ⟨digits, places, isMantissa, -⟩
  exact isMantissa.isDigit_or_point

theorem Plain.not_mem {source : Text} {decimal : Decimal} (plain : Plain source decimal)
    {item : UInt8} (noDigit : isDigit item = false) (noPoint : item ≠ byte '.') :
    item ∉ source := by
  intro member
  exact ne_of_isDigit_or_point (plain.isDigit_or_point item member) noDigit noPoint rfl

/-- A plain numeral behind a sign. -/
theorem Plain.spells_append {source : Text} {decimal : Decimal} (plain : Plain source decimal)
    {sign : Text} {negative : Bool} (signed : Sign sign negative) (count : Text → Nat) :
    Spells count (sign ++ source) (.decimal negative decimal) := by
  rcases plain.exists_mantissa with ⟨digits, places, isMantissa, rfl⟩
  have spells := Spells.decimal signed isMantissa (.none : Exponent count [] 0)
  rwa [List.append_nil] at spells

/-- A plain numeral denotes the number nearest to its decimal. -/
theorem Plain.decimal? {source : Text} {decimal : Decimal} (plain : Plain source decimal) :
    decimal? source = some (decimal.round false) :=
  decimal?_eq_some_iff.mpr ⟨_, plain.spells_append .none _, rfl⟩

end Numeral

namespace Number

/-- Every number is read back from its text. -/
theorem decimal?_text (number : Number) : Numeral.decimal? number.text = some number := by
  cases number with
  | nan => decide
  | infinite negative =>
      cases negative with
      | false => decide
      | true => decide
  | finite negative units representable =>
      rcases (Unsigned.finite units representable).text_cases with
        ⟨isInfinite, -⟩ | ⟨decimal, plain, rounded⟩
      · cases isInfinite
      · cases negative with
        | false => rw [plain.decimal?, rounded]
        | true =>
            have spells := plain.spells_append .minus Numeral.saturating
            have negated := decimal.neg_round false
            rw [List.singleton_append, ← text_finite_true] at spells
            rw [rounded, neg, Bool.not_false] at negated
            exact Numeral.decimal?_eq_some_iff.mpr ⟨_, spells, negated.symm⟩

/-- Different numbers have different texts. -/
theorem text_injective {number other : Number} (same : number.text = other.text) :
    number = other := by
  have read := number.decimal?_text
  rw [same, other.decimal?_text] at read
  exact (Option.some.inj read).symm

end Number

end Scriptlet
