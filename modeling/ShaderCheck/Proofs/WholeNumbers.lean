import Mathlib.Data.List.Basic
import Mathlib.Data.List.Induction
import Mathlib.Data.Nat.Digits.Defs
import ShaderCheck.Literal

/-!
Whole numbers as literals. A digit stands for its place among the digits, and a row of digits for a number in its base.
A literal is written with a mark for its base, a sign, digits and a suffix for its kind. It is read as the number that
the digits denote if its kind has room for it, and is no literal if not.

The language has signs only in front of decimal digits. The reader takes one behind the mark of a hexadecimal number as
well, and this is the only way to write a whole number that the language does not have.
-/

namespace ShaderCheck

namespace Numeral

/-- The digits, each at the place of its number. The letters among them may be of either case. -/
def lowerDigits : List Char := "0123456789abcdef".toList

def upperDigits : List Char := "0123456789ABCDEF".toList

def IsDigit (base : Nat) (c : Char) : Prop := c ∈ lowerDigits.take base ∨ c ∈ upperDigits.take base

instance (base : Nat) : DecidablePred (IsDigit base) := fun _ => inferInstanceAs (Decidable (_ ∨ _))

def digit (c : Char) : Nat := min (lowerDigits.idxOf c) (upperDigits.idxOf c)

/-- The number that a row of digits denotes. The last digit counts once, each one before it the base times as much. -/
def value (base : Nat) (digits : List Char) : Nat := Nat.ofDigits base (digits.reverse.map digit)

def IsBase (base : Nat) : Prop := base = 10 ∨ base = 16

variable {base : Nat}

theorem IsDigit.mem_digits {c : Char} (digit : IsDigit base c) : c ∈ lowerDigits ++ upperDigits :=
  List.mem_append.mpr (digit.imp List.mem_of_mem_take List.mem_of_mem_take)

/-- What holds of each character of a list, checked along the list and not over all characters. -/
theorem forall_of_all {P : Char → Prop} [DecidablePred P] {chars : List Char}
    (all : (chars.all fun c => decide (P c)) = true) : ∀ c ∈ chars, P c :=
  fun c listed => of_decide_eq_true (List.all_eq_true.mp all c listed)

theorem mem_map_ofNat {first last c : Char} (low : first ≤ c) (high : c ≤ last) :
    c ∈ (List.range' first.toNat (last.toNat + 1 - first.toNat)).map Char.ofNat := by
  have above : first.toNat ≤ c.toNat := low
  have below : c.toNat ≤ last.toNat := high
  exact List.mem_map.mpr ⟨c.toNat, List.mem_range'_1.mpr ⟨above, by omega⟩, Char.ofNat_toNat c⟩

theorem digitValue?_eq (known : IsBase base) (c : Char) :
    digitValue? base c = if IsDigit base c then some (digit c) else none := by
  by_cases listed : c ∈ lowerDigits ++ upperDigits
  · have all : ∀ c ∈ lowerDigits ++ upperDigits,
        digitValue? base c = if IsDigit base c then some (digit c) else none := by
      rcases known with rfl | rfl <;> exact forall_of_all (by decide)
    exact all c listed
  · have noDigit : ¬ IsDigit base c := fun digit => listed digit.mem_digits
    -- The reader knows digits by three ranges of characters, and each range has digits only.
    have outside {first last : Char}
        (all : ∀ c ∈ (List.range' first.toNat (last.toNat + 1 - first.toNat)).map Char.ofNat,
          c ∈ lowerDigits ++ upperDigits) : ¬ (first ≤ c ∧ c ≤ last) :=
      fun inside => listed (all c (mem_map_ofNat inside.1 inside.2))
    have decimal : ¬ ('0' ≤ c ∧ c ≤ '9') := outside (forall_of_all (by decide))
    have low : ¬ ('a' ≤ c ∧ c ≤ 'f') := outside (forall_of_all (by decide))
    have high : ¬ ('A' ≤ c ∧ c ≤ 'F') := outside (forall_of_all (by decide))
    rw [if_neg noDigit, digitValue?, if_neg decimal, if_neg low, if_neg high]
    rfl

theorem digitsValue?_concat (digits : List Char) (c : Char) :
    digitsValue? base (digits ++ [c]) =
      (digitsValue? base digits).bind fun value => (digitValue? base c).map (value * base + ·) := by
  rw [digitsValue?, List.foldlM_append]
  simp [digitsValue?]

theorem value_concat (digits : List Char) (c : Char) :
    value base (digits ++ [c]) = value base digits * base + digit c := by
  rw [value, List.reverse_append, List.reverse_singleton, List.singleton_append, List.map_cons, Nat.ofDigits_cons,
    value, Nat.mul_comm, Nat.add_comm]

/-- A row is read if it has digits only, and as the number that it denotes. -/
theorem digitsValue?_eq_some_iff (known : IsBase base) {digits : List Char} {n : Nat} :
    digitsValue? base digits = some n ↔ (∀ c ∈ digits, IsDigit base c) ∧ value base digits = n := by
  -- From the end: both sides take the last digit off a row, the reader's fold and the denoted number.
  induction digits using List.reverseRecOn generalizing n with
  | nil => simp [digitsValue?, value]
  | append_singleton digits c ih =>
    rw [digitsValue?_concat, digitValue?_eq known, value_concat, List.forall_mem_append, List.forall_mem_singleton]
    constructor
    · intro read
      obtain ⟨_, before, behind⟩ := Option.bind_eq_some_iff.mp read
      obtain ⟨front, rfl⟩ := ih.mp before
      obtain ⟨_, found, rfl⟩ := Option.map_eq_some_iff.mp behind
      obtain ⟨last, ⟨⟩⟩ := Option.ite_none_right_eq_some.mp found
      exact ⟨⟨front, last⟩, rfl⟩
    · rintro ⟨⟨front, last⟩, rfl⟩
      rw [ih.mpr ⟨front, rfl⟩, if_pos last]
      rfl

/-- What is not among the digits of any base is no digit. -/
theorem IsDigit.ne {c other : Char} (digit : IsDigit base c)
    (apart : other ∉ lowerDigits ++ upperDigits) : c ≠ other := by
  rintro rfl
  exact apart digit.mem_digits

end Numeral

namespace Literal

open Numeral

inductive Sign where
  | unsigned
  | plus
  | minus
  deriving DecidableEq

namespace Sign

def text : Sign → String
  | .unsigned => ""
  | .plus => "+"
  | .minus => "-"

def apply : Sign → Nat → Int
  | .unsigned, n | .plus, n => n
  | .minus, n => -n

theorem mem_text {sign : Sign} {c : Char} (listed : c ∈ sign.text.toList) : c = '+' ∨ c = '-' := by
  have all : ∀ c ∈ sign.text.toList, c = '+' ∨ c = '-' := by
    cases sign <;> exact forall_of_all (by decide)
  exact all c listed

end Sign

inductive Mark where
  | decimal
  | hexadecimal
  | hexadecimalUpper
  deriving DecidableEq

namespace Mark

def text : Mark → String
  | .decimal => ""
  | .hexadecimal => "0x"
  | .hexadecimalUpper => "0X"

def base : Mark → Nat
  | .decimal => 10
  | .hexadecimal | .hexadecimalUpper => 16

theorem isBase (mark : Mark) : IsBase mark.base := by
  cases mark with
  | decimal => exact .inl rfl
  | hexadecimal | hexadecimalUpper => exact .inr rfl

theorem base_eq {mark : Mark} (marked : mark ≠ .decimal) : mark.base = 16 := by
  cases mark with
  | decimal => exact absurd rfl marked
  | hexadecimal | hexadecimalUpper => rfl

theorem mem_text {mark : Mark} {c : Char} (listed : c ∈ mark.text.toList) : c = '0' ∨ c = 'x' ∨ c = 'X' := by
  have all : ∀ c ∈ mark.text.toList, c = '0' ∨ c = 'x' ∨ c = 'X' := by
    cases mark <;> exact forall_of_all (by decide)
  exact all c listed

end Mark

def suffix : NumericKind → String
  | .i32 => "i"
  | .u32 => "u"
  | _ => ""

theorem toList_suffix (kind : NumericKind) :
    (suffix kind).toList = match kind with | .i32 => ['i'] | .u32 => ['u'] | _ => [] := by
  cases kind <;> decide

theorem mem_suffix {kind : NumericKind} {c : Char} (listed : c ∈ (suffix kind).toList) : c = 'i' ∨ c = 'u' := by
  have all : ∀ c ∈ (suffix kind).toList, c = 'i' ∨ c = 'u' := by
    cases kind <;> exact forall_of_all (by decide)
  exact all c listed

structure WholeNumber where
  mark : Mark
  sign : Sign
  digits : String
  kind : NumericKind
  nonempty : digits ≠ ""
  ofBase : ∀ c ∈ digits.toList, IsDigit mark.base c
  whole : kind.isInteger = true

namespace WholeNumber

def text (written : WholeNumber) : String :=
  written.mark.text ++ written.sign.text ++ written.digits ++ suffix written.kind

def value (written : WholeNumber) : Int :=
  written.sign.apply (Numeral.value written.mark.base written.digits.toList)

end WholeNumber

section Parts

variable {base : Nat}

theorem signed?_eq (known : IsBase base) (sign : Sign) {digits : List Char} (filled : digits ≠ [])
    (ofBase : ∀ c ∈ digits, IsDigit base c) :
    signed? base (sign.text.toList ++ digits) = some (sign.apply (Numeral.value base digits)) := by
  have read := (digitsValue?_eq_some_iff known).mpr ⟨ofBase, rfl⟩
  have nonempty : ¬ digits.isEmpty = true := by simpa using filled
  cases sign with
  | plus =>
    change signed? base ('+' :: digits) = _
    rw [signed?, if_neg nonempty, read]
    rfl
  | minus =>
    change signed? base ('-' :: digits) = _
    rw [signed?, if_neg nonempty, read]
    rfl
  | unsigned =>
    change signed? base digits = _
    unfold signed?
    split
    case h_1 => exact absurd rfl filled
    case h_2 => exact absurd rfl ((ofBase '-' List.mem_cons_self).ne (by decide))
    case h_3 => exact absurd rfl ((ofBase '+' List.mem_cons_self).ne (by decide))
    case h_4 =>
      rw [read]
      rfl

theorem exists_sign_of_signed? (known : IsBase base) {front : List Char} {n : Int}
    (read : signed? base front = some n) : ∃ (sign : Sign) (digits : List Char),
      front = sign.text.toList ++ digits ∧ digits ≠ [] ∧ ∀ c ∈ digits, IsDigit base c := by
  have ofBase {digits : List Char} {signs : Int → Int}
      (read : Option.map signs ((digitsValue? base digits).bind fun n => some (n : Int)) = some n) :
      ∀ c ∈ digits, IsDigit base c := by
    obtain ⟨_, read, -⟩ := Option.map_eq_some_iff.mp read
    obtain ⟨_, read, -⟩ := Option.bind_eq_some_iff.mp read
    exact ((digitsValue?_eq_some_iff known).mp read).1
  unfold signed? at read
  split at read
  case h_1 => cases read
  case h_2 digits =>
    obtain ⟨nonempty, read⟩ := Option.ite_none_left_eq_some.mp read
    exact ⟨.minus, digits, rfl, by simpa using nonempty, ofBase read⟩
  case h_3 digits =>
    obtain ⟨nonempty, read⟩ := Option.ite_none_left_eq_some.mp read
    exact ⟨.plus, digits, rfl, by simpa using nonempty, ofBase read⟩
  case h_4 nonempty _ _ => exact ⟨.unsigned, front, rfl, nonempty, ofBase read⟩

theorem splitSuffix_append {kind : NumericKind} (whole : kind.isInteger = true) {front : List Char}
    (last : ∀ c ∈ front.getLast?, c ≠ 'i' ∧ c ≠ 'u') : splitSuffix (front ++ (suffix kind).toList) = (front, kind) := by
  rw [toList_suffix, splitSuffix]
  cases kind with
  | i32 | u32 =>
    dsimp only
    rw [List.getLast?_concat, List.dropLast_concat]
    rfl
  | abstractInt =>
    dsimp only
    rw [List.append_nil]
    split
    case h_1 found => exact absurd rfl (last _ found).1
    case h_2 found => exact absurd rfl (last _ found).2
    case h_3 => rfl
  | abstractFloat | f16 | f32 => cases whole

/-- Taking a suffix off leaves what stood in front of it. -/
theorem append_suffix_splitSuffix (chars : List Char) :
    (splitSuffix chars).2.isInteger = true
      ∧ chars = (splitSuffix chars).1 ++ (suffix (splitSuffix chars).2).toList := by
  unfold splitSuffix
  split
  case h_1 found | h_2 found =>
    rw [toList_suffix]
    exact ⟨rfl, (List.dropLast_append_getLast? _ found).symm⟩
  case h_3 =>
    rw [toList_suffix]
    exact ⟨rfl, (List.append_nil chars).symm⟩

/-- The parts of a whole number are told apart, and it is read if its kind has room for it. -/
theorem integer?_eq (known : IsBase base) (sign : Sign) {digits : List Char} (filled : digits ≠ [])
    (ofBase : ∀ c ∈ digits, IsDigit base c) {kind : NumericKind} (whole : kind.isInteger = true) :
    let value := sign.apply (Numeral.value base digits)
    integer? base (sign.text.toList ++ digits ++ (suffix kind).toList) =
      if fits kind value then some (.integer (Int64.ofInt value), .numeric kind) else none := by
  intro value
  have last : ∀ c ∈ (sign.text.toList ++ digits).getLast?, c ≠ 'i' ∧ c ≠ 'u' := by
    intro c found
    rw [List.getLast?_append_of_ne_nil _ filled] at found
    have digit := ofBase c (List.mem_of_getLast? found)
    exact ⟨digit.ne (by decide), digit.ne (by decide)⟩
  rw [integer?, splitSuffix_append whole last]
  dsimp only
  rw [signed?_eq known sign filled ofBase]
  rfl

theorem exists_parts_of_integer? (known : IsBase base) {chars : List Char} {read : Constant × Ty}
    (found : integer? base chars = some read) :
    ∃ (sign : Sign) (digits : List Char) (kind : NumericKind),
      chars = sign.text.toList ++ digits ++ (suffix kind).toList
        ∧ digits ≠ [] ∧ (∀ c ∈ digits, IsDigit base c) ∧ kind.isInteger = true := by
  obtain ⟨whole, parts⟩ := append_suffix_splitSuffix chars
  obtain ⟨value, front, -⟩ : ∃ value, signed? base (splitSuffix chars).1 = some value ∧ _ :=
    Option.bind_eq_some_iff.mp found
  obtain ⟨sign, digits, same, nonempty, ofBase⟩ := exists_sign_of_signed? known front
  exact ⟨sign, digits, _, by rw [← same, ← parts], nonempty, ofBase, whole⟩

end Parts

def decimalChars : List Char := "+-0123456789iu".toList

section Decimal

variable {chars : List Char} (all : ∀ c ∈ chars, c ∈ decimalChars)

include all

theorem hasFloatMark_eq_false : hasFloatMark chars = false := by
  rw [hasFloatMark, List.any_eq_false]
  intro c listed
  have plain : ∀ c ∈ decimalChars, ¬ (c = '.' || c = 'e' || c = 'E') = true := forall_of_all (by decide)
  exact plain c (all c listed)

theorem number?_eq_integer? (filled : chars ≠ []) : number? chars = integer? 10 chars := by
  have front : hasFloatMark chars.dropLast = false :=
    hasFloatMark_eq_false fun c listed => all c (List.dropLast_subset _ listed)
  have whole := hasFloatMark_eq_false all
  unfold number?
  split
  case h_1 empty => exact absurd (List.getLast?_eq_none_iff.mp empty) filled
  case h_2 found => exact absurd (all _ (List.mem_of_getLast? found)) (by decide)
  case h_3 found => exact absurd (all _ (List.mem_of_getLast? found)) (by decide)
  -- A suffix is taken off before marks of floats are looked for, so both rows have to be free of them.
  case h_4 => simp [front, whole]

end Decimal

theorem read?_decimal {text : String} (filled : text ≠ "") (all : ∀ c ∈ text.toList, c ∈ decimalChars) :
    read? text = integer? 10 text.toList := by
  have absent {c : Char} (apart : c ∉ decimalChars) : c ∉ text.toList := fun listed => apart (all c listed)
  have noTrue : text ≠ "true" := by
    rintro rfl
    exact absent (c := 't') (by decide) (by decide)
  have noFalse : text ≠ "false" := by
    rintro rfl
    exact absent (c := 'f') (by decide) (by decide)
  have unquoted : quoted? text.toList = none := by
    unfold quoted?
    split
    case h_1 start => exact absurd (start ▸ List.mem_cons_self) (absent (c := '"') (by decide))
    case h_2 => rfl
  rw [read?, if_neg noTrue, if_neg noFalse, unquoted]
  dsimp only
  split
  case h_1 start => exact absurd (by simp [start]) (absent (c := 'x') (by decide))
  case h_2 start => exact absurd (by simp [start]) (absent (c := 'X') (by decide))
  case h_3 => exact number?_eq_integer? all (by simpa using filled)

theorem read?_hexadecimal {mark : Mark} (marked : mark ≠ .decimal) (rest : String) :
    read? (mark.text ++ rest) = integer? 16 rest.toList := by
  have behind {c : Char} {text : String} (letters : text.toList = '0' :: c :: rest.toList) (hex : c = 'x' ∨ c = 'X') :
      read? text = integer? 16 rest.toList := by
    have noTrue : text ≠ "true" := by
      rintro rfl
      cases (by decide : "true".toList = ['t', 'r', 'u', 'e']).symm.trans letters
    have noFalse : text ≠ "false" := by
      rintro rfl
      cases (by decide : "false".toList = ['f', 'a', 'l', 's', 'e']).symm.trans letters
    rw [read?, if_neg noTrue, if_neg noFalse, letters]
    rcases hex with rfl | rfl <;> rfl
  cases mark with
  | decimal => exact absurd rfl marked
  | hexadecimal => exact behind (by simp [Mark.text]) (.inl rfl)
  | hexadecimalUpper => exact behind (by simp [Mark.text]) (.inr rfl)

theorem integer?_of_number? {chars : List Char} {v : Int64} {ty : Ty} (read : number? chars = some (.integer v, ty)) :
    integer? 10 chars = some (.integer v, ty) := by
  have noFloat {kind : NumericKind} {chars : List Char} : float? kind chars ≠ some (.integer v, ty) := by
    intro read
    obtain ⟨_, -, ⟨⟩⟩ := Option.bind_eq_some_iff.mp read
  unfold number? at read
  split at read
  case h_1 => cases read
  case h_2 | h_3 => exact absurd read noFloat
  case h_4 =>
    split at read
    · exact (Option.ite_none_left_eq_some.mp read).2
    · split at read
      · exact absurd read noFloat
      · exact read

namespace WholeNumber

theorem toList_text (written : WholeNumber) :
    written.text.toList = written.mark.text.toList
      ++ (written.sign.text.toList ++ written.digits.toList ++ (suffix written.kind).toList) := by
  simp [text]

theorem mem_text {written : WholeNumber} {c : Char} (listed : c ∈ written.text.toList) :
    c ∈ written.mark.text.toList ∨ c ∈ written.sign.text.toList ∨ IsDigit written.mark.base c
      ∨ c ∈ (suffix written.kind).toList := by
  simp only [toList_text, List.mem_append] at listed
  obtain mark | (sign | digit) | ending := listed
  · exact .inl mark
  · exact .inr (.inl sign)
  · exact .inr (.inr (.inl (written.ofBase c digit)))
  · exact .inr (.inr (.inr ending))

theorem mem_decimalChars {written : WholeNumber} (decimal : written.mark = .decimal) :
    ∀ c ∈ written.text.toList, c ∈ decimalChars := by
  intro c listed
  have parts := mem_text listed
  rw [decimal] at parts
  rcases parts with mark | sign | digit | ending
  · cases mark
  · rcases Sign.mem_text sign with rfl | rfl <;> decide
  · have digits : ∀ c ∈ lowerDigits.take 10 ++ upperDigits.take 10, c ∈ decimalChars := forall_of_all (by decide)
    exact digits c (List.mem_append.mpr digit)
  · rcases mem_suffix ending with rfl | rfl <;> decide

theorem read?_text_eq_integer? (written : WholeNumber) :
    read? written.text = integer? written.mark.base
      (written.sign.text.toList ++ written.digits.toList ++ (suffix written.kind).toList) := by
  have nonempty := written.nonempty
  by_cases decimal : written.mark = .decimal
  · have unmarked : written.mark.text.toList = [] := by rw [decimal]; rfl
    have filled : written.text ≠ "" := by
      rw [ne_eq, ← String.toList_eq_nil_iff, toList_text]
      simp [nonempty]
    rw [read?_decimal filled (mem_decimalChars decimal), toList_text, unmarked, decimal, List.nil_append]
    rfl
  · have text : written.text = written.mark.text ++ (written.sign.text ++ written.digits ++ suffix written.kind) := by
      simp only [WholeNumber.text, String.append_assoc]
    rw [text, read?_hexadecimal decimal, Mark.base_eq decimal]
    simp

/-- A whole number is read if its kind has room for it. -/
theorem read?_text (written : WholeNumber) :
    read? written.text =
      if fits written.kind written.value then
        some (.integer (Int64.ofInt written.value), .numeric written.kind)
      else none := by
  have nonempty : written.digits.toList ≠ [] := by simpa using written.nonempty
  rw [read?_text_eq_integer?, integer?_eq written.mark.isBase written.sign nonempty written.ofBase written.whole]
  rfl

theorem exists_of_integer? {mark : Mark} {chars : List Char} {read : Constant × Ty}
    (found : integer? mark.base chars = some read) :
    ∃ written : WholeNumber, written.text.toList = mark.text.toList ++ chars := by
  obtain ⟨sign, digits, kind, rfl, nonempty, ofBase, whole⟩ := exists_parts_of_integer? mark.isBase found
  refine ⟨⟨mark, sign, String.ofList digits, kind, by simpa using nonempty, by simpa using ofBase, whole⟩, ?_⟩
  simp [toList_text]

/-- Whatever is read as a whole number is written as one. -/
theorem exists_of_read? {text : String} {v : Int64} {ty : Ty} (read : read? text = some (.integer v, ty)) :
    ∃ written : WholeNumber, written.text = text := by
  have behind (mark : Mark) {chars : List Char} (letters : text.toList = mark.text.toList ++ chars)
      (found : integer? mark.base chars = some (.integer v, ty)) : ∃ written : WholeNumber, written.text = text := by
    obtain ⟨written, same⟩ := exists_of_integer? found
    exact ⟨written, String.toList_inj.mp (same.trans letters.symm)⟩
  -- Truth values and strings come first, and are no whole numbers.
  unfold read? at read
  split at read
  · cases read
  · split at read
    · cases read
    · split at read
      case h_1 => cases read
      case h_2 =>
        split at read
        case h_1 letters => exact behind .hexadecimal letters read
        case h_2 letters => exact behind .hexadecimalUpper letters read
        case h_3 => exact behind .decimal rfl (integer?_of_number? read)

end WholeNumber

/-- The numbers from zero on that a kind of whole numbers has room for are those below this one. -/
def limit : NumericKind → Nat
  | .i32 => 2 ^ 31
  | .u32 => 2 ^ 32
  | _ => 2 ^ 63

theorem fits_natCast (kind : NumericKind) (n : Nat) : fits kind n = true ↔ n < limit kind := by
  cases kind <;> simp only [fits, limit, Bool.and_eq_true, decide_eq_true_eq] <;> omega

theorem limit_le (kind : NumericKind) : limit kind ≤ 2 ^ 63 := by
  cases kind <;> decide

/-- A text is read as a number of a kind if that is below a limit, and is no literal if not. -/
def ReadsBelow (text : String) (kind : NumericKind) (limit n : Nat) : Prop :=
  if n < limit then ∃ value : Int64, value.toInt = n ∧ read? text = some (.integer value, .numeric kind)
  else read? text = none

/-- A text is read as a number, and so it is with the suffix of either kind behind it. -/
structure ReadsAs (text : String) (n : Nat) : Prop where
  bare : ReadsBelow text .abstractInt (2 ^ 63) n
  signed : ReadsBelow (text ++ "i") .i32 (2 ^ 31) n
  unsigned : ReadsBelow (text ++ "u") .u32 (2 ^ 32) n

theorem WholeNumber.readsBelow (written : WholeNumber) (unsigned : written.sign = .unsigned) :
    ReadsBelow written.text written.kind (limit written.kind)
      (Numeral.value written.mark.base written.digits.toList) := by
  have value : written.value = (Numeral.value written.mark.base written.digits.toList : Int) := by
    rw [WholeNumber.value, unsigned]
    rfl
  have read := written.read?_text
  rw [value] at read
  unfold ReadsBelow
  split
  case isTrue below =>
    have bound := limit_le written.kind
    have exact := @Int64.toInt_ofInt_of_le (Numeral.value written.mark.base written.digits.toList) (by omega) (by omega)
    exact ⟨_, exact, read.trans (if_pos ((fits_natCast _ _).mpr below))⟩
  case isFalse above => exact read.trans (if_neg fun fits => above ((fits_natCast _ _).mp fits))

theorem readsAs_of_digits (mark : Mark) {digits : String} (nonempty : digits ≠ "")
    (ofBase : ∀ c ∈ digits.toList, IsDigit mark.base c) :
    ReadsAs (mark.text ++ digits) (Numeral.value mark.base digits.toList) := by
  have reads (kind : NumericKind) (whole : kind.isInteger = true) :
      ReadsBelow (mark.text ++ digits ++ suffix kind) kind (limit kind) (Numeral.value mark.base digits.toList) := by
    have written := WholeNumber.readsBelow ⟨mark, .unsigned, digits, kind, nonempty, ofBase, whole⟩ rfl
    simpa [WholeNumber.text, Sign.text] using written
  have bare : ReadsBelow (mark.text ++ digits ++ "") .abstractInt (2 ^ 63) (Numeral.value mark.base digits.toList) :=
    reads .abstractInt rfl
  rw [String.append_empty] at bare
  exact ⟨bare, reads .i32 rfl, reads .u32 rfl⟩

/-- A row of digits is read as the number that it denotes, with or without a suffix, as far as there is room for it. So
it is with decimal digits by themselves and with hexadecimal ones behind a mark. -/
theorem read?_digits {digits : String} (nonempty : digits ≠ "") :
    ((∀ c ∈ digits.toList, IsDigit 10 c) → ReadsAs digits (Numeral.value 10 digits.toList))
    ∧ ((∀ c ∈ digits.toList, IsDigit 16 c) →
      ∀ mark ∈ ["0x", "0X"], ReadsAs (mark ++ digits) (Numeral.value 16 digits.toList)) := by
  refine ⟨fun decimal => ?_, fun hexadecimal mark listed => ?_⟩
  · have unmarked : ReadsAs ("" ++ digits) _ := readsAs_of_digits .decimal nonempty decimal
    rwa [String.empty_append] at unmarked
  · obtain rfl | rfl : mark = "0x" ∨ mark = "0X" := by simpa using listed
    · exact readsAs_of_digits .hexadecimal nonempty hexadecimal
    · exact readsAs_of_digits .hexadecimalUpper nonempty hexadecimal

/-- Zeros in front count for nothing, each suffix has a limit of its own, and the letters that elsewhere mark a float
are digits behind a mark. -/
theorem read?_digits_mixed :
    Numeral.value 10 "004294967296".toList = 2 ^ 32 ∧ Numeral.value 16 "eF1E".toList = 61214
      ∧ ReadsAs "004294967296" (2 ^ 32) ∧ read? "004294967296u" = none ∧ ReadsAs "0XeF1E" 61214 := by
  have decimal : Numeral.value 10 "004294967296".toList = 2 ^ 32 := by decide
  have hexadecimal : Numeral.value 16 "eF1E".toList = 61214 := by decide
  have first := (@read?_digits "004294967296" (by decide)).1 (forall_of_all (by decide))
  have second := (@read?_digits "eF1E" (by decide)).2 (forall_of_all (by decide)) "0X" (by decide)
  rw [decimal] at first
  rw [hexadecimal] at second
  exact ⟨decimal, hexadecimal, first, first.unsigned, second⟩

/-- The texts that the language has for whole numbers: an optional sign, decimal digits and an optional suffix, or a
mark, hexadecimal digits and an optional suffix. -/
def InGrammar (text : String) : Prop :=
  ∃ written : WholeNumber, written.text = text ∧ (written.mark = .decimal ∨ written.sign = .unsigned)

namespace WholeNumber

variable {written : WholeNumber}

theorem exists_mark (marked : written.mark ≠ .decimal) : ∃ c ∈ written.text.toList, c = 'x' ∨ c = 'X' := by
  have letter : ∃ c ∈ written.mark.text.toList, c = 'x' ∨ c = 'X' := by
    cases mark : written.mark with
    | decimal => exact absurd mark marked
    | hexadecimal => exact ⟨'x', by decide, .inl rfl⟩
    | hexadecimalUpper => exact ⟨'X', by decide, .inr rfl⟩
  obtain ⟨c, listed, hex⟩ := letter
  exact ⟨c, by simp [toList_text, listed], hex⟩

theorem exists_sign (signed : written.sign ≠ .unsigned) : ∃ c ∈ written.text.toList, c = '+' ∨ c = '-' := by
  have character : ∃ c ∈ written.sign.text.toList, c = '+' ∨ c = '-' := by
    cases sign : written.sign with
    | unsigned => exact absurd sign signed
    | plus => exact ⟨'+', by decide, .inl rfl⟩
    | minus => exact ⟨'-', by decide, .inr rfl⟩
  obtain ⟨c, listed, sign⟩ := character
  exact ⟨c, by simp [toList_text, listed], sign⟩

theorem not_sign_of_unsigned (unsigned : written.sign = .unsigned) {c : Char} (listed : c ∈ written.text.toList) :
    ¬ (c = '+' ∨ c = '-') := by
  have parts := mem_text listed
  rw [unsigned] at parts
  rcases parts with mark | sign | digit | ending
  · rcases Mark.mem_text mark with rfl | rfl | rfl <;> decide
  · cases sign
  · exact not_or.mpr ⟨digit.ne (by decide), digit.ne (by decide)⟩
  · rcases mem_suffix ending with rfl | rfl <;> decide

/-- A text shows whether it has a mark and whether it has a sign, so one with both has no other reading. -/
theorem not_inGrammar (marked : written.mark ≠ .decimal) (signed : written.sign ≠ .unsigned) :
    ¬ InGrammar written.text := by
  rintro ⟨other, same, decimal | unsigned⟩
  · obtain ⟨c, listed, hex⟩ := exists_mark marked
    have inside := mem_decimalChars decimal c (same ▸ listed)
    rcases hex with rfl | rfl <;> exact absurd inside (by decide)
  · obtain ⟨c, listed, sign⟩ := exists_sign signed
    exact not_sign_of_unsigned unsigned (same ▸ listed) sign

end WholeNumber

/-- A text that the language does not have is read as a whole number exactly if it has a sign behind the mark of a
hexadecimal number, and its kind has room for that number. -/
theorem read?_outside_grammar_iff (text : String) :
    (¬ InGrammar text ∧ ∃ value ty, read? text = some (.integer value, ty)) ↔
      ∃ written : WholeNumber, written.text = text ∧ written.mark ≠ .decimal ∧ written.sign ≠ .unsigned
        ∧ fits written.kind written.value = true := by
  constructor
  · rintro ⟨outside, value, ty, read⟩
    obtain ⟨written, rfl⟩ := WholeNumber.exists_of_read? read
    rw [written.read?_text] at read
    refine ⟨written, rfl, fun decimal => ?_, fun unsigned => ?_, (Option.ite_none_right_eq_some.mp read).1⟩
    · exact outside ⟨written, rfl, .inl decimal⟩
    · exact outside ⟨written, rfl, .inr unsigned⟩
  · rintro ⟨written, rfl, marked, signed, fits⟩
    exact ⟨written.not_inGrammar marked signed, _, _, written.read?_text.trans (if_pos fits)⟩

theorem read?_sign_behind_mark :
    read? "0x-5" = some (.integer (-5), .numeric .abstractInt) ∧ ¬ InGrammar "0x-5" := by
  let written : WholeNumber := ⟨.hexadecimal, .minus, "5", .abstractInt, by decide, forall_of_all (by decide), rfl⟩
  exact ⟨by decide +kernel, @WholeNumber.not_inGrammar written (by decide) (by decide)⟩

end Literal

end ShaderCheck
