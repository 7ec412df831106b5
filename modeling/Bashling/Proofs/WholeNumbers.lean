import Bashling.Proofs.Grouping
import Bashling.Proofs.Rendering
import Bashling.Proofs.Rounding
import Bashling.Proofs.Totality

/-!
# Digits are compiled to their number

A text of digits is one number, and its Bash text is the decimal numeral of that number exactly if
the number is a double (`compile_digits`). Zeros in front, with which Bash would read a numeral in
another base, are gone. Where rounding has changed the number the text differs: another number is
written, or the token if the digits are beyond all doubles.
-/

namespace Bashling

/-! ### Reading digits -/

/-- The first of all decades is that of the digits `0` to `9`. -/
private theorem Text.decimalValue?_of_isDigit {c : Char} (digit : c.isDigit = true) :
    decimalValue? c = some (c.toNat - '0'.toNat) := by
  obtain ⟨low, high⟩ := Char.isDigit_iff_toNat.mp digit
  have zero : '0'.toNat = 0x30 := rfl
  have nine : '9'.toNat = 0x39 := rfl
  rw [decimalValue?, decades, Ranges.offset?, if_neg (by omega), if_pos (by omega),
    Option.map_some, zero, Nat.mod_eq_of_lt (by omega)]

private theorem Text.mapM_decimalValue? {digits : List Char}
    (ascii : ∀ c ∈ digits, c.isDigit = true) :
    digits.mapM decimalValue? = some (digits.map (·.toNat - '0'.toNat)) := by
  induction digits with
  | nil => rfl
  | cons c digits ih =>
    rw [List.forall_mem_cons] at ascii
    rw [List.mapM_cons, decimalValue?_of_isDigit ascii.1, ih ascii.2]
    rfl

private theorem Decimal.ofDigits_map (digits : List Char) :
    ofDigits (digits.map (·.toNat - '0'.toNat)) = Nat.ofDigitChars 10 digits 0 :=
  List.foldl_map

section Digits

variable {digits : List Char} (nonempty : digits ≠ []) (ascii : ∀ c ∈ digits, c.isDigit = true)
include nonempty ascii

/-- Digits without a point are a whole coefficient. -/
private theorem Decimal.ofLiteral?_digits :
    ofLiteral? digits = some ⟨Nat.ofDigitChars 10 digits 0, 0⟩ := by
  have pointless : ∀ c ∈ digits, (decide (c ≠ '.')) = true := by
    intro c member
    refine decide_eq_true fun equal => ?_
    have digit := ascii c member
    rw [equal] at digit
    cases digit
  have whole : (digits ++ []).takeWhile (· ≠ '.') = digits := takeWhile_run pointless (by simp)
  have nothing : (digits ++ []).dropWhile (· ≠ '.') = [] := List.dropWhile_append_of_pos pointless
  rw [List.append_nil] at whole nothing
  simp only [ofLiteral?, whole, nothing, List.drop_nil, List.append_nil,
    Text.mapM_decimalValue? ascii, ← ofDigits_map]
  simp [bind, nonempty]

private theorem Binary64.ofLiteral?_digits :
    ofLiteral? digits = some (ofRatio false (Nat.ofDigitChars 10 digits 0) 1) := by
  rw [ofLiteral?, Decimal.ofLiteral?_digits nonempty ascii]
  simp [Decimal.toBinary64, Decimal.ratio, Decimal.powerOfTen]

theorem Spelled.numeral :
    Spelled [] digits (.number (.ofRatio false (Nat.ofDigitChars 10 digits 0) 1)) := by
  have denoted := Binary64.ofLiteral?_digits nonempty ascii
  have isDigit (c : Char) (member : c ∈ digits) : Text.isDigit c = true :=
    Text.isDigit_of_decimalValue? (Text.decimalValue?_of_isDigit (ascii c member))
  cases digits with
  | nil => exact absurd rfl nonempty
  | cons initial rest =>
    refine .number (isDigit initial List.mem_cons_self) (fun c member => ?_) denoted (by simp)
    simp [Lexer.isNumeric, isDigit c (List.mem_cons_of_mem _ member)]

end Digits

/-! ### One number as a program -/

/-- A text that is one number has the Bash text of that number. -/
private theorem compile_number {text : List Char} {value : Binary64}
    (spelled : Spelled [] text (.number value)) :
    compile text =
      .ok (Bash.number ⟨.origin, Position.origin.afterAll text.dropLast, value⟩) := by
  have laid := @Laid.token .origin [] text [] _ _ (by simp) spelled (.eof (by simp))
  rw [List.nil_append, List.append_nil] at laid
  have ahead := (Lexer.ahead_ofSource (Lexer.ofText text)).1
  rw [laid.read (Lexer.ofText text) rfl rfl rfl] at ahead
  have read := Parser.reads_number .disjunction .origin (Position.origin.afterAll text.dropLast)
    value ⟨Position.origin.afterAll text, Position.origin.afterAll text, .eof⟩ [] rfl
  obtain ⟨rest, built, -⟩ := (read.statement.gives (tokenStream text) ahead).outcome
  have parsed : parse text = .ok _ := congrArg Prod.fst built
  rw [compile, parsed]
  rfl

/-- The text of a number is the numeral of a natural number only if the two are equal: the printed
token starts with a letter. -/
private theorem Bash.number_eq_toString_iff (literal : Located Binary64) (n : Nat) :
    number literal = toString n ↔ literal.value.toInt? = some (n : Int) := by
  unfold number
  split
  next whole =>
    rw [whole, Option.some_inj]
    exact ⟨fun same => toString_int_injective (congrArg String.toList same),
      fun equal => congrArg toString equal⟩
  next broken =>
    refine iff_of_false (fun same => ?_) (by simp [broken])
    have letter : 'N' ∈ (toString (n : Int)).toList := by
      have printed : toString (n : Int) = _ := same.symm
      rw [printed]
      simp [Token.form, Form.line, Located.map, Lexeme.label]
    rw [toList_toString_int, if_pos (Int.natCast_nonneg n), Int.toNat_natCast] at letter
    exact absurd (isDigit_of_mem_toDigits letter) (by decide)

/-- Digits have the numeral of their number as Bash text exactly if the number is a double, which it
is up to `2 ^ 53`. -/
theorem compile_digits (digits : List Char) (nonempty : digits ≠ [])
    (ascii : ∀ c ∈ digits, c.isDigit = true) :
    (compile digits = .ok (toString (Nat.ofDigitChars 10 digits 0)) ↔
        Binary64.Exact (Nat.ofDigitChars 10 digits 0)) ∧
      (Nat.ofDigitChars 10 digits 0 ≤ Binary64.powerOfTwo 53 →
        Binary64.Exact (Nat.ofDigitChars 10 digits 0)) := by
  refine ⟨?_, Binary64.exact_of_le⟩
  rw [compile_number (Spelled.numeral nonempty ascii), Except.ok.injEq, Bash.number_eq_toString_iff]
  exact Binary64.toInt?_ofRatio_one_iff _

/-- The number `10 ^ 22` is beyond `2 ^ 53`, but it has a mantissa of 52 bits. -/
theorem compile_digits_power_of_ten :
    Binary64.powerOfTwo 53 < 10000000000000000000000 ∧
      Binary64.Exact 10000000000000000000000 ∧
      compile "00010000000000000000000000".toList = .ok "10000000000000000000000" := by
  have exact : Binary64.Exact 10000000000000000000000 :=
    ⟨2384185791015625, 22, by decide, by decide, by decide, by decide⟩
  have digits := compile_digits "00010000000000000000000000".toList (by decide)
    (List.all_eq_true.mp (by decide))
  exact ⟨by decide, exact, digits.1.mpr exact⟩

end Bashling
