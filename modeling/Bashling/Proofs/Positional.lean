import Bashling.Proofs.BashText
import Bashling.Proofs.Runs

/-!
# What the parameters of a function are bound to

A Bash function finds the arguments of a call under the numbers 1, 2, and so on; number 0 is the
name of the shell. Behind `$` one digit is read as such a number, and more digits only in braces.
The text of a function counts its parameters from 0 and writes no braces. So each of the first ten
parameters gets the argument in front of its own, where the first one gets the name of the shell,
and the others get an argument with digits behind it (`parameters_bound_one_late`).
-/

namespace Bashling

namespace Bash

/-- What a call leaves under a number: the name of the shell, or an argument if there is one. -/
def positional (shell : String) (arguments : List String) : Nat → String
  | 0 => shell
  | number + 1 => arguments.getD number ""

/-- The words that stand for what is under a number. -/
inductive RefersTo (number : Nat) : List Char → Prop where
  | digit (single : number ≤ 9) : RefersTo number ('$' :: Nat.toDigits 10 number)
  | braces : RefersTo number ('$' :: '\x7b' :: (Nat.toDigits 10 number ++ ['\x7d']))

/-- What Bash makes of a word that asks for a number, with whatever is under each of them. -/
def expand (under : Nat → String) : List Char → String
  | '$' :: '\x7b' :: rest =>
    under (Nat.ofDigitChars 10 (rest.takeWhile Char.isDigit) 0) ++
      String.ofList ((rest.dropWhile Char.isDigit).drop 1)
  | '$' :: digit :: rest => under (Nat.ofDigitChars 10 [digit] 0) ++ String.ofList rest
  | word => String.ofList word

/-- The word that is written for the parameter at a place, the first of which is 0. -/
def reference (place : Nat) : String := "$" ++ toString place

/-- The lines that bind some parameters, in order. -/
def bindingLines (items : List Parameter) : List String :=
  items.mapIdx fun place item => localText item.name.value (reference place) ++ "\n"

private theorem toList_reference (place : Nat) :
    (reference place).toList = '$' :: Nat.toDigits 10 place := by
  simp [reference]

/-! ### Words and numbers -/

private theorem toDigits_ne_brace {number : Nat} {rest : List Char} :
    Nat.toDigits 10 number ≠ '\x7b' :: rest := by
  intro digits
  have digit : ('\x7b').isDigit = true :=
    isDigit_of_mem_toDigits (by rw [digits]; exact List.mem_cons_self)
  exact absurd digit (by decide)

/-- Digits without braces refer to a number only if there is one digit. -/
private theorem refersTo_reference_iff {number place : Nat} :
    RefersTo number (reference place).toList ↔ number = place ∧ place ≤ 9 := by
  rw [toList_reference]
  constructor
  · intro refers
    generalize word : '$' :: Nat.toDigits 10 place = chars at refers
    cases refers with
    | digit single =>
      obtain rfl := toDigits_injective (List.cons.inj word).2
      exact ⟨rfl, single⟩
    | braces => exact absurd (List.cons.inj word).2 toDigits_ne_brace
  · rintro ⟨rfl, single⟩
    exact .digit single

/-- Bash reads one digit behind `$`, and what follows stays as it is. -/
private theorem expand_digits (under : Nat → String) {digit : Char} {others : List Char}
    {number : Nat} (digits : Nat.toDigits 10 number = digit :: others) :
    expand under ('$' :: Nat.toDigits 10 number) =
      under (Nat.ofDigitChars 10 [digit] 0) ++ String.ofList others := by
  have noBrace : digit ≠ '\x7b' := by
    rintro rfl
    exact toDigits_ne_brace digits
  rw [digits, expand]
  exact noBrace

/-- A word that refers to a number is replaced by what is under it. -/
private theorem expand_of_refersTo (under : Nat → String) {number : Nat} {word : List Char}
    (refers : RefersTo number word) : expand under word = under number := by
  cases refers with
  | digit single =>
    -- There is one digit, so nothing is left behind it.
    have digits : Nat.toDigits 10 number = [number.digitChar] :=
      Nat.toDigits_of_lt_base (by omega)
    rw [expand_digits under digits, ← digits, Nat.ofDigitChars_ten_toDigits]
    exact String.append_empty
  | braces =>
    -- The closing brace ends the run of digits.
    have run : (Nat.toDigits 10 number ++ ['\x7d']).takeWhile Char.isDigit =
        Nat.toDigits 10 number :=
      takeWhile_run (fun _ member => isDigit_of_mem_toDigits member) (by rintro _ ⟨⟩; rfl)
    have rest : (Nat.toDigits 10 number ++ ['\x7d']).dropWhile Char.isDigit = ['\x7d'] := by
      rw [List.dropWhile_append_of_pos fun _ member => isDigit_of_mem_toDigits member]
      rfl
    rw [expand, run, rest, Nat.ofDigitChars_ten_toDigits]
    exact String.append_empty

private theorem toDigits_of_ten_le {number : Nat} (large : 10 ≤ number) :
    ∃ digit others, Nat.toDigits 10 number = digit :: others ∧ others ≠ [] := by
  obtain ⟨digit, others, digits, -⟩ := toDigits_eq_cons (number / 10)
  refine ⟨digit, others ++ [(number % 10).digitChar], ?_, by simp⟩
  rw [Nat.toDigits_eq_if (by decide), if_neg (by omega), digits, List.cons_append]

/-! ### The lines of a parameter list -/

private theorem bindParameters_eq (index : Nat) (items : List Parameter) :
    bindParameters index (items.map .parameter) =
      .ok (String.join (items.mapIdx fun place item =>
        localText item.name.value (reference (index + place)) ++ "\n")) := by
  induction items generalizing index with
  | nil => rfl
  | cons item items ih =>
    -- Counting goes on, so the other lines are those of the rest from the next number on.
    have later := ih (index + 1)
    simp only [Nat.add_right_comm index 1] at later
    rw [List.map_cons, bindParameters, later, List.mapIdx_cons, String.join_cons]
    rfl

end Bash

open Bash

/-- The parameters of a function are bound by one line each, in order. The word behind the sign of
assignment refers to the place of the parameter counted from 0, as long as that has one digit, and
to no number from the eleventh parameter on. In a call the parameter gets what is under its place,
and from the eleventh on what is under the first digit, with the other digits behind it. -/
theorem parameters_bound_one_late (items : List Parameter) :
    (Node.parameters (items.map .parameter)).toBash = .ok (String.join (bindingLines items)) ∧
      (∀ keyword name statements texts, Node.toBashAll statements = .ok texts →
        (Node.funcStatement keyword (.declaration name (.parameters (items.map .parameter))
          (.block statements))).toBash =
          .ok ("function " ++ mangled name.value ++ "()\x7b\n" ++
            String.join (bindingLines items) ++ "\n".intercalate texts ++ "\n\x7d")) ∧
      ∀ place, place < items.length →
        (∀ number, RefersTo number (reference place).toList ↔ number = place ∧ place ≤ 9) ∧
        ∀ shell arguments,
          (place ≤ 9 → expand (positional shell arguments) (reference place).toList =
            positional shell arguments place) ∧
          (10 ≤ place → ∃ digit others, Nat.toDigits 10 place = digit :: others ∧ others ≠ [] ∧
            expand (positional shell arguments) (reference place).toList =
              positional shell arguments (Nat.ofDigitChars 10 [digit] 0) ++
                String.ofList others) := by
  have bound := bindParameters_eq 0 items
  simp only [Nat.zero_add] at bound
  refine ⟨?_, ?_, fun place _ => ⟨fun number => refersTo_reference_iff, ?_⟩⟩
  · rw [Node.toBash, bound]
    rfl
  · intro keyword name statements texts written
    simp only [Node.toBash, itemsOf, Node.toBashBody, bind, Except.bind, bound, written]
    rfl
  · intro shell arguments
    constructor
    · intro single
      exact expand_of_refersTo _ (refersTo_reference_iff.mpr ⟨rfl, single⟩)
    · intro large
      obtain ⟨digit, others, digits, more⟩ := toDigits_of_ten_le large
      refine ⟨digit, others, digits, more, ?_⟩
      rw [toList_reference, expand_digits _ digits]

/-- Of eleven parameters, the last one gets the first argument of a call with a zero behind it. -/
theorem parameters_bound_one_late_eleventh :
    let item : Parameter := ⟨⟨⟨1, 1⟩, ⟨1, 1⟩, "p"⟩, ⟨⟨1, 1⟩, ⟨1, 1⟩, "t"⟩⟩
    let items := List.replicate 11 item
    (bindingLines items)[10]? = some "local __VDSH__p=$10\n" ∧
      expand (positional "bash" ["x", "y"]) (reference 10).toList = "x0" := by
  intro item items
  obtain ⟨-, -, words⟩ := parameters_bound_one_late items
  obtain ⟨digit, others, digits, -, expanded⟩ :=
    ((words 10 (by decide)).2 "bash" ["x", "y"]).2 (Nat.le_refl 10)
  obtain ⟨rfl, rfl⟩ := List.cons.inj (show ['1', '0'] = digit :: others from digits)
  exact ⟨by decide +kernel, expanded⟩

/-- Not every parameter is bound to its own argument: the first one is not. -/
theorem first_parameter_not_bound :
    ¬∀ (items : List Parameter) (text : String),
      (Node.parameters (items.map .parameter)).toBash = .ok text →
      ∃ words : List String, words.length = items.length ∧
        text = String.join (List.zipWith
          (fun item word => localText item.name.value word ++ "\n") items words) ∧
        ∀ place word, words[place]? = some word → RefersTo (place + 1) word.toList := by
  intro claimed
  let item : Parameter := ⟨⟨⟨1, 1⟩, ⟨1, 1⟩, "a"⟩, ⟨⟨1, 1⟩, ⟨1, 1⟩, "t"⟩⟩
  obtain ⟨words, listed, same, refers⟩ := claimed [item] "local __VDSH__a=$0\n" rfl
  obtain ⟨word, rfl⟩ := List.length_eq_one_iff.mp listed
  have written : word.toList = (reference 0).toList := by
    have chars : word.toList ++ ['\n'] = ['$', '0'] ++ ['\n'] := by
      simpa [toList_localText, stem, item] using (congrArg String.toList same).symm
    exact List.append_cancel_right chars
  have first := refers 0 word rfl
  rw [written, refersTo_reference_iff] at first
  exact absurd first.1 (by decide)

end Bashling
