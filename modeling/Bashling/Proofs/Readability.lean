import Bashling.Proofs.BashText
import Bashling.Proofs.Rounding
import Bashling.Proofs.Runs
import Bashling.Proofs.Totality

/-!
# A Bash text can be read in one way

The texts of the parts of a tree stand next to each other, with nothing in between. They can still
be told apart, so the text of a tree of whole numbers and names says which tree it is, up to places
and the types of parameters (`toBash_readable`).

The first characters of a text tell the kind of its tree (`lead`). From there on, each part ends
where the tree says: a name or a number at the first character that is no letter or digit, a sign
where the next operand begins, and an operand where its own text ends, whatever follows it. That
last point is the induction.
-/

namespace Bashling

/-- The signs in front of an operand. -/
def unarySigns : List Operator := [.plus, .minus, .not]

/-- The signs between two operands. -/
def binarySigns : List Operator :=
  [.plus, .minus, .star, .slash, .percent, .power, .equals, .notEquals, .less, .lessEqual, .more,
    .moreEqual, .and, .or]

/-- The names that are made of letters. -/
def Word (name : String) : Prop := ∀ c ∈ name.toList, Text.isLetter c = true

instance (name : String) : Decidable (Word name) :=
  decidable_of_iff (name.toList.all Text.isLetter = true) List.all_eq_true

/-- The trees of operations on names and on numbers that are whole and not negative, and of the
statements around them. A statement may also stand where an operand does, though the parser builds
no such tree. -/
inductive Plain : Node → Prop where
  | identifier {name : Located String} (word : Word name.value) : Plain (.identifier name)
  | number {literal : Located Binary64} {mantissa : Nat} {exponent : Int}
      (unsigned : literal.value = .finite false mantissa exponent)
      (whole : literal.value.toInt?.isSome = true) : Plain (.number literal)
  | unary {operator : Located Operator} {operand : Node}
      (sign : operator.value ∈ unarySigns) (inner : Plain operand) :
      Plain (.unary operator operand)
  | binary {operator : Located Operator} {left right : Node}
      (sign : operator.value ∈ binarySigns) (front : Plain left) (back : Plain right) :
      Plain (.binary left operator right)
  | letStatement {keyword : Located Keyword} {target : Located String} {value : Node}
      (kind : keyword.value = .let) (word : Word target.value) (inner : Plain value) :
      Plain (.letStatement keyword (.assignment target value))
  | funcStatement {keyword : Located Keyword} {name : Located String} {items : List Parameter}
      {nodes : List Node} (kind : keyword.value = .func) (word : Word name.value)
      (words : ∀ item ∈ items, Word item.name.value) (inner : ∀ node ∈ nodes, Plain node) :
      Plain (.funcStatement keyword
        (.declaration name (.parameters (items.map .parameter)) (.block nodes)))

/-! ### The kinds of trees -/

/-- The characters of the signs of operations. -/
def signs : List Char := ['+', '-', '*', '/', '%', '=', '!', '<', '>', '&', '|']

def isSign (c : Char) : Bool := signs.contains c

/-- The kind of tree whose text begins with some characters, if there is one. -/
def lead : List Char → String
  | '$' :: '_' :: _ => "IdentifierNode"
  | '$' :: '(' :: '(' :: c :: _ => if isSign c then "UnaryOperationNode" else "BinaryOperationNode"
  | 'l' :: _ => "LetStatementNode"
  | 'f' :: _ => "FuncStatementNode"
  | c :: _ => if c.isDigit then "NumberLiteralNode" else ""
  | [] => ""

private theorem lead_digit {c : Char} (digit : c.isDigit = true) (rest : List Char) :
    lead (c :: rest) = "NumberLiteralNode" := by
  unfold lead
  split <;> simp_all

private theorem lead_sign {c : Char} (sign : isSign c = true) (rest : List Char) :
    lead (c :: rest) = "" := by
  have unled : ∀ c ∈ signs, lead (c :: rest) = "" := by simp [signs, lead]
  exact unled c (List.contains_iff_mem.mp sign)

/-- A positional parameter is no expression. -/
private theorem lead_parameter (index : Nat) (rest : List Char) :
    lead ('$' :: (Nat.toDigits 10 index ++ rest)) = "" := by
  obtain ⟨c, more, digits, digit⟩ := toDigits_eq_cons index
  have noStem : c ≠ '_' := by rintro rfl; exact absurd digit (by decide)
  have noParen : c ≠ '(' := by rintro rfl; exact absurd digit (by decide)
  simp [digits, lead, noStem, noParen]

/-- No text begins with a sign. -/
private theorem cons_of_lead {text : List Char} (led : lead text ≠ "") :
    ∃ c rest, text = c :: rest ∧ isSign c = false := by
  cases text with
  | nil => exact absurd rfl led
  | cons c rest =>
    refine ⟨c, rest, rfl, ?_⟩
    cases sign : isSign c with
    | false => rfl
    | true => exact absurd (lead_sign sign rest) led

private theorem Node.label_ne_empty (node : Node) : node.label ≠ "" := by
  cases node <;> simp [label]

namespace Plain

/-- A plain number is written as the digits of a natural number. -/
theorem digits {literal : Located Binary64} {text : List Char} (plain : Plain (.number literal))
    (writes : Writes (.number literal) text) :
    ∃ n : Nat, literal.value.toInt? = some (n : Int) ∧ text = Nat.toDigits 10 n := by
  cases plain with
  | @number _ mantissa exponent unsigned whole =>
    obtain ⟨value, found⟩ := Option.isSome_iff_exists.mp whole
    -- Without a sign the number is a quotient of natural numbers.
    obtain ⟨n, rfl⟩ : ∃ n : Nat, value = n := by
      rw [unsigned] at found
      simp only [Binary64.toInt?, Bool.false_eq_true, if_false] at found
      split at found
      · exact ⟨_, (Option.some.inj found).symm⟩
      · cases found
    refine ⟨n, found, ?_⟩
    cases writes with
    | whole found' =>
      rw [found] at found'
      cases found'
      rw [toList_toString_int, if_pos (Int.natCast_nonneg n), Int.toNat_natCast]
    | fraction none =>
      rw [found] at none
      cases none

private theorem lead_eq {node : Node} (plain : Plain node) {text : List Char}
    (writes : Writes node text) (rest : List Char) : lead (text ++ rest) = node.label := by
  induction plain generalizing text rest with
  | identifier word =>
    cases writes
    rfl
  | number unsigned whole =>
    obtain ⟨n, -, rfl⟩ := Plain.digits (.number unsigned whole) writes
    obtain ⟨c, more, digits, digit⟩ := toDigits_eq_cons n
    rw [digits]
    exact lead_digit digit _
  | @unary operator operand sign inner ih =>
    cases writes
    revert sign
    obtain ⟨_, _, kind⟩ := operator
    cases kind <;> simp [unarySigns, Operator.spelling, lead, isSign, signs, Node.label]
  | @binary operator left right sign front back ihFront ihBack =>
    cases writes with
    | @binary _ _ text text' _ writes writes' =>
      -- The text of the left operand does not begin with a sign.
      have led : lead (text ++ (operator.value.spelling ++ text' ++ "))".toList ++ rest)) ≠ "" := by
        rw [ihFront writes]
        exact Node.label_ne_empty _
      obtain ⟨c, more, begins, noSign⟩ := cons_of_lead led
      simp only [List.append_assoc] at begins ⊢
      rw [begins]
      simp [lead, noSign, Node.label]
  | letStatement kind word inner ih =>
    cases writes
    rfl
  | funcStatement kind word words inner ih =>
    cases writes
    rfl

variable {node node' : Node} {text text' rest rest' : List Char}

private theorem lead_ne_empty (plain : Plain node) (writes : Writes node text) (rest : List Char) :
    lead (text ++ rest) ≠ "" := by
  rw [plain.lead_eq writes]
  exact node.label_ne_empty

private theorem label_eq (plain : Plain node) (writes : Writes node text) (plain' : Plain node')
    (writes' : Writes node' text') (same : text ++ rest = text' ++ rest') :
    node.label = node'.label := by
  rw [← plain.lead_eq writes rest, same, plain'.lead_eq writes']

/-- No text begins with a character that does not lead a tree. -/
private theorem append_ne_cons (plain : Plain node ∧ Writes node text) {c : Char} {rest : List Char}
    (unled : lead (c :: rest) = "") (more : List Char) : text ++ more ≠ c :: rest := by
  intro begins
  apply plain.1.lead_ne_empty plain.2 more
  rw [begins, unled]

/-- The operand behind a sign does not go on with it. -/
private theorem head_not_sign (plain : Plain node) (writes : Writes node text) (rest : List Char) :
    ∀ c ∈ (text ++ rest).head?, isSign c = false := by
  obtain ⟨c, more, begins, noSign⟩ := cons_of_lead (plain.lead_ne_empty writes rest)
  intro c' first
  rw [begins] at first
  cases first
  exact noSign

end Plain

/-! ### Where names, numbers and signs end -/

/-- What may follow a name or a number. -/
def Ends (rest : List Char) : Prop :=
  ∀ c ∈ rest.head?, Text.isLetter c = false ∧ c.isDigit = false

private theorem ends_cons {c : Char} (other : Text.isLetter c = false ∧ c.isDigit = false)
    (rest : List Char) : Ends (c :: rest) := by
  rintro _ ⟨⟩
  exact other

/-- The parentheses behind an operation end its last operand. -/
private theorem ends_parens (rest : List Char) :
    Ends ("))".toList ++ rest) := ends_cons (by decide) _

private theorem word_unique {name name' : String} {later later' : List Char} (word : Word name)
    (word' : Word name') (ends : ∀ c ∈ later.head?, Text.isLetter c = false)
    (ends' : ∀ c ∈ later'.head?, Text.isLetter c = false)
    (same : name.toList ++ later = name'.toList ++ later') : name = name' ∧ later = later' := by
  obtain ⟨names, rest⟩ := run_unique word ends word' ends' same
  exact ⟨String.toList_inj.mp names, rest⟩

/-- A name is read up to a character that is no letter. -/
private theorem word_unique_before {name name' : String} {later later' : List Char}
    (word : Word name) (word' : Word name') {c : Char} (noLetter : Text.isLetter c = false)
    (same : name.toList ++ c :: later = name'.toList ++ c :: later') :
    name = name' ∧ later = later' := by
  obtain ⟨names, rest⟩ :=
    word_unique word word' (by simpa using noLetter) (by simpa using noLetter) same
  exact ⟨names, (List.cons.inj rest).2⟩

private theorem isSign_of_mem_spelling {kind : Operator}
    (sign : kind ∈ unarySigns ∨ kind ∈ binarySigns) : ∀ c ∈ kind.spelling, isSign c = true := by
  have signs : kind.spelling.all isSign = true := by
    revert sign
    cases kind <;> decide
  exact List.all_eq_true.mp signs

private theorem sign_unique {kind kind' : Operator} {later later' : List Char}
    (sign : kind ∈ unarySigns ∨ kind ∈ binarySigns)
    (sign' : kind' ∈ unarySigns ∨ kind' ∈ binarySigns)
    (ends : ∀ c ∈ later.head?, isSign c = false) (ends' : ∀ c ∈ later'.head?, isSign c = false)
    (same : kind.spelling ++ later = kind'.spelling ++ later') : kind = kind' ∧ later = later' := by
  obtain ⟨spellings, rest⟩ :=
    run_unique (isSign_of_mem_spelling sign) ends (isSign_of_mem_spelling sign') ends' same
  have kinds := congrArg Operator.ofSpelling? spellings
  rw [Operator.ofSpelling?_spelling, Operator.ofSpelling?_spelling] at kinds
  exact ⟨Option.some.inj kinds, rest⟩

/-- A sign ends the operand in front of it. -/
private theorem ends_operator (kind : Operator) (later : List Char) :
    Ends (kind.spelling ++ later) := by
  cases kind <;> exact ends_cons (by decide) _

/-! ### Trees -/

/-- Two trees that stand for the same program: they are equal once the places of the tokens and the
types of the parameters are removed. -/
def SameProgram (node node' : Node) : Prop :=
  (node.stripped fun _ => "").equal (node'.stripped fun _ => "") = true

/-- Statements that are the same programs one by one. -/
def SamePrograms (nodes nodes' : List Node) : Prop :=
  Node.equalAll (Node.strippedAll (fun _ => "") nodes)
    (Node.strippedAll (fun _ => "") nodes') = true

private theorem same_cons {node node' : Node} {nodes nodes' : List Node}
    (first : SameProgram node node')
    (others : SamePrograms nodes nodes') : SamePrograms (node :: nodes) (node' :: nodes') := by
  rw [SameProgram] at first
  rw [SamePrograms] at others ⊢
  rw [Node.strippedAll, Node.strippedAll, Node.equalAll, first, others]
  rfl

private theorem Located.unplaced_beq {α : Type} [BEq α] (l l' : Located α) :
    (l.unplaced == l'.unplaced) = (l.value == l'.value) := rfl

private theorem same_parameter {item item' : Parameter}
    (names : item.name.value = item'.name.value) :
    SameProgram (.parameter item) (.parameter item') := by
  change (item.name.unplaced == item'.name.unplaced && _) = true
  rw [Located.unplaced_beq, names, beq_self_eq_true]
  rfl

/-- The text of a tree ends at the same place in every text that begins with it, and no other tree
has it there. -/
def Settles (node : Node) (text : List Char) : Prop :=
  ∀ {node' : Node} {text' rest rest' : List Char}, Plain node' → Writes node' text' →
    Ends rest → Ends rest' → text ++ rest = text' ++ rest' → SameProgram node node' ∧ rest = rest'

/-- What stands behind a statement of a body: the statements that follow, and what follows the
body. -/
def Bash.closing (rest : List Char) : List (List Char) → List Char
  | [] => '\n' :: '\x7d' :: rest
  | text :: texts => '\n' :: (text ++ closing rest texts)

private theorem Bash.lines_closed (texts : List (List Char)) (rest : List Char) :
    lines texts ++ '\n' :: '\x7d' :: rest = closing rest texts := by
  induction texts with
  | nil => rfl
  | cons text texts ih =>
    rw [closing, ← ih]
    simp [lines]

private theorem ends_closing (rest : List Char) (texts : List (List Char)) :
    Ends (Bash.closing rest texts) := by
  cases texts <;> exact ends_cons (by decide) _

section Body

variable {parts parts' : List (Node × List Char)} {rest rest' : List Char}

/-- The induction is on the statements of the first body. Where one body has ended and the other one
has not, a brace would begin the text of a statement. -/
private theorem settles_closing (settled : ∀ part ∈ parts, Settles part.1 part.2)
    (plain : ∀ part ∈ parts, Plain part.1 ∧ Writes part.1 part.2)
    (plain' : ∀ part ∈ parts', Plain part.1 ∧ Writes part.1 part.2)
    (same : Bash.closing rest (parts.map (·.2)) = Bash.closing rest' (parts'.map (·.2))) :
    SamePrograms (parts.map (·.1)) (parts'.map (·.1)) ∧ rest = rest' := by
  induction parts generalizing parts' with
  | nil =>
    cases parts' with
    | nil =>
      cases same
      exact ⟨rfl, rfl⟩
    | cons part' parts' =>
      have begins := (List.cons.inj same).2
      exact absurd begins.symm (Plain.append_ne_cons (plain' part' List.mem_cons_self) rfl _)
  | cons part parts ih =>
    cases parts' with
    | nil =>
      have begins := (List.cons.inj same).2
      exact absurd begins (Plain.append_ne_cons (plain part List.mem_cons_self) rfl _)
    | cons part' parts' =>
      obtain ⟨plainFirst, writesFirst⟩ := plain' part' List.mem_cons_self
      obtain ⟨first, later⟩ :=
        settled part List.mem_cons_self plainFirst writesFirst (ends_closing _ _) (ends_closing _ _)
          (List.cons.inj same).2
      obtain ⟨others, ended⟩ :=
        ih (fun part member => settled part (List.mem_cons_of_mem _ member))
          (fun part member => plain part (List.mem_cons_of_mem _ member))
          (fun part member => plain' part (List.mem_cons_of_mem _ member)) later
      exact ⟨same_cons first others, ended⟩

private theorem settles_body (settled : ∀ part ∈ parts, Settles part.1 part.2)
    (plain : ∀ part ∈ parts, Plain part.1 ∧ Writes part.1 part.2)
    (plain' : ∀ part ∈ parts', Plain part.1 ∧ Writes part.1 part.2)
    (same : Bash.joined (parts.map (·.2)) ++ '\n' :: '\x7d' :: rest =
      Bash.joined (parts'.map (·.2)) ++ '\n' :: '\x7d' :: rest') :
    SamePrograms (parts.map (·.1)) (parts'.map (·.1)) ∧ rest = rest' := by
  have opened (part : Node × List Char) (parts : List (Node × List Char)) (rest : List Char) :
      Bash.joined ((part :: parts).map (·.2)) ++ '\n' :: '\x7d' :: rest =
        part.2 ++ Bash.closing rest (parts.map (·.2)) := by
    rw [← Bash.lines_closed]
    simp [Bash.joined]
  cases parts with
  | nil =>
    cases parts' with
    | nil =>
      cases same
      exact ⟨rfl, rfl⟩
    | cons part' parts' =>
      rw [opened] at same
      exact absurd same.symm (Plain.append_ne_cons (plain' part' List.mem_cons_self) rfl _)
  | cons part parts =>
    cases parts' with
    | nil =>
      rw [opened] at same
      exact absurd same (Plain.append_ne_cons (plain part List.mem_cons_self) rfl _)
    | cons part' parts' =>
      rw [opened, opened] at same
      -- With a line feed in front, both texts go on as they do behind a statement.
      exact settles_closing settled plain plain' (congrArg ('\n' :: ·) same)

end Body

/-! ### Parameters -/

private theorem Bash.bindParameters_cons {item : Parameter} {items : List Parameter} {index : Nat}
    {text : String} (bound : bindParameters index ((item :: items).map .parameter) = .ok text) :
    ∃ later, bindParameters (index + 1) (items.map .parameter) = .ok later ∧
      text.toList = "local ".toList ++ stem ++ (item.name.value.toList ++
        '=' :: '$' :: (Nat.toDigits 10 index ++ '\n' :: later.toList)) := by
  obtain ⟨name, named, more⟩ := ok_of_bind bound
  obtain ⟨later, bound', last⟩ := ok_of_bind more
  cases named
  cases last
  refine ⟨later, bound', ?_⟩
  simp [toList_localText]

/-- A text that does not go on with one more parameter: what it gives a local variable at its start,
if it does, is the text of a tree. -/
def Unbound (text : List Char) : Prop :=
  ∀ (name : String) (later : List Char), Word name →
    text = "local ".toList ++ Bash.stem ++ (name.toList ++ '=' :: later) → lead later ≠ ""

/-- The induction is on the first list. Where it has ended and the other one has not, the body would
go on with a positional parameter. -/
private theorem bindings_unique {items items' : List Parameter} {index : Nat} {text text' : String}
    {rest rest' : List Char} (words : ∀ item ∈ items, Word item.name.value)
    (words' : ∀ item ∈ items', Word item.name.value)
    (bound : Bash.bindParameters index (items.map .parameter) = .ok text)
    (bound' : Bash.bindParameters index (items'.map .parameter) = .ok text')
    (free : Unbound rest) (free' : Unbound rest')
    (same : text.toList ++ rest = text'.toList ++ rest') :
    SamePrograms (items.map .parameter) (items'.map .parameter) ∧ rest = rest' := by
  induction items generalizing items' index text text' with
  | nil =>
    cases bound
    cases items' with
    | nil =>
      cases bound'
      exact ⟨rfl, same⟩
    | cons item' items' =>
      obtain ⟨later, -, spelled⟩ := Bash.bindParameters_cons bound'
      have begins := free item'.name.value _ (words' item' List.mem_cons_self)
        (by simpa [spelled] using same)
      exact absurd (lead_parameter _ _) begins
  | cons item items ih =>
    obtain ⟨later, boundLater, spelled⟩ := Bash.bindParameters_cons bound
    cases items' with
    | nil =>
      cases bound'
      have begins := free' item.name.value _ (words item List.mem_cons_self)
        (by simpa [spelled] using same.symm)
      exact absurd (lead_parameter _ _) begins
    | cons item' items' =>
      obtain ⟨later', boundLater', spelled'⟩ := Bash.bindParameters_cons bound'
      rw [spelled, spelled'] at same
      simp only [List.append_assoc, List.cons_append] at same
      obtain ⟨names, behind⟩ :=
        word_unique_before (words item List.mem_cons_self) (words' item' List.mem_cons_self)
          (by decide) (List.append_cancel_left (List.append_cancel_left same))
      -- Both lists count from the same number, so the digits are the same too.
      obtain ⟨others, ended⟩ :=
        ih (fun item member => words item (List.mem_cons_of_mem _ member))
          (fun item member => words' item (List.mem_cons_of_mem _ member)) boundLater boundLater'
          (List.cons.inj (List.append_cancel_left (List.cons.inj behind).2)).2
      exact ⟨same_cons (same_parameter names) others, ended⟩

private theorem unbound_body {parts : List (Node × List Char)}
    (plain : ∀ part ∈ parts, Plain part.1 ∧ Writes part.1 part.2) (rest : List Char) :
    Unbound (Bash.joined (parts.map (·.2)) ++ '\n' :: '\x7d' :: rest) := by
  intro name later word begins
  cases parts with
  | nil => cases begins
  | cons part parts =>
    obtain ⟨plain, writes⟩ := plain part List.mem_cons_self
    obtain ⟨node, text⟩ := part
    have led := plain.lead_eq writes (Bash.lines (parts.map (·.2)) ++ '\n' :: '\x7d' :: rest)
    simp only [List.map_cons, Bash.joined, List.append_assoc] at begins
    rw [begins] at led
    -- What starts like a local variable is one.
    cases plain with
    | letStatement _ word' inner =>
      obtain ⟨text', writes', rfl⟩ := writes.of_let
      simp only [List.append_assoc, List.cons_append] at begins
      obtain ⟨-, rfl⟩ :=
        word_unique_before word' word (by decide)
          (List.append_cancel_left (List.append_cancel_left begins))
      exact inner.lead_ne_empty writes' _
    | _ => simp [lead, Node.label] at led

/-! ### The induction -/

/-- Whole numbers are equal if they have the same digits, however they are kept. -/
private theorem Binary64.equal_of_toInt? {mantissa mantissa' n : Nat} {exponent exponent' : Int}
    (whole : toInt? (.finite false mantissa exponent) = some (n : Int))
    (whole' : toInt? (.finite false mantissa' exponent') = some (n : Int)) :
    (finite false mantissa exponent == finite false mantissa' exponent') = true := by
  have product := toInt?_eq_some_iff.mp whole
  have product' := toInt?_eq_some_iff.mp whole'
  change equal _ _ = true
  simp [equal, product, product', Nat.mul_right_comm]

section Cases

variable {node : Node} {text : List Char}

private theorem settles_identifier {name : Located String} (word : Word name.value)
    (writes : Writes (.identifier name) text) : Settles (.identifier name) text := by
  intro node' text' rest rest' plain' writes' ends ends' same
  have kinds := Plain.label_eq (.identifier word) writes plain' writes' same
  cases plain' with
  | identifier word' =>
    rw [writes.of_identifier, writes'.of_identifier] at same
    obtain ⟨names, rests⟩ :=
      word_unique word word' (fun c first => (ends c first).1) (fun c first => (ends' c first).1)
        (by simpa using same)
    refine ⟨?_, rests⟩
    simp [SameProgram, Node.stripped, Node.equal, Located.unplaced_beq, names]
  | _ => simp [Node.label] at kinds

private theorem settles_number {literal : Located Binary64} (plain : Plain (.number literal))
    (writes : Writes (.number literal) text) : Settles (.number literal) text := by
  intro node' text' rest rest' plain' writes' ends ends' same
  have kinds := plain.label_eq writes plain' writes' same
  obtain ⟨n, found, rfl⟩ := plain.digits writes
  cases plain with
  | number unsigned whole =>
    cases plain' with
    | number unsigned' whole' =>
      obtain ⟨n', found', rfl⟩ := Plain.digits (.number unsigned' whole') writes'
      obtain ⟨digits, rests⟩ :=
        run_unique (fun c => isDigit_of_mem_toDigits) (fun c first => (ends c first).2)
          (fun c => isDigit_of_mem_toDigits) (fun c first => (ends' c first).2) same
      -- Both stand for this number, but it may be kept with another mantissa and exponent.
      cases toDigits_injective digits
      rw [unsigned] at found
      rw [unsigned'] at found'
      refine ⟨?_, rests⟩
      simp only [SameProgram, Node.stripped, Node.equal, Located.unplaced_beq, unsigned, unsigned']
      exact Binary64.equal_of_toInt? found found'
    | _ => simp [Node.label] at kinds

private theorem settles_unary {operator : Located Operator} {operand : Node}
    (sign : operator.value ∈ unarySigns) (inner : Plain operand)
    (settled : ∀ {text}, Writes operand text → Settles operand text)
    (writes : Writes (.unary operator operand) text) : Settles (.unary operator operand) text := by
  intro node' text' rest rest' plain' writes' ends ends' same
  have kinds := Plain.label_eq (.unary sign inner) writes plain' writes' same
  cases plain' with
  | unary sign' inner' =>
    obtain ⟨shown, written, rfl⟩ := writes.of_unary
    obtain ⟨shown', written', rfl⟩ := writes'.of_unary
    simp only [List.append_assoc] at same
    obtain ⟨signs, operands⟩ :=
      sign_unique (.inl sign) (.inl sign') (inner.head_not_sign written _)
        (inner'.head_not_sign written' _) (List.append_cancel_left same)
    obtain ⟨alike, rests⟩ :=
      settled written inner' written' (ends_parens rest) (ends_parens rest') operands
    refine ⟨?_, List.append_cancel_left rests⟩
    rw [SameProgram] at alike
    simp [SameProgram, Node.stripped, Node.equal, Located.unplaced_beq, signs, alike]
  | _ => simp [Node.label] at kinds

private theorem settles_binary {operator : Located Operator} {left right : Node}
    (sign : operator.value ∈ binarySigns) (front : Plain left) (back : Plain right)
    (settledFront : ∀ {text}, Writes left text → Settles left text)
    (settledBack : ∀ {text}, Writes right text → Settles right text)
    (writes : Writes (.binary left operator right) text) :
    Settles (.binary left operator right) text := by
  intro node' text' rest rest' plain' writes' ends ends' same
  have kinds := Plain.label_eq (.binary sign front back) writes plain' writes' same
  cases plain' with
  | binary sign' front' back' =>
    obtain ⟨first, second, writtenFront, writtenBack, rfl⟩ := writes.of_binary
    obtain ⟨first', second', writtenFront', writtenBack', rfl⟩ := writes'.of_binary
    simp only [List.append_assoc] at same
    -- The left operand ends where it ends in either text, so that both go on with their sign.
    obtain ⟨lefts, behind⟩ :=
      settledFront writtenFront front' writtenFront' (ends_operator _ _) (ends_operator _ _)
        (List.append_cancel_left same)
    obtain ⟨signs, operands⟩ :=
      sign_unique (.inr sign) (.inr sign') (back.head_not_sign writtenBack _)
        (back'.head_not_sign writtenBack' _) behind
    obtain ⟨rights, rests⟩ :=
      settledBack writtenBack back' writtenBack' (ends_parens rest) (ends_parens rest') operands
    refine ⟨?_, List.append_cancel_left rests⟩
    rw [SameProgram] at lefts rights
    simp [SameProgram, Node.stripped, Node.equal, Located.unplaced_beq, signs, lefts, rights]
  | _ => simp [Node.label] at kinds

private theorem settles_let {keyword : Located Keyword} {target : Located String} {value : Node}
    (kind : keyword.value = .let) (word : Word target.value) (inner : Plain value)
    (settled : ∀ {text}, Writes value text → Settles value text)
    (writes : Writes (.letStatement keyword (.assignment target value)) text) :
    Settles (.letStatement keyword (.assignment target value)) text := by
  intro node' text' rest rest' plain' writes' ends ends' same
  have kinds := Plain.label_eq (.letStatement kind word inner) writes plain' writes' same
  cases plain' with
  | letStatement kind' word' inner' =>
    obtain ⟨shown, written, rfl⟩ := writes.of_let
    obtain ⟨shown', written', rfl⟩ := writes'.of_let
    simp only [List.append_assoc, List.cons_append] at same
    obtain ⟨names, values⟩ :=
      word_unique_before word word' (by decide)
        (List.append_cancel_left (List.append_cancel_left same))
    obtain ⟨alike, rests⟩ := settled written inner' written' ends ends' values
    refine ⟨?_, rests⟩
    rw [SameProgram] at alike
    simp [SameProgram, Node.stripped, Node.equal, Located.unplaced_beq, names, alike, kind, kind']
  | _ => simp [Node.label] at kinds

private theorem settles_func {keyword : Located Keyword} {name : Located String}
    {items : List Parameter} {nodes : List Node} (kind : keyword.value = .func)
    (word : Word name.value) (words : ∀ item ∈ items, Word item.name.value)
    (inner : ∀ node ∈ nodes, Plain node)
    (settled : ∀ node ∈ nodes, ∀ {text}, Writes node text → Settles node text)
    (writes : Writes (.funcStatement keyword
      (.declaration name (.parameters (items.map .parameter)) (.block nodes))) text) :
    Settles (.funcStatement keyword
      (.declaration name (.parameters (items.map .parameter)) (.block nodes))) text := by
  intro node' text' rest rest' plain' writes' ends ends' same
  have kinds := Plain.label_eq (.funcStatement kind word words inner) writes plain' writes' same
  cases plain' with
  | funcStatement kind' word' words' inner' =>
    obtain ⟨bindings, parts, rfl, bound, written, rfl⟩ := writes.of_func
    obtain ⟨bindings', parts', rfl, bound', written', rfl⟩ := writes'.of_func
    have plain (part) (member : part ∈ parts) : Plain part.1 ∧ Writes part.1 part.2 :=
      ⟨inner _ (List.mem_map_of_mem member), written part member⟩
    have plain' (part) (member : part ∈ parts') : Plain part.1 ∧ Writes part.1 part.2 :=
      ⟨inner' _ (List.mem_map_of_mem member), written' part member⟩
    simp only [List.append_assoc] at same
    -- The name ends at the parenthesis, the parameters where no further one is bound, and the body
    -- at the brace that begins no statement.
    obtain ⟨names, behind⟩ :=
      word_unique_before word word' (by decide)
        (List.append_cancel_left (List.append_cancel_left same))
    obtain ⟨parameters, bodies⟩ :=
      bindings_unique words words' bound bound' (unbound_body plain _) (unbound_body plain' _)
        (List.append_cancel_left behind)
    obtain ⟨statements, rests⟩ :=
      settles_body (fun part member => settled _ (List.mem_map_of_mem member) (written part member))
        plain plain' bodies
    refine ⟨?_, rests⟩
    rw [SamePrograms] at parameters statements
    simp [SameProgram, Node.stripped, Node.equal, Located.unplaced_beq, names, parameters,
      statements, kind, kind']
  | _ => simp [Node.label] at kinds

end Cases

private theorem Plain.settles {node : Node} (plain : Plain node) {text : List Char}
    (writes : Writes node text) : Settles node text := by
  induction plain generalizing text with
  | identifier word => exact settles_identifier word writes
  | number unsigned whole => exact settles_number (.number unsigned whole) writes
  | unary sign inner ih => exact settles_unary sign inner ih writes
  | binary sign front back ihFront ihBack =>
    exact settles_binary sign front back ihFront ihBack writes
  | letStatement kind word inner ih => exact settles_let kind word inner ih writes
  | funcStatement kind word words inner ih => exact settles_func kind word words inner ih writes

private theorem exists_parts {nodes : List Node}
    (written : ∀ node ∈ nodes, ∃ text, Writes node text) :
    ∃ parts : List (Node × List Char), nodes = parts.map (·.1) ∧
      ∀ part ∈ parts, Writes part.1 part.2 := by
  induction nodes with
  | nil => exact ⟨[], rfl, by simp⟩
  | cons node nodes ih =>
    obtain ⟨text, first⟩ := written node List.mem_cons_self
    obtain ⟨parts, rfl, later⟩ :=
      ih fun inner member => written inner (List.mem_cons_of_mem _ member)
    exact ⟨(node, text) :: parts, rfl, by simpa [first] using later⟩

private theorem Plain.exists_writes {node : Node} (plain : Plain node) :
    ∃ text, Writes node text := by
  induction plain with
  | identifier => exact ⟨_, .identifier _⟩
  | number _ whole =>
    obtain ⟨value, found⟩ := Option.isSome_iff_exists.mp whole
    exact ⟨_, .whole found⟩
  | unary _ _ ih =>
    obtain ⟨text, writes⟩ := ih
    exact ⟨_, .unary _ writes⟩
  | binary _ _ _ ihFront ihBack =>
    obtain ⟨text, writes⟩ := ihFront
    obtain ⟨text', writes'⟩ := ihBack
    exact ⟨_, .binary _ writes writes'⟩
  | letStatement _ _ _ ih =>
    obtain ⟨text, writes⟩ := ih
    exact ⟨_, .letStatement _ _ writes⟩
  | @funcStatement _ _ items _ _ _ _ _ ih =>
    obtain ⟨bindings, bound⟩ := Bash.bindParameters_parameters 0 items
    obtain ⟨parts, rfl, writes⟩ := exists_parts ih
    exact ⟨_, .funcStatement _ _ bound writes⟩

/-- Plain trees have Bash texts, and two of them with the same text stand for the same program. -/
theorem toBash_readable (a b : Node) (plain : Plain a) (plain' : Plain b) :
    ∃ text text', a.toBash = .ok text ∧ b.toBash = .ok text' ∧
      (text = text' → SameProgram a b) := by
  obtain ⟨text, writes⟩ := plain.exists_writes
  obtain ⟨text', writes'⟩ := plain'.exists_writes
  refine ⟨String.ofList text, String.ofList text', writes.toBash, writes'.toBash, ?_⟩
  intro same
  have texts : text ++ [] = text' ++ [] := by rw [String.ofList_inj.mp same]
  exact (plain.settles writes plain' writes' (by simp [Ends]) (by simp [Ends]) texts).1

/-- The function `f(a) { let x = a ** 2; -x }`, in two rows and with two types. -/
theorem toBash_readable_function :
    let program (row : Int) (type : String) : Node :=
      .funcStatement ⟨⟨row, 1⟩, ⟨row, 4⟩, .func⟩
        (.declaration ⟨⟨row, 6⟩, ⟨row, 6⟩, "f"⟩
          (.parameters [.parameter ⟨⟨⟨row, 8⟩, ⟨row, 8⟩, "a"⟩, ⟨⟨row, 10⟩, ⟨row, 12⟩, type⟩⟩])
          (.block
            [.letStatement ⟨⟨row, 17⟩, ⟨row, 19⟩, .let⟩
              (.assignment ⟨⟨row, 21⟩, ⟨row, 21⟩, "x"⟩
                (.binary (.identifier ⟨⟨row, 25⟩, ⟨row, 25⟩, "a"⟩) ⟨⟨row, 27⟩, ⟨row, 28⟩, .power⟩
                  (.number ⟨⟨row, 30⟩, ⟨row, 30⟩, .finite false 1 1⟩))),
             .unary ⟨⟨row, 33⟩, ⟨row, 33⟩, .minus⟩ (.identifier ⟨⟨row, 34⟩, ⟨row, 34⟩, "x"⟩)]))
    Plain (program 1 "int") ∧ Plain (program 2 "nat") ∧
      ∃ text text', (program 1 "int").toBash = .ok text ∧ (program 2 "nat").toBash = .ok text' ∧
        (text = text' → SameProgram (program 1 "int") (program 2 "nat")) := by
  intro program
  have words : Word "f" ∧ Word "a" ∧ Word "x" := by decide
  have plain (row : Int) (type : String) : Plain (program row type) := by
    have number : Plain (.number ⟨⟨row, 30⟩, ⟨row, 30⟩, .finite false 1 1⟩) := .number rfl rfl
    have square := @Plain.binary ⟨⟨row, 27⟩, ⟨row, 28⟩, .power⟩ _ _ (by simp [binarySigns])
      (@Plain.identifier ⟨⟨row, 25⟩, ⟨row, 25⟩, "a"⟩ words.2.1) number
    have first := @Plain.letStatement ⟨⟨row, 17⟩, ⟨row, 19⟩, .let⟩ ⟨⟨row, 21⟩, ⟨row, 21⟩, "x"⟩ _ rfl
      words.2.2 square
    have second := @Plain.unary ⟨⟨row, 33⟩, ⟨row, 33⟩, .minus⟩ _ (by simp [unarySigns])
      (@Plain.identifier ⟨⟨row, 34⟩, ⟨row, 34⟩, "x"⟩ words.2.2)
    let item : Parameter := ⟨⟨⟨row, 8⟩, ⟨row, 8⟩, "a"⟩, ⟨⟨row, 10⟩, ⟨row, 12⟩, type⟩⟩
    exact @Plain.funcStatement _ _ [item] _ rfl words.1 (by simpa [item] using words.2.1)
      (by simpa using ⟨first, second⟩)
  exact ⟨plain 1 "int", plain 2 "nat", toBash_readable _ _ (plain 1 "int") (plain 2 "nat")⟩

end Bashling
