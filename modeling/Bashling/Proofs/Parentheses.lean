import Bashling.Proofs.Grouping

/-!
# Trees in parentheses

The levels of precedence decide which tree is read from operators without parentheses. With them
every tree of names, numbers and arithmetic operators can be written. `Written` says how: an operand
of more than one token stands in parentheses, wherever these may be placed. Such an operand is an
atom, which no operator around it can take apart, so the tree that is read is the one that was
written (`parse_written`).

Around a whole expression parentheses change nothing, however many there are (`expression_enclose`).
-/

namespace Bashling

/-- The trees of arithmetic. -/
inductive Arithmetic : Node → Prop where
  | number (literal) : Arithmetic (.number literal)
  | identifier (name) : Arithmetic (.identifier name)
  | unary {operator operand} (sign : operator.value ∈ [.plus, .minus])
      (inner : Arithmetic operand) : Arithmetic (.unary operator operand)
  | binary {left operator right} (joint : operator.value ∈ Scan.arithmetic)
      (front : Arithmetic left) (back : Arithmetic right) :
      Arithmetic (.binary left operator right)

/-- Whether a tree is a single token. -/
def Node.isLeaf : Node → Bool
  | .number _ | .identifier _ => true
  | _ => false

/-- The tokens of an operand, given those of its tree: in parentheses, or as they are if the tree is
a single token. -/
inductive Enclosed (node : Node) (ts : List Token) : List Token → Prop where
  | bare (leaf : node.isLeaf = true) : Enclosed node ts ts
  | parens (start stop start' stop' : Position) :
      Enclosed node ts
        (⟨start, stop, .operator .leftParen⟩ :: ts ++ [⟨start', stop', .operator .rightParen⟩])

/-- The tokens with which a tree is written. -/
inductive Written : Node → List Token → Prop where
  | number (literal : Located Binary64) : Written (.number literal) [literal.map .number]
  | identifier (name : Located String) : Written (.identifier name) [name.map .identifier]
  | unary {operator operand ts whole} (sign : operator.value ∈ [.plus, .minus])
      (inner : Written operand ts) (enclosed : Enclosed operand ts whole) :
      Written (.unary operator operand) (operator.map .operator :: whole)
  | binary {left operator right ts ts' front back} (joint : operator.value ∈ Scan.arithmetic)
      (first : Written left ts) (enclosed : Enclosed left ts front)
      (second : Written right ts') (enclosed' : Enclosed right ts' back) :
      Written (.binary left operator right) (front ++ operator.map .operator :: back)

private theorem Arithmetic.exists_written {node : Node} (arithmetic : Arithmetic node) :
    ∃ ts, Written node ts := by
  induction arithmetic with
  | number literal => exact ⟨_, .number literal⟩
  | identifier name => exact ⟨_, .identifier name⟩
  | unary sign _ ih =>
    obtain ⟨ts, inner⟩ := ih
    exact ⟨_, .unary sign inner (.parens .origin .origin .origin .origin)⟩
  | binary joint _ _ ihFront ihBack =>
    obtain ⟨ts, first⟩ := ihFront
    obtain ⟨ts', second⟩ := ihBack
    exact ⟨_, .binary joint first (.parens .origin .origin .origin .origin)
      second (.parens .origin .origin .origin .origin)⟩

namespace Parser

open Scan Lookahead

/-! ### Atoms as operands -/

section Signs

private theorem noSignAbove_leaf {token : Token} (tight : Level)
    (other : ∀ kind, token.value ≠ .operator kind) : NoSignAbove tight token := by
  intro level operand operators _ _
  rw [Token.operator?_eq_none_iff]
  intro kind _ equal
  exact other kind equal

private theorem noSignAbove_opening (tight : Level) (start stop : Position) :
    NoSignAbove tight ⟨start, stop, .operator .leftParen⟩ := by
  intro level operand operators shaped _
  cases level <;> cases shaped <;> rfl

private theorem noSignAbove_sign {operator : Located Operator}
    (sign : operator.value ∈ [.plus, .minus]) : NoSignAbove .sign (operator.map .operator) := by
  intro level operand operators shaped above
  rw [Token.operator?_eq_none_iff]
  intro kind member equal
  cases equal
  cases level <;> cases shaped
  · -- The only looser sign is that of a negation.
    rw [List.mem_singleton.mp member] at sign
    simp at sign
  · exact absurd above (Nat.lt_irrefl _)

end Signs

/-- Tokens that are read as an atom, whatever follows them. -/
def ReadsAtom (ts : List Token) (node : Node) : Prop :=
  (∀ rest, Reads (.expression .atom) (ts ++ rest) node rest) ∧
    ∃ token more, ts = token :: more ∧ NoSignAbove .atom token

/-- An atom can be an operand of every level. -/
theorem ReadsAtom.reads {ts : List Token} {node : Node} {next : Token} (atom : ReadsAtom ts node)
    (level : Level) (ended : next.operator? (Rule.expression level).joins = none)
    (later : List Token) :
    Reads (.expression level) (ts ++ next :: later) node (next :: later) := by
  obtain ⟨read, token, more, rfl, unsigned⟩ := atom
  exact (read (next :: later)).climb level (Nat.zero_le _) unsigned ended

/-- A sum in parentheses is an atom. It is read in front of the closing one, which continues no
sum. -/
private theorem readsAtom_parens {node : Node} {ts : List Token}
    (start stop start' stop' : Position)
    (inner : ∀ next : Token, next.operator? (Rule.expression .sum).joins = none → ∀ later,
      Reads (.expression .sum) (ts ++ next :: later) node (next :: later)) :
    ReadsAtom
      (⟨start, stop, .operator .leftParen⟩ :: ts ++ [⟨start', stop', .operator .rightParen⟩])
      node := by
  refine ⟨fun rest => ?_, _, _, rfl, noSignAbove_opening _ start stop⟩
  have closed := inner ⟨start', stop', .operator .rightParen⟩ rfl rest
  simpa using Reads.parens closed rfl

/-- An operand is an atom, given that its tree is read as a sum where parentheses enclose it. -/
private theorem readsAtom_of_enclosed {node : Node} {ts whole : List Token}
    (written : Written node ts) (enclosed : Enclosed node ts whole)
    (inner : ∀ next : Token, next.operator? (Rule.expression .sum).joins = none → ∀ later,
      Reads (.expression .sum) (ts ++ next :: later) node (next :: later)) :
    ReadsAtom whole node := by
  cases enclosed with
  | bare leaf =>
    cases written with
    | number literal =>
      exact ⟨fun rest => .number _ _ _ rest, _, _, rfl, noSignAbove_leaf _ (by simp [Located.map])⟩
    | identifier name =>
      exact ⟨fun rest => .identifier _ _ _ rest, _, _, rfl,
        noSignAbove_leaf _ (by simp [Located.map])⟩
    | unary | binary => cases leaf
  | parens start stop start' stop' => exact readsAtom_parens start stop start' stop' inner

/-! ### Operations -/

private theorem joins_mono {tight loose : Level} (looser : tight.rank ≤ loose.rank) :
    (Rule.expression tight).joins ⊆ (Rule.expression loose).joins := by
  revert looser
  cases tight <;> cases loose <;> simp only [Rule.joins] <;> decide

/-- Every arithmetic operator joins the operands of some level up to sums. -/
private theorem exists_level {kind : Operator} (joint : kind ∈ arithmetic) :
    ∃ (level first later : Level) (operators : List Operator),
      level.shape = .chain first later operators true ∧ kind ∈ operators ∧
      level.rank ≤ Level.sum.rank ∧ later.rank ≤ Level.sum.rank := by
  have cases : kind ∈ [.plus, .minus] ∨ kind ∈ [.star, .slash, .percent] ∨ kind ∈ [.power] := by
    revert joint
    cases kind <;> decide
  rcases cases with sum | product | power
  · exact ⟨.sum, _, _, _, rfl, sum, by decide, by decide⟩
  · exact ⟨.product, _, _, _, rfl, product, by decide, by decide⟩
  · exact ⟨.power, _, _, _, rfl, power, by decide, by decide⟩

section Written

variable {level : Level} {next : Token}

/-- An operation on two atoms is read as such, on whatever level its operator stands. -/
private theorem reads_operation {left right : Node} {operator : Located Operator}
    {front back : List Token} (joint : operator.value ∈ arithmetic) (first : ReadsAtom front left)
    (second : ReadsAtom back right) (loose : Level.sum.rank ≤ level.rank)
    (ended : next.operator? (Rule.expression level).joins = none) (later : List Token) :
    Reads (.expression level) (front ++ operator.map .operator :: back ++ next :: later)
      (.binary left operator right) (next :: later) := by
  obtain ⟨own, tighter, behind, operators, shaped, among, tight, tight'⟩ := exists_level joint
  have looser := Nat.le_trans tight loose
  -- The left operand stops in front of the operator, the right one in front of what follows.
  have stops := operator?_joins shaped among
  have stops' : next.operator? (Rule.expression behind).joins = none :=
    Token.operator?_eq_none_of_subset (joins_mono (Nat.le_trans tight' loose)) ended
  have beyond : next.operator? operators = none := by
    obtain ⟨ofChain, -⟩ := joins_of_chain left shaped
    have within := List.Subset.trans (List.subset_append_left _ _)
      (List.Subset.trans ofChain (joins_mono looser))
    exact Token.operator?_eq_none_of_subset within ended
  have whole := Reads.operands shaped (first.reads tighter stops (back ++ next :: later))
    (.more (Token.operator?_of_mem among) (second.reads behind stops' later) (.stop true _ beyond))
  obtain ⟨-, token, more, rfl, unsigned⟩ := first
  rw [List.append_assoc]
  refine whole.climb level looser ?_ ended
  intro level' operand signs signed above
  exact unsigned level' operand signs signed (Nat.zero_lt_of_lt above)

/-- What is written is read on every level from sums on. The induction is on the writing: what
stands in parentheses is read as a sum again. -/
private theorem reads_of_written {node : Node} {ts : List Token} (written : Written node ts)
    (loose : Level.sum.rank ≤ level.rank)
    (ended : next.operator? (Rule.expression level).joins = none) (later : List Token) :
    Reads (.expression level) (ts ++ next :: later) node (next :: later) := by
  induction written generalizing level next later with
  | number literal =>
    exact reads_number level literal.start literal.stop literal.value next later ended
  | identifier name =>
    exact reads_name level name.start name.stop name.value next later ended
  | unary sign inner enclosed ih =>
    have atom := readsAtom_of_enclosed inner enclosed fun _ => ih (Nat.le_refl _)
    have tight : Level.sign.rank ≤ level.rank := Nat.le_trans (by decide) loose
    have ended' := Token.operator?_eq_none_of_subset (joins_mono tight) ended
    have signed : Reads (.expression .sign) _ _ _ :=
      .signed rfl (Token.operator?_of_mem sign) (atom.reads .sign ended' later)
    exact signed.climb level tight (noSignAbove_sign sign) ended
  | binary joint first enclosed second enclosed' ihFirst ihSecond =>
    have left := readsAtom_of_enclosed first enclosed fun _ => ihFirst (Nat.le_refl _)
    have right := readsAtom_of_enclosed second enclosed' fun _ => ihSecond (Nat.le_refl _)
    exact reads_operation joint left right loose ended later

end Written

/-- Every tree of arithmetic can be written, and however it is written, with the end of the text
behind it, it is the tree that is read, and the end of the text is what is left. -/
theorem parse_written {node : Node} (arithmetic : Arithmetic node) :
    (∃ ts, Written node ts) ∧
      ∀ (ts later : List Token) (eof : Token), Written node ts → eof.isEof = true →
        ∃ rest, (ofTokens (ts ++ eof :: later)).parse = (.ok node, rest) ∧
          rest.next.1 = .ok eof ∧ rest.ahead = eof :: later := by
  refine ⟨arithmetic.exists_written, fun ts later eof written isEof => ?_⟩
  have ended : eof.operator? (Rule.expression .disjunction).joins = none := by
    obtain ⟨start, stop, lexeme⟩ := eof
    cases lexeme <;> first | rfl | cases isEof
  have read := reads_of_written written (by decide) ended later
  obtain ⟨rest, built, shown, -⟩ := (read.statement.gives _ (ahead_ofTokens _)).outcome
  obtain ⟨_, taken, -⟩ := next_of_ahead shown
  exact ⟨rest, built, by rw [taken], shown⟩

/-- Without its parentheses `((a - b) - c) ** (-d)` would be read as another tree: differences group
to the right and powers bind tighter. -/
theorem parse_written_power_of_difference :
    let place (column : Int) : Position := ⟨1, column⟩
    let name (column : Int) (text : String) : Located String := ⟨place column, place column, text⟩
    let sign (column : Int) (kind : Operator) : Located Operator :=
      ⟨place column, place (column + kind.spelling.length - 1), kind⟩
    let token (column : Int) (kind : Operator) : Token := (sign column kind).map .operator
    let node : Node :=
      .binary
        (.binary (.binary (.identifier (name 3 "a")) (sign 5 .minus) (.identifier (name 7 "b")))
          (sign 10 .minus) (.identifier (name 12 "c")))
        (sign 15 .power) (.unary (sign 19 .minus) (.identifier (name 20 "d")))
    let ts : List Token :=
      [token 1 .leftParen, token 2 .leftParen, (name 3 "a").map .identifier, token 5 .minus,
       (name 7 "b").map .identifier, token 8 .rightParen, token 10 .minus,
       (name 12 "c").map .identifier, token 13 .rightParen, token 15 .power, token 18 .leftParen,
       token 19 .minus, (name 20 "d").map .identifier, token 21 .rightParen]
    let eof : Token := ⟨place 22, place 22, .eof⟩
    Arithmetic node ∧ Written node ts ∧
      ∃ rest, (ofTokens (ts ++ [eof])).parse = (.ok node, rest) ∧ rest.next.1 = .ok eof := by
  intro place name sign token node ts eof
  have arithmetic : Arithmetic node :=
    .binary (by simp [sign, Scan.arithmetic])
      (.binary (by simp [sign, Scan.arithmetic])
        (.binary (by simp [sign, Scan.arithmetic]) (.identifier _) (.identifier _)) (.identifier _))
      (.unary (by simp [sign]) (.identifier _))
  have difference : Written
      (.binary (.identifier (name 3 "a")) (sign 5 .minus) (.identifier (name 7 "b")))
      [(name 3 "a").map .identifier, token 5 .minus, (name 7 "b").map .identifier] :=
    .binary (by simp [sign, Scan.arithmetic]) (.identifier _) (.bare rfl) (.identifier _)
      (.bare rfl)
  have written : Written node ts :=
    .binary (by simp [sign, Scan.arithmetic])
      (.binary (by simp [sign, Scan.arithmetic]) difference (.parens _ _ _ _) (.identifier _)
        (.bare rfl))
      (.parens _ _ _ _) (.unary (by simp [sign]) (.identifier _) (.bare rfl)) (.parens _ _ _ _)
  obtain ⟨rest, built, left, -⟩ := (parse_written arithmetic).2 ts [] eof written rfl
  exact ⟨arithmetic, written, rest, built, left⟩

/-! ### Redundant parentheses -/

/-- The places of an opening and of a closing parenthesis. -/
structure Parens where
  start : Position
  stop : Position
  start' : Position
  stop' : Position

/-- Some tokens in a pair of parentheses. -/
def Parens.around (parens : Parens) (ts : List Token) : List Token :=
  ⟨parens.start, parens.stop, .operator .leftParen⟩ :: ts ++
    [⟨parens.start', parens.stop', .operator .rightParen⟩]

/-- Some tokens in pairs of parentheses, the first of them outermost. -/
def enclose (pairs : List Parens) (ts : List Token) : List Token :=
  pairs.foldr Parens.around ts

section Redundant

variable {ts : List Token} {node : Node}

/-- What is read in full as a sum is an atom between parentheses. -/
theorem ReadInFull.around (full : ReadInFull .sum ts node) (parens : Parens) :
    ReadsAtom (parens.around ts) node :=
  readsAtom_parens _ _ _ _ fun _ ended later => full.reads ended later

theorem ReadInFull.enclose (full : ReadInFull .sum ts node) (pairs : List Parens) :
    ReadInFull .sum (enclose pairs ts) node := by
  induction pairs with
  | nil => exact full
  | cons parens pairs ih =>
    -- The atom is read in front of any token that continues no sum, for instance an end of text.
    have ended : Token.operator? ⟨.origin, .origin, .eof⟩ (Rule.expression .sum).joins = none := rfl
    exact ((ih.around parens).reads .sum ended []).inFull

end Redundant

/-- Redundant parentheses change nothing. Tokens that are read in full as a sum, in front of
whatever tokens, are in any number of parentheses read as the same tree, up to the first token that
continues no arithmetic. -/
theorem expression_enclose {σ : Type} [TokenSource σ] (s : Stream σ) (pairs : List Parens)
    (ts later : List Token) (node : Node) (next : Token) (full : ReadInFull .sum ts node)
    (ended : next.operator? arithmetic = none)
    (ahead : s.ahead = enclose pairs ts ++ next :: later) :
    ∃ rest, (expression .sum s).outcome = (.ok node, rest) ∧ rest.ahead = next :: later := by
  have read := (full.enclose pairs).reads ended later
  obtain ⟨rest, built, left, -⟩ := (read.gives s ahead).outcome
  exact ⟨rest, built, left⟩

/-- In `((a - b - c)) == d`, with both pairs of parentheses at one place. -/
theorem expression_enclose_difference :
    let name (column : Int) (text : String) : Located String := ⟨⟨1, column⟩, ⟨1, column⟩, text⟩
    let minus (column : Int) : Located Operator := ⟨⟨1, column⟩, ⟨1, column⟩, .minus⟩
    let node : Node :=
      .binary (.identifier (name 1 "a")) (minus 3)
        (.binary (.identifier (name 5 "b")) (minus 7) (.identifier (name 9 "c")))
    let ts : List Token :=
      [(name 1 "a").map .identifier, (minus 3).map .operator, (name 5 "b").map .identifier,
       (minus 7).map .operator, (name 9 "c").map .identifier]
    let parens : Parens := ⟨⟨2, 0⟩, ⟨2, 0⟩, ⟨3, 0⟩, ⟨3, 0⟩⟩
    let next : Token := ⟨⟨1, 11⟩, ⟨1, 12⟩, .operator .equals⟩
    let later : List Token := [(name 14 "d").map .identifier, ⟨⟨1, 15⟩, ⟨1, 15⟩, .eof⟩]
    ReadInFull .sum ts node ∧
      ∃ rest, (expression .sum (ofTokens (enclose [parens, parens] ts ++ next :: later))).outcome =
        (.ok node, rest) ∧ rest.ahead = next :: later := by
  intro name minus node ts parens next later
  let operand (column : Int) (text : String) : List Token := [(name column text).map .identifier]
  let links : List Link :=
    [⟨minus 3, operand 5 "b", .identifier (name 5 "b")⟩,
     ⟨minus 7, operand 9 "c", .identifier (name 9 "c")⟩]
  have operands : ∀ link ∈ links, ReadInFull .product link.tokens link.node := by
    simpa [links] using ⟨readInFull_name .product _ _ _, readInFull_name .product _ _ _⟩
  have full : ReadInFull .sum ts node :=
    (reads_right .sum [] rfl (readInFull_name .product _ _ _) operands (by simp [links, minus])
      (show next.operator? _ = none from rfl)).inFull
  exact ⟨full, expression_enclose _ [parens, parens] ts later node next full rfl
    (ahead_ofTokens _)⟩

end Parser
end Bashling
