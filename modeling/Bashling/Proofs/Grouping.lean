import Bashling.Proofs.Locality

/-!
# How chains group

A chain is a first operand and links, each an operator with the operand behind it. Where a level
reads itself behind its operators, the first operator takes all that follows as its right side
(`reads_right`). Where it reads the tighter level there, each operator takes one operand and all
that stands in front of it (`reads_left`).

Sums are of the first kind and products of the second. So of `a - b - c` the parser makes
`a - (b - c)`, and only a sum of at most two operands is grouped as a product would be
(`sum_groups_right`).
-/

namespace Bashling

/-- The number of operations on the left side of a tree, one below the other. -/
def Node.leftDepth : Node → Nat
  | .binary left _ _ => left.leftDepth + 1
  | _ => 0

/-- An operator and the operand behind it, with its tokens. -/
structure Link where
  operator : Located Operator
  tokens : List Token
  node : Node

namespace Link

def sign (link : Link) : Token :=
  ⟨link.operator.start, link.operator.stop, .operator link.operator.value⟩

/-- The tokens of some links. -/
def written : List Link → List Token
  | [] => []
  | link :: links => link.sign :: link.tokens ++ written links

/-- Each operator takes the tree in front of it and its own operand. -/
def groupLeft (first : Node) : List Link → Node
  | [] => first
  | link :: links => groupLeft (.binary first link.operator link.node) links

/-- Each operator takes the operand in front of it and the tree behind it. -/
def groupRight (first : Node) : List Link → Node
  | [] => first
  | link :: links => .binary first link.operator (groupRight link.node links)

private theorem operator?_sign {link : Link} {operators : List Operator}
    (among : link.operator.value ∈ operators) :
    link.sign.operator? operators = some link.operator :=
  Token.operator?_of_mem among

private theorem leftDepth_groupLeft (first : Node) (links : List Link) :
    (groupLeft first links).leftDepth = first.leftDepth + links.length := by
  induction links generalizing first with
  | nil => rfl
  | cons link links ih =>
    rw [groupLeft, ih, Node.leftDepth, List.length_cons]
    omega

/-- The two ways to group differ as soon as there are two operators. -/
private theorem groupRight_eq_groupLeft_iff (first : Node) (links : List Link) :
    groupRight first links = groupLeft first links ↔ links.length ≤ 1 := by
  constructor
  · intro equal
    have depths := congrArg Node.leftDepth equal
    rw [leftDepth_groupLeft] at depths
    cases links with
    | nil => exact Nat.zero_le 1
    | cons link links =>
      -- Grouped to the right, only the first operator is left of everything else.
      rw [groupRight, Node.leftDepth] at depths
      omega
  · intro few
    match links with
    | [] => rfl
    | [link] => rfl
    | _ :: _ :: _ => simp at few

end Link

namespace Level

private theorem rank_injective {level level' : Level} (equal : level.rank = level'.rank) :
    level = level' := by
  cases level <;> cases level' <;> first | rfl | cases equal

private theorem rank_of_chain {level first later : Level} {operators : List Operator}
    {repeats : Bool} (shaped : level.shape = .chain first later operators repeats) :
    level.rank = first.rank + 1 := by
  cases level <;> cases shaped <;> rfl

private theorem rank_of_signed {level operand : Level} {operators : List Operator}
    (shaped : level.shape = .signed operand operators) : level.rank = operand.rank + 1 := by
  cases level <;> cases shaped <;> rfl

end Level

namespace Parser

open Scan Link

/-- The operators of a level do not continue its first operand. -/
private theorem notMem_joins {level first later : Level} {operators : List Operator}
    {repeats : Bool} (shaped : level.shape = .chain first later operators repeats) :
    ∀ kind ∈ operators, kind ∉ (Rule.expression first).joins := by
  cases level <;> cases shaped <;> simp only [Rule.joins] <;> decide

theorem operator?_joins {level first later : Level} {operators : List Operator} {repeats : Bool}
    {operator : Located Operator} (shaped : level.shape = .chain first later operators repeats)
    (among : operator.value ∈ operators) :
    Token.operator? (operator.map .operator) (Rule.expression first).joins = none := by
  rw [Token.operator?_eq_none_iff]
  intro kind member equal
  cases equal
  exact notMem_joins shaped _ among member

section Chains

variable {first : Level} {operators : List Operator} {tokens : List Token} {node : Node}
  {links : List Link} {next : Token}

/-- An operand stops in front of an operator of the level. -/
private theorem ReadInFull.reads_sign {level second : Level} {link : Link}
    (shaped : level.shape = .chain first second operators true)
    (full : ReadInFull first tokens node) (among : link.operator.value ∈ operators)
    (later : List Token) :
    Reads (.expression first) (tokens ++ link.sign :: later) node (link.sign :: later) :=
  full.reads (operator?_joins shaped among) later

/-- The induction is on the links: what stands behind the first operator is a chain of the same
level, and it takes all the rest. -/
theorem reads_right (level : Level) (later : List Token)
    (shaped : level.shape = .chain first level operators true)
    (head : ReadInFull first tokens node)
    (operands : ∀ link ∈ links, ReadInFull first link.tokens link.node)
    (among : ∀ link ∈ links, link.operator.value ∈ operators)
    (ended : next.operator? (Rule.expression level).joins = none) :
    Reads (.expression level) (tokens ++ written links ++ next :: later) (groupRight node links)
      (next :: later) := by
  obtain ⟨ofChain, ofFirst⟩ := joins_of_chain node shaped
  have stops : next.operator? operators = none :=
    Token.operator?_eq_none_of_subset (List.Subset.trans (List.subset_append_left _ _) ofChain)
      ended
  induction links generalizing tokens node with
  | nil =>
    have read := head.reads (Token.operator?_eq_none_of_subset ofFirst ended) later
    rw [written, List.append_nil]
    exact .operands shaped read (.stop true node stops)
  | cons link links ih =>
    rw [List.forall_mem_cons] at operands among
    have join := operator?_sign among.1
    have right := ih operands.1 operands.2 among.2 ofChain
    have read := head.reads_sign shaped among.1 (link.tokens ++ written links ++ next :: later)
    -- The chain goes on once, with everything behind the operator, and stops.
    have tail : Reads (.chain level operators true node)
        (link.sign :: (link.tokens ++ written links ++ next :: later))
        (.binary node link.operator (groupRight link.node links)) (next :: later) :=
      .more join right (.stop true _ stops)
    simpa [written, groupRight] using Reads.operands shaped read tail

/-- The induction is on the links, with the tree that was built so far in front of them. -/
private theorem chain_reads_left {level : Level} (node : Node) (later : List Token)
    (shaped : level.shape = .chain first first operators true)
    (operands : ∀ link ∈ links, ReadInFull first link.tokens link.node)
    (among : ∀ link ∈ links, link.operator.value ∈ operators)
    (ended : next.operator? (Rule.expression level).joins = none) :
    Reads (.chain first operators true node) (written links ++ next :: later)
      (groupLeft node links) (next :: later) := by
  obtain ⟨ofChain, ofFirst⟩ := joins_of_chain node shaped
  induction links generalizing node with
  | nil =>
    have within := List.Subset.trans (List.subset_append_left _ _) ofChain
    exact .stop true node (Token.operator?_eq_none_of_subset within ended)
  | cons link links ih =>
    rw [List.forall_mem_cons] at operands among
    have tail := ih (.binary node link.operator link.node) operands.2 among.2 ofChain
    have operand : Reads (.expression first) (link.tokens ++ (written links ++ next :: later))
        link.node (written links ++ next :: later) := by
      -- Behind the operand stands the operator of the next link, or what ends the chain.
      cases links with
      | nil => exact operands.1.reads (Token.operator?_eq_none_of_subset ofFirst ended) later
      | cons link' links =>
        rw [List.forall_mem_cons] at among
        exact operands.1.reads_sign shaped among.2.1 _
    simpa [written, groupLeft] using Reads.more (operator?_sign among.1) operand tail

theorem reads_left (level : Level) (later : List Token)
    (shaped : level.shape = .chain first first operators true)
    (head : ReadInFull first tokens node)
    (operands : ∀ link ∈ links, ReadInFull first link.tokens link.node)
    (among : ∀ link ∈ links, link.operator.value ∈ operators)
    (ended : next.operator? (Rule.expression level).joins = none) :
    Reads (.expression level) (tokens ++ written links ++ next :: later) (groupLeft node links)
      (next :: later) := by
  obtain ⟨-, ofFirst⟩ := joins_of_chain node shaped
  have tail := chain_reads_left node later shaped operands among ended
  rw [List.append_assoc]
  cases links with
  | nil =>
    exact .operands shaped (head.reads (Token.operator?_eq_none_of_subset ofFirst ended) later) tail
  | cons link links =>
    rw [List.forall_mem_cons] at among
    exact .operands shaped (head.reads_sign shaped among.1 _) tail

/-- Whether a token is no sign of a level looser than this one. -/
def NoSignAbove (tight : Level) (token : Token) : Prop :=
  ∀ (level operand : Level) (operators : List Operator), level.shape = .signed operand operators →
    tight.rank < level.rank → token.operator? operators = none

/-- What is read on a level is read on every looser one, unless it starts with a sign of a level in
between or is followed by an operator that continues it there. -/
theorem Reads.climb {tight : Level} {token : Token} {ts later : List Token}
    (read : Reads (.expression tight) (token :: ts) node (next :: later)) (loose : Level)
    (looser : tight.rank ≤ loose.rank) (unsigned : NoSignAbove tight token)
    (ended : next.operator? (Rule.expression loose).joins = none) :
    Reads (.expression loose) (token :: ts) node (next :: later) := by
  rcases Nat.eq_or_lt_of_le looser with same | less
  · rwa [← Level.rank_injective same]
  cases shaped : loose.shape with
  | chain first second operators repeats =>
    have below := Level.rank_of_chain shaped
    obtain ⟨ofChain, ofFirst⟩ := joins_of_chain node shaped
    have inner := read.climb first (by omega) unsigned
      (Token.operator?_eq_none_of_subset ofFirst ended)
    refine .operands shaped inner (.stop repeats node ?_)
    exact Token.operator?_eq_none_of_subset
      (List.Subset.trans (List.subset_append_left _ _) ofChain) ended
  | signed operand operators =>
    have below := Level.rank_of_signed shaped
    rw [← joins_of_signed shaped] at ended
    have inner := read.climb operand (by omega) unsigned ended
    exact .unsigned shaped (unsigned loose operand operators shaped less) inner
  | atom =>
    obtain rfl : loose = .atom := by
      cases loose <;> first | rfl | cases shaped
    exact absurd less (Nat.not_lt_zero _)
termination_by loose.rank

/-- A name alone is an expression of every level. -/
theorem reads_name (level : Level) (start stop : Position) (name : String) (next : Token)
    (later : List Token) (ended : next.operator? (Rule.expression level).joins = none) :
    Reads (.expression level) (⟨start, stop, .identifier name⟩ :: next :: later)
      (.identifier ⟨start, stop, name⟩) (next :: later) :=
  (Reads.identifier start stop name _).climb level (Nat.zero_le _) (fun _ _ _ _ _ => rfl) ended

/-- So is a number. -/
theorem reads_number (level : Level) (start stop : Position) (value : Binary64) (next : Token)
    (later : List Token) (ended : next.operator? (Rule.expression level).joins = none) :
    Reads (.expression level) (⟨start, stop, .number value⟩ :: next :: later)
      (.number ⟨start, stop, value⟩) (next :: later) :=
  (Reads.number start stop value _).climb level (Nat.zero_le _) (fun _ _ _ _ _ => rfl) ended

theorem Reads.inFull {level : Level} {later : List Token}
    (read : Reads (.expression level) (tokens ++ next :: later) node (next :: later)) :
    ReadInFull level tokens node := by
  obtain ⟨rest, built, left⟩ := read.outcome
  exact ⟨next, later, rest, built, left⟩

theorem readInFull_name (level : Level) (start stop : Position) (name : String) :
    ReadInFull level [⟨start, stop, .identifier name⟩] (.identifier ⟨start, stop, name⟩) :=
  (reads_name level start stop name ⟨stop, stop, .eof⟩ [] rfl).inFull

end Chains

/-- Products group to the left, however long they are. -/
theorem product_groups_left (tokens later : List Token) (node : Node) (links : List Link)
    (next : Token) (head : ReadInFull .sign tokens node)
    (operands : ∀ link ∈ links, ReadInFull .sign link.tokens link.node)
    (among : ∀ link ∈ links, link.operator.value ∈ [.star, .slash, .percent])
    (ended : next.operator? [.star, .slash, .percent, .power] = none) :
    ∃ rest, (expression .product (.ofTokens (tokens ++ written links ++ next :: later))).outcome =
        (.ok (groupLeft node links), rest) ∧ rest.ahead = next :: later :=
  (reads_left .product later rfl head operands among ended).outcome

/-- Sums group to the right: operands that are read in full as products, with plus and minus signs
between them and a token behind them that continues no arithmetic, are read up to that token, and
each sign takes all that stands behind it. That is the tree grouped to the left exactly if there is
at most one sign. -/
theorem sum_groups_right (tokens later : List Token) (node : Node) (links : List Link)
    (next : Token) (head : ReadInFull .product tokens node)
    (operands : ∀ link ∈ links, ReadInFull .product link.tokens link.node)
    (signs : ∀ link ∈ links, link.operator.value ∈ [.plus, .minus])
    (ended : next.operator? arithmetic = none) :
    let reply := (expression .sum (.ofTokens (tokens ++ written links ++ next :: later))).outcome
    reply.1 = .ok (groupRight node links) ∧ reply.2.ahead = next :: later ∧
      (reply.1 = .ok (groupLeft node links) ↔ links.length ≤ 1) := by
  intro reply
  have read := reads_right .sum later rfl head operands signs ended
  obtain ⟨rest, built, left⟩ := read.outcome
  have result : reply = (.ok (groupRight node links), rest) := built
  rw [result]
  refine ⟨rfl, left, ?_⟩
  rw [← groupRight_eq_groupLeft_iff node links, Except.ok.injEq]

/-- A product stands as one operand in `a - b * c - d`, and the second minus sign belongs to what
the first one takes away. -/
theorem sum_groups_right_product_inside :
    let name (column : Int) (text : String) : Token :=
      ⟨⟨1, column⟩, ⟨1, column⟩, .identifier text⟩
    let leaf (column : Int) (text : String) : Node := .identifier ⟨⟨1, column⟩, ⟨1, column⟩, text⟩
    let sign (column : Int) (kind : Operator) : Located Operator :=
      ⟨⟨1, column⟩, ⟨1, column⟩, kind⟩
    let times : Link := ⟨sign 7 .star, [name 9 "c"], leaf 9 "c"⟩
    let product : Link :=
      ⟨sign 3 .minus, name 5 "b" :: written [times], groupLeft (leaf 5 "b") [times]⟩
    let last : Link := ⟨sign 11 .minus, [name 13 "d"], leaf 13 "d"⟩
    let eof : Token := ⟨⟨1, 14⟩, ⟨1, 14⟩, .eof⟩
    let reply := (expression .sum
      (.ofTokens ([name 1 "a"] ++ written [product, last] ++ [eof]))).outcome
    reply.1 = .ok (.binary (leaf 1 "a") (sign 3 .minus)
        (.binary (.binary (leaf 5 "b") (sign 7 .star) (leaf 9 "c")) (sign 11 .minus)
          (leaf 13 "d"))) ∧
      reply.1 ≠ .ok (groupLeft (leaf 1 "a") [product, last]) := by
  intro name leaf sign times product last eof reply
  have inside : ReadInFull .product product.tokens product.node :=
    (reads_left .product [] rfl (readInFull_name .sign _ _ _)
      (by simpa using readInFull_name .sign _ _ _) (by simp [times, sign])
      (show eof.operator? _ = none from rfl)).inFull
  obtain ⟨built, -, grouped⟩ := sum_groups_right [name 1 "a"] [] (leaf 1 "a") [product, last] eof
    (readInFull_name .product _ _ _) (by simpa using ⟨inside, readInFull_name .product _ _ _⟩)
    (by simp [product, last, sign]) rfl
  exact ⟨built, fun left => absurd (grouped.mp left) (by simp)⟩

/-- Not every sum is grouped to the left: `a - b - c` is not. -/
theorem sum_of_three_not_grouped_left :
    ¬∀ (tokens later : List Token) (node : Node) (links : List Link) (next : Token),
      ReadInFull .product tokens node →
      (∀ link ∈ links, ReadInFull .product link.tokens link.node) →
      (∀ link ∈ links, link.operator.value ∈ [Operator.plus, .minus]) → links ≠ [] →
      next.operator? arithmetic = none →
      (expression .sum (.ofTokens (tokens ++ written links ++ next :: later))).outcome.1 =
        .ok (groupLeft node links) := by
  intro claimed
  let name (column : Int) (text : String) : Located String := ⟨⟨1, column⟩, ⟨1, column⟩, text⟩
  let minus (column : Int) : Located Operator := ⟨⟨1, column⟩, ⟨1, column⟩, .minus⟩
  let operand (name : Located String) : List Token :=
    [⟨name.start, name.stop, .identifier name.value⟩]
  let links : List Link :=
    [⟨minus 3, operand (name 5 "b"), .identifier (name 5 "b")⟩,
     ⟨minus 7, operand (name 9 "c"), .identifier (name 9 "c")⟩]
  let eof : Token := ⟨⟨1, 10⟩, ⟨1, 10⟩, .eof⟩
  have head : ReadInFull .product (operand (name 1 "a")) (.identifier (name 1 "a")) :=
    readInFull_name .product _ _ _
  have operands : ∀ link ∈ links, ReadInFull .product link.tokens link.node := by
    simpa [links] using ⟨readInFull_name .product _ _ _, readInFull_name .product _ _ _⟩
  have signs : ∀ link ∈ links, link.operator.value ∈ [Operator.plus, .minus] := by
    simp [links, minus]
  have left := claimed _ [] _ links eof head operands signs (by simp [links]) rfl
  -- What is built is grouped to the right, and with two signs that is another tree.
  have read := reads_right .sum [] rfl head operands signs
    (show eof.operator? arithmetic = none from rfl)
  obtain ⟨rest, built, -⟩ := read.outcome
  rw [built, Except.ok.injEq, groupRight_eq_groupLeft_iff] at left
  exact absurd left (by simp [links])

end Parser

end Bashling
