import Bashling.Proofs.Totality

/-!
# What one parse takes of a text

A parse reads one statement from the front of a text and leaves the rest unread. `Statement` is the
language of statements, said without the parser. What a parse takes is a statement, and no statement
begins with it and the token behind it; so nothing but the end of the text is left exactly if the
text is a single statement (`parse_takes_statement`). Functions are left out of this: to read one
stops in front of its closing brace.
-/

namespace Bashling

namespace Token

theorem value_of_operator? {token : Token} {kind : Operator} {operator : Located Operator}
    (found : token.operator? [kind] = some operator) : token.value = .operator kind := by
  obtain ⟨rfl, among⟩ := operator?_eq_some found
  rw [List.mem_singleton.mp among]

theorem value_of_identifier? {token : Token} {name : Located String}
    (found : token.identifier? = some name) : token.value = .identifier name.value := by
  obtain ⟨start, stop, lexeme⟩ := token
  cases lexeme with
  | identifier text => cases found; rfl
  | _ => cases found

end Token

namespace Grammar

/-- Names and their types, between commas; one may also follow the last of them. -/
inductive Parameters : List Token → Prop where
  | nil : Parameters []
  | last {token colon typed : Token} {name type} (named : token.value = .identifier name)
      (separates : colon.value = .operator .colon) (types : typed.value = .identifier type) :
      Parameters [token, colon, typed]
  | more {token colon typed comma : Token} {name type ts} (named : token.value = .identifier name)
      (separates : colon.value = .operator .colon) (types : typed.value = .identifier type)
      (goesOn : comma.value = .operator .comma) (later : Parameters ts) :
      Parameters (token :: colon :: typed :: comma :: ts)

/-- The strings of tokens that are statements. -/
inductive Statement : List Token → Prop where
  | expression {ts} (sentence : Sentence .disjunction ts) : Statement ts
  | letStatement {token target sign semicolon : Token} {name ts}
      (starts : token.value = .keyword .let) (named : target.value = .identifier name)
      (assigns : sign.value = .operator .assign) (inner : Statement ts)
      (ends : semicolon.value = .operator .semicolon) :
      Statement (token :: target :: sign :: (ts ++ [semicolon]))
  | funcStatement {token target opening closing brace brace' : Token} {name listed}
      {statements : List (List Token)} (starts : token.value = .keyword .func)
      (named : target.value = .identifier name) (opens : opening.value = .operator .leftParen)
      (parameters : Parameters listed) (closes : closing.value = .operator .rightParen)
      (leftBrace : brace.value = .operator .leftBrace) (inner : ∀ ts ∈ statements, Statement ts)
      (rightBrace : brace'.value = .operator .rightBrace) :
      Statement (token :: target :: opening :: (listed ++ closing :: brace ::
        (statements.flatten ++ [brace'])))

/-- Whether some statement begins with these tokens. -/
def BeginsStatement (ts : List Token) : Prop := ∃ w, Statement w ∧ ts <+: w

/-- An expression starts with a token that is no keyword. -/
theorem Sentence.head {ts : List Token} (sentence : Sentence .disjunction ts) :
    ∃ token later, ts = token :: later ∧ ∀ kind, token.value ≠ .keyword kind := by
  obtain ⟨q, reached, ended, -⟩ := Scan.accepts_of_sentence sentence
  cases ts with
  | nil =>
    cases reached
    cases ended
  | cons token later =>
    refine ⟨token, later, rfl, fun kind equal => ?_⟩
    have stuck : Scan.start.step token = none := by simp [Scan.step, equal]
    rw [Scan.run_cons, stuck] at reached
    cases reached

/-- What no expression continues, no statement does. -/
private theorem not_beginsStatement_of_sentence {ts : List Token} {next : Token}
    (sentence : Sentence .disjunction ts) (ended : ¬Begins (ts ++ [next])) :
    ¬BeginsStatement (ts ++ [next]) := by
  obtain ⟨token, later, rfl, noKeyword⟩ := sentence.head
  rintro ⟨w, statement, front⟩
  cases statement with
  | expression sentence' => exact ended ⟨w, sentence', front⟩
  | letStatement starts =>
    obtain ⟨rfl, -⟩ := List.cons_prefix_cons.mp front
    exact noKeyword _ starts
  | funcStatement starts =>
    obtain ⟨rfl, -⟩ := List.cons_prefix_cons.mp front
    exact noKeyword _ starts

/-- Behind its semicolon a `let` does not go on, if what it assigns does not go on with that. -/
private theorem not_beginsStatement_of_let {ts : List Token} {token target sign semicolon : Token}
    (starts : token.value = .keyword .let) (ended : ¬BeginsStatement (ts ++ [semicolon]))
    (next : Token) :
    ¬BeginsStatement (token :: target :: sign :: (ts ++ [semicolon]) ++ [next]) := by
  rintro ⟨w, statement, front⟩
  cases statement with
  | expression sentence =>
    obtain ⟨token', later, rfl, noKeyword⟩ := sentence.head
    obtain ⟨rfl, -⟩ := List.cons_prefix_cons.mp front
    exact noKeyword _ starts
  | @letStatement _ _ _ semicolon' _ ts' _ _ _ inner _ =>
    -- What is assigned there begins with all that is assigned here and the semicolon.
    simp only [List.cons_append, List.cons_prefix_cons] at front
    refine ended ⟨ts', inner, ?_⟩
    rcases List.prefix_concat_iff.mp front.2.2.2 with whole | shorter
    · exact (List.append_inj_left' whole rfl) ▸ List.prefix_refl _
    · exact (List.prefix_append _ _).trans shorter
  | funcStatement starts' =>
    obtain ⟨rfl, -⟩ := List.cons_prefix_cons.mp front
    rw [starts] at starts'
    cases starts'

end Grammar

namespace Parser

open Grammar

/-- The tokens in front of what is left are a statement that does not go on there. -/
def Whole (ts rest : List Token) : Prop :=
  ∃ taken, ts = taken ++ rest ∧ Statement taken ∧
    ∀ next later, rest = next :: later → ¬BeginsStatement (taken ++ [next])

/-- Whether a closing brace is what is left first. -/
def Braced (rest : List Token) : Prop :=
  ∃ brace later, rest = brace :: later ∧ brace.value = .operator .rightBrace

/-- What a phrase leaves: a statement is taken as a whole, a function up to its closing brace. -/
def Leaves : Phrase → List Token → Node → List Token → Prop
  | .statement, ts, node, rest =>
    (∃ keyword declared, node = .funcStatement keyword declared) ∧ Braced rest ∨ Whole ts rest
  | .assignment, ts, _, rest => ∃ target sign name inner, ts = target :: sign :: inner ∧
      target.value = .identifier name ∧ sign.value = .operator .assign ∧
      (Braced rest ∨ Whole inner rest)
  | .declaration, _, _, rest | .block, _, _, rest | .statements, _, _, rest => Braced rest

theorem ReadsPhrase.leaves {phrase : Phrase} {ts rest : List Token} {node : Node}
    (read : ReadsPhrase phrase ts node rest) : Leaves phrase ts node rest := by
  induction read with
  | expression _ read =>
    -- The parser stops where no expression goes on, and then no statement does.
    obtain ⟨taken, split, -, sentence, stuck⟩ := read.stops
    refine .inr ⟨taken, split, .expression sentence, fun next later equal => ?_⟩
    obtain ⟨q, reached, -⟩ := Scan.accepts_of_sentence sentence
    exact not_beginsStatement_of_sentence sentence
      (Scan.not_begins_of_stuck reached (stuck q reached next later equal))
  | @letStatement start stop _ _ _ rest token _ ends ih =>
    have semicolon := Token.value_of_operator? ends
    obtain ⟨target, sign, name, inner, rfl, named, assigns, braced | whole⟩ := ih
    · -- A function cannot be assigned: its brace is left where the semicolon is read.
      obtain ⟨brace, later, equal, closes⟩ := braced
      cases equal
      rw [semicolon] at closes
      cases closes
    · obtain ⟨taken, rfl, statement, ended⟩ := whole
      let first : Token := ⟨start, stop, .keyword .let⟩
      refine .inr ⟨first :: target :: sign :: (taken ++ [token]), by simp [first], ?_, ?_⟩
      · exact .letStatement rfl named assigns statement semicolon
      · intro next later equal
        exact not_beginsStatement_of_let rfl (ended token rest rfl) next
  | funcStatement _ ih => exact .inl ⟨⟨_, _, rfl⟩, ih⟩
  | @assignment token sign target _ _ _ _ named assigns _ ih =>
    refine ⟨token, sign, target.value, _, rfl, Token.value_of_identifier? named,
      Token.value_of_operator? assigns, ?_⟩
    rcases ih with ⟨-, braced⟩ | whole
    · exact .inl braced
    · exact .inr whole
  | declaration _ _ _ _ _ ih => exact ih
  | block _ _ ih => exact ih
  | nil closes => exact ⟨_, _, rfl, Token.value_of_operator? closes⟩
  | cons _ _ _ _ ihLater => exact ihLater

end Parser

/-! ### Whole texts -/

/-- The end of a text is the last of its tokens. -/
private theorem Lexer.tokens_eof (l : Lexer) {front later : List Token} {eof : Token}
    {failure : Option Failure} (read : l.tokens = (front ++ eof :: later, failure))
    (ended : eof.isEof = true) : later = [] ∧ failure = none := by
  induction l using Lexer.tokens.induct generalizing front with
  | case1 l closed =>
    rw [tokens_of_over closed] at read
    simp at read
  | case2 l running failure' after step =>
    rw [tokens_of_failed (by simpa using running) step] at read
    simp at read
  | case3 l running token after step _ _ _ _ ih =>
    rw [tokens_of_token (by simpa using running) step] at read
    obtain ⟨tokens, finished⟩ := Prod.mk.inj read
    cases front with
    | cons first front => exact ih (Prod.ext (List.cons.inj tokens).2 finished)
    | nil =>
      obtain ⟨rfl, rfl⟩ := List.cons.inj tokens
      have outcome := l.next_cases
      rw [step] at outcome
      cases outcome with
      | eof _ closed =>
        -- Having handed out the end, the lexer is over and gives no more tokens.
        rw [tokens_of_over closed] at finished ⊢
        exact ⟨rfl, finished.symm⟩
      | token _ _ spelled => cases ended.symm.trans (spelled.isEof _ _)

/-- While the end of a text has not been taken, its tokens can be asked for. -/
private theorem isOver_of_passed {text : List Char} {rest : Stream Lexer} {taken : List Token}
    (passed : Parser.Passed (tokenStream text) rest taken) : rest.isOver = false := by
  cases closed : rest.isOver with
  | false => rfl
  | true =>
    -- All tokens are taken, without an end of text; then the lexer has failed and is not over.
    obtain ⟨nothing, ending⟩ := Lookahead.nothing_ahead_of_over closed
    have noEnd := passed.noEnd
    have ahead := passed.ahead
    rw [nothing, List.append_nil] at ahead
    rw [← ahead] at noEnd
    have specific := tokenStream_ending noEnd
    rw [← passed.ending, ending] at specific
    cases specific.2

open Grammar in
/-- A parse that succeeds has taken tokens from the front of the text and skipped none. Unless it
read a function, these are a statement and no statement begins with them and the next token, which
is the end of the text exactly if the text is a single statement. -/
theorem parse_takes_statement (text : List Char) (node : Node) (rest : Stream Lexer)
    (read : (tokenStream text).parse = (.ok node, rest)) :
    ∃ taken, (Lexer.ofText text).tokens.1 = taken ++ rest.ahead ∧ Parser.NoEnd taken ∧
      ((∀ keyword declared, node ≠ .funcStatement keyword declared) →
        Statement taken ∧
        (∀ next, rest.next.1 = .ok next → ¬BeginsStatement (taken ++ [next])) ∧
        ((∃ eof, rest.next.1 = .ok eof ∧ eof.isEof = true) ↔
          ∃ whole eof, Statement whole ∧ eof.isEof = true ∧
            (Lexer.ofText text).tokens = (whole ++ [eof], none))) := by
  have done := (Parser.statement_runs (tokenStream text)).of_outcome_ok read
  have ahead := (Lexer.ahead_ofSource (Lexer.ofText text)).1
  obtain ⟨taken, passed⟩ := done.passed
  have opened := isOver_of_passed passed
  have split : (Lexer.ofText text).tokens.1 = taken ++ rest.ahead := ahead.symm.trans passed.ahead
  refine ⟨taken, split, passed.noEnd, fun plain => ?_⟩
  rcases done.1.leaves with ⟨⟨keyword, declared, equal⟩, -⟩ | ⟨taken', split', statement, ended⟩
  · exact absurd equal (plain keyword declared)
  -- Both descriptions are of the same tokens, those in front of what is left.
  obtain rfl := List.append_cancel_right (passed.ahead.symm.trans split')
  have stops : ∀ next, rest.next.1 = .ok next → ¬BeginsStatement (taken ++ [next]) := by
    intro next comes
    obtain ⟨later, shown⟩ := (Lookahead.next_eq_ok_iff opened).mp comes
    exact ended next later shown
  refine ⟨statement, stops, ?_, ?_⟩
  · rintro ⟨eof, comes, isEof⟩
    obtain ⟨later, shown⟩ := (Lookahead.next_eq_ok_iff opened).mp comes
    rw [shown] at split
    obtain ⟨rfl, finished⟩ := (Lexer.ofText text).tokens_eof (Prod.ext split rfl) isEof
    exact ⟨taken, eof, statement, isEof, Prod.ext split finished⟩
  · rintro ⟨whole, eof, statement', isEof, listed⟩
    rw [listed] at split
    have counted : eof ∉ taken := fun member => by
      rw [passed.noEnd eof member] at isEof
      cases isEof
    cases left : rest.ahead with
    | nil =>
      rw [left, List.append_nil] at split
      exact absurd (split ▸ List.mem_append_right whole (List.mem_singleton_self eof)) counted
    | cons next later =>
      rw [left] at split
      -- The parse took the whole statement, or the end of the text too, or less than all of it.
      rcases front_cases rfl split with rfl | beyond | early
      · cases List.append_cancel_left split
        exact ⟨eof, (Lookahead.next_eq_ok_iff opened).mpr ⟨[], left⟩, isEof⟩
      · exact absurd (beyond.subset (by simp)) counted
      · exact absurd ⟨whole, statement', early⟩ (ended next later left)

/-- A `let` is taken with its semicolon and all tokens in it, and the number behind it is left. -/
theorem parse_takes_statement_let :
    let text := "let x = !a || (b + 2) < 3; 4".toList
    ∃ node rest taken, (tokenStream text).parse = (.ok node, rest) ∧
      (∀ keyword declared, node ≠ .funcStatement keyword declared) ∧
      (Lexer.ofText text).tokens.1 = taken ++ rest.ahead ∧ Grammar.Statement taken ∧
      ¬∃ eof, rest.next.1 = .ok eof ∧ eof.isEof = true := by
  intro text
  let outcome := (tokenStream text).parse
  have succeeds : outcome.1.isOk = true := by decide +kernel
  have left : outcome.2.next.1.toOption.map Token.isEof = some false := by decide +kernel
  have isLet : outcome.1.toOption.map Node.label = some "LetStatementNode" := by decide +kernel
  obtain ⟨node, built⟩ := Parser.exists_of_isOk succeeds
  have plain : ∀ keyword declared, node ≠ .funcStatement keyword declared := by
    rintro keyword declared rfl
    rw [built] at isLet
    exact absurd isLet (by simp [Except.toOption, Node.label])
  obtain ⟨taken, split, -, whole⟩ := parse_takes_statement text node outcome.2 (Prod.ext built rfl)
  refine ⟨node, outcome.2, taken, Prod.ext built rfl, plain, split, (whole plain).1, ?_⟩
  rintro ⟨eof, comes, ended⟩
  rw [comes, Except.toOption, Option.map_some, ended] at left
  cases left

/-- A parse can leave more than the end of a text: of two numbers it takes the first one only. -/
theorem parse_leaves_second_number :
    let text := "1 2".toList
    ¬∀ node rest, (tokenStream text).parse = (.ok node, rest) →
      ∃ token, rest.next.1 = .ok token ∧ token.isEof = true := by
  intro text claimed
  let outcome := (tokenStream text).parse
  have succeeds : outcome.1.isOk = true := by decide +kernel
  have left : outcome.2.next.1.toOption.map Token.isEof = some false := by decide +kernel
  obtain ⟨node, built⟩ := Parser.exists_of_isOk succeeds
  obtain ⟨token, comes, ended⟩ := claimed node outcome.2 (Prod.ext built rfl)
  rw [comes, Except.toOption, Option.map_some, ended] at left
  cases left

end Bashling
