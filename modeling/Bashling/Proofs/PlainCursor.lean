import Bashling.Source.Layers

/-!
# Layers of lookahead behave as one plain cursor

A layer of lookahead may hold an item that the source below has already handed out, and every layer
of a stack may hold one of its own. A reader of the outermost layer cannot tell. Whatever it calls
and in whatever order, it is told what a plain cursor would tell it: a list and one place in it,
which taking an item moves on and nothing else does.

Each call is described by the items that are left (`left`), those held by the layers first and those
of the list behind them. `ask_plain` is the square for one call, between any state of the layers and
the place in the list where these items begin. The answers to a sequence of calls follow from it.
-/

namespace Bashling

/-- What a reader can call. -/
inductive Call where
  | next
  | peek
  | isOver
  deriving DecidableEq, Repr

/-- What a call tells the reader. -/
inductive Answer (α : Type) where
  | taken (outcome : Except Failure α)
  | seen (outcome : Except Failure α)
  | ended (yes : Bool)

namespace Answer

variable {α : Type}

def isTaken : Answer α → Bool
  | .taken _ => true
  | _ => false

def isFailed : Answer α → Bool
  | .taken (.error _) | .seen (.error _) => true
  | _ => false

end Answer

namespace Call

variable {α σ τ : Type}

/-- The answers to calls one after the other, where `ask` is the effect of one call on a state. -/
def answers (ask : σ → Call → Answer α × σ) (s : σ) : List Call → List (Answer α)
  | [] => []
  | call :: calls => (ask s call).1 :: answers ask (ask s call).2 calls

/-- The state after calls one after the other. -/
def stateAfter (ask : σ → Call → Answer α × σ) (s : σ) (calls : List Call) : σ :=
  calls.foldl (fun s call => (ask s call).2) s

variable {ask : σ → Call → Answer α × σ}

private theorem length_answers (s : σ) (calls : List Call) :
    (answers ask s calls).length = calls.length := by
  induction calls generalizing s with
  | nil => rfl
  | cons call calls ih => simp [answers, ih]

private theorem answers_append (s : σ) (before later : List Call) :
    answers ask s (before ++ later) =
      answers ask s before ++ answers ask (stateAfter ask s before) later := by
  induction before generalizing s with
  | nil => rfl
  | cons call before ih => simp [answers, stateAfter, ih]

/-- States that give the same answer to every call and stay related give the same answers. -/
private theorem answers_eq_of_square {ask' : τ → Call → Answer α × τ} {related : σ → τ → Prop}
    (square : ∀ s t call, related s t →
      (ask s call).1 = (ask' t call).1 ∧ related (ask s call).2 (ask' t call).2)
    {s : σ} {t : τ} (calls : List Call) (initial : related s t) :
    answers ask s calls = answers ask' t calls := by
  induction calls generalizing s t with
  | nil => rfl
  | cons call calls ih =>
    obtain ⟨same, after⟩ := square s t call initial
    rw [answers, answers, same, ih after]

/-! ### The plain cursor -/

/-- The answer to a call at a place in a list, and the place after the call. -/
def plain (items : List α) (place : Nat) : Call → Answer α × Nat
  | .next =>
    match items[place]? with
    | some item => (.taken (.ok item), place + 1)
    | none => (.taken (.error .nothingToTake), place)
  | .peek =>
    match items[place]? with
    | some item => (.seen (.ok item), place)
    | none => (.seen (.error .nothingToPeek), place)
  | .isOver => (.ended (place == items.length), place)

/-- Only taking an item moves the place. -/
private theorem plain_of_ne_next (items : List α) (place : Nat) {call : Call}
    (other : call ≠ .next) : (plain items place call).2 = place := by
  cases call with
  | next => exact absurd rfl other
  | peek =>
    simp only [plain]
    split <;> rfl
  | isOver => rfl

/-- A call that fails moves nothing. -/
private theorem plain_of_failed (items : List α) (place : Nat) (call : Call)
    (failed : (plain items place call).1.isFailed = true) :
    (plain items place call).2 = place := by
  cases call with
  | next =>
    simp only [plain] at failed ⊢
    split at failed
    · cases failed
    · rfl
  | peek | isOver => exact plain_of_ne_next items place (by decide)

private theorem isTaken_plain (items : List α) (place : Nat) (call : Call) :
    (plain items place call).1.isTaken = decide (call = .next) := by
  cases call with
  | next | peek =>
    simp only [plain]
    split <;> rfl
  | isOver => rfl

/-- The items that are taken do not depend on the calls in between that take none. -/
private theorem filter_plain_answers (items : List α) (place : Nat) (calls : List Call) :
    (answers (plain items) place calls).filter Answer.isTaken =
      answers (plain items) place (calls.filter (· = .next)) := by
  induction calls generalizing place with
  | nil => rfl
  | cons call calls ih =>
    by_cases taking : call = .next
    · simp [answers, isTaken_plain, taking, ih]
    · simp [answers, isTaken_plain, taking, ih, plain_of_ne_next items place taking]

/-- Without a call that fails, the other calls are answered as they are with it. -/
private theorem plain_answers_without (items : List α) (place : Nat) (before : List Call)
    (call : Call) (later : List Call) {answer : Answer α}
    (met : (answers (plain items) place (before ++ call :: later))[before.length]? = some answer)
    (failed : answer.isFailed = true) :
    answers (plain items) place (before ++ later) =
      (answers (plain items) place (before ++ call :: later)).eraseIdx before.length := by
  have reached : (answers (plain items) place before).length = before.length :=
    length_answers place before
  -- The answer in question is the first one behind those to the calls before.
  rw [answers_append, answers, List.getElem?_append_right (Nat.le_of_eq reached), reached,
    Nat.sub_self, List.getElem?_cons_zero, Option.some.injEq] at met
  subst met
  rw [answers_append, answers_append, answers, plain_of_failed _ _ _ failed,
    List.eraseIdx_append_of_length_le (Nat.le_of_eq reached), reached, Nat.sub_self,
    List.eraseIdx_cons_zero]

end Call

/-- The effect of a call on a lookahead. -/
def Lookahead.ask {σ α : Type} [Source σ α] (s : Lookahead σ α) : Call → Answer α × Lookahead σ α
  | .next => (.taken s.next.1, s.next.2)
  | .peek => (.seen s.peek.1, s.peek.2)
  | .isOver => (.ended s.isOver, s)

namespace Layers

variable {α : Type} {depth : Nat}

/-! ### What is left below some layers -/

/-- The items that the layers hold or have not asked for yet, in the order of handing them out. -/
def left : {depth : Nat} → Layers α depth → List α
  | 0, s => Cursor.rest s
  | _ + 1, s => (Lookahead.held s).toList ++ left (Lookahead.source s)

private theorem left_ofList (items : List α) (depth : Nat) : (ofList items depth).left = items := by
  induction depth with
  | zero => rfl
  | succ depth ih => exact ih

/-- Taking an item gives the first one that is left, whichever layer holds it. -/
private theorem next_of_cons {s : Layers α depth} {item : α} {later : List α}
    (first : s.left = item :: later) : s.next.1 = .ok item ∧ s.next.2.left = later := by
  induction depth with
  | zero =>
    obtain ⟨taken, rest⟩ := s
    obtain rfl : rest = item :: later := first
    exact ⟨rfl, rfl⟩
  | succ depth ih =>
    obtain ⟨source, held⟩ := s
    cases held with
    | some kept =>
      obtain ⟨rfl, rfl⟩ : kept = item ∧ left source = later := by simpa [left] using first
      exact ⟨rfl, rfl⟩
    | none =>
      -- A layer that holds nothing passes the call on to the one below.
      exact ih first

private theorem next_of_nil {s : Layers α depth} (nothing : s.left = []) :
    s.next.1 = .error .nothingToTake ∧ s.next.2.left = [] := by
  induction depth with
  | zero =>
    obtain ⟨taken, rest⟩ := s
    obtain rfl : rest = [] := nothing
    exact ⟨rfl, rfl⟩
  | succ depth ih =>
    obtain ⟨source, held⟩ := s
    cases held with
    | some kept => simp [left] at nothing
    | none => exact ih nothing

private theorem isOver_eq_isEmpty (s : Layers α depth) : s.isOver = s.left.isEmpty := by
  induction depth with
  | zero => rfl
  | succ depth ih =>
    obtain ⟨source, held⟩ := s
    cases held with
    | some kept => rfl
    | none => exact ih source

/-- Looking ahead shows the first item that is left. The layer holds it from then on, if it did not
before, and so it is still left. -/
private theorem peek_of_cons {s : Layers α (depth + 1)} {item : α} {later : List α}
    (first : s.left = item :: later) : s.peek.1 = .ok item ∧ s.peek.2.left = s.left := by
  obtain ⟨source, held⟩ := s
  cases held with
  | some kept =>
    obtain ⟨rfl, rfl⟩ : kept = item ∧ left source = later := by simpa [left] using first
    exact ⟨rfl, rfl⟩
  | none =>
    -- The item comes from below, and is held from here on.
    have opened : source.isOver = false := by
      rw [isOver_eq_isEmpty, show left source = item :: later from first]
      rfl
    obtain ⟨given, after⟩ := next_of_cons (s := source) first
    have step : Source.next source = (.ok item, source.next.2) := Prod.ext given rfl
    have seen : peek (⟨source, none⟩ : Lookahead (Layers α depth) α) =
        (.ok item, ⟨source.next.2, some item⟩) := by
      simp only [peek, Lookahead.peek, step]
      rw [if_neg (by simpa [isOver] using opened)]
      rfl
    rw [seen]
    exact ⟨rfl, by rw [first]; exact congrArg (item :: ·) after⟩

private theorem peek_of_nil {s : Layers α (depth + 1)} (nothing : s.left = []) :
    s.peek = (.error .nothingToPeek, s) := by
  obtain ⟨source, held⟩ := s
  cases held with
  | some kept => simp [left] at nothing
  | none =>
    have closed : source.isOver = true := by
      rw [isOver_eq_isEmpty, show left source = [] from nothing]
      rfl
    exact if_pos closed

/-! ### Calls on the outermost layer -/

/-- The effect of a call on the outermost one of some layers. -/
def ask (s : Layers α (depth + 1)) : Call → Answer α × Layers α (depth + 1) :=
  Lookahead.ask (σ := Layers α depth) s

private theorem ask_next (s : Layers α (depth + 1)) :
    s.ask .next = (.taken s.next.1, s.next.2) := rfl

private theorem ask_peek (s : Layers α (depth + 1)) :
    s.ask .peek = (.seen s.peek.1, s.peek.2) := rfl

private theorem ask_isOver (s : Layers α (depth + 1)) : s.ask .isOver = (.ended s.isOver, s) := rfl

/-- The items that are left are those of a list from a place on. -/
structure LeftFrom (items : List α) (s : Layers α depth) (place : Nat) : Prop where
  left : s.left = items.drop place
  within : place ≤ items.length

/-- One call: the layers and the plain cursor give the same answer, and what is left begins at the
place of the cursor again. -/
theorem ask_plain {items : List α} {s : Layers α (depth + 1)} {place : Nat} (call : Call)
    (here : LeftFrom items s place) :
    (s.ask call).1 = (Call.plain items place call).1 ∧
      LeftFrom items (s.ask call).2 (Call.plain items place call).2 := by
  obtain ⟨left, within⟩ := here
  by_cases inside : place < items.length
  · -- The item at the place is the first one that is left.
    have first : s.left = items[place] :: items.drop (place + 1) := by
      rw [left, List.drop_eq_getElem_cons inside]
    cases call with
    | next =>
      obtain ⟨given, after⟩ := next_of_cons first
      simp only [ask_next, Call.plain, List.getElem?_eq_getElem inside]
      exact ⟨congrArg Answer.taken given, after, inside⟩
    | peek =>
      obtain ⟨given, after⟩ := peek_of_cons first
      simp only [ask_peek, Call.plain, List.getElem?_eq_getElem inside]
      exact ⟨congrArg Answer.seen given, after.trans left, within⟩
    | isOver =>
      refine ⟨?_, left, within⟩
      simp only [ask_isOver, Call.plain, isOver_eq_isEmpty, first, List.isEmpty_cons,
        beq_false_of_ne (Nat.ne_of_lt inside)]
  · -- The place is the end of the list, and the three calls tell so in three ways.
    obtain rfl : place = items.length := by omega
    have nothing : s.left = [] := by rw [left, List.drop_length]
    have beyond : items[items.length]? = none := List.getElem?_eq_none (Nat.le_refl _)
    cases call with
    | next =>
      obtain ⟨given, after⟩ := next_of_nil nothing
      simp only [ask_next, Call.plain, beyond]
      exact ⟨congrArg Answer.taken given, after.trans List.drop_length.symm, within⟩
    | peek =>
      simp only [ask_peek, Call.plain, beyond, peek_of_nil nothing]
      exact ⟨trivial, left, within⟩
    | isOver =>
      refine ⟨?_, left, within⟩
      simp [ask_isOver, Call.plain, isOver_eq_isEmpty, nothing]

private theorem answers_plain (items : List α) (depth : Nat) (calls : List Call) :
    Call.answers ask (ofList items (depth + 1)) calls =
      Call.answers (Call.plain items) 0 calls := by
  refine Call.answers_eq_of_square (fun s place call => ask_plain call) calls ?_
  exact ⟨left_ofList items (depth + 1), Nat.zero_le _⟩

/-- However many layers of lookahead stand around a list, and whatever is called on the outermost
one, the answers are those of a plain cursor. A call that fails could as well be left out, and
leaving out all calls that take nothing does not change what is taken. -/
theorem layers_refine_cursor (items : List α) (depth : Nat) (calls : List Call) :
    let answers := Call.answers ask (ofList items (depth + 1))
    answers calls = Call.answers (Call.plain items) 0 calls ∧
      (∀ before call later answer, calls = before ++ call :: later →
        (answers calls)[before.length]? = some answer → answer.isFailed = true →
        answers (before ++ later) = (answers calls).eraseIdx before.length) ∧
      (answers calls).filter Answer.isTaken = answers (calls.filter (· = .next)) := by
  intro answers
  have refined : ∀ calls, answers calls = Call.answers (Call.plain items) 0 calls :=
    answers_plain items depth
  refine ⟨refined calls, ?_, ?_⟩
  · rintro before call later answer rfl met failed
    rw [refined] at met
    rw [refined, refined]
    exact Call.plain_answers_without items 0 before call later met failed
  · rw [refined, refined]
    exact Call.filter_plain_answers items 0 calls

/-- Under two layers, looking beyond the last item fails in its own words, and the calls behind it
are answered as if it had not been made. -/
theorem layers_refine_cursor_beyond_end :
    let answers := Call.answers ask (ofList ['a'] 2)
    let calls := [Call.peek, .next, .peek, .next, .isOver]
    answers calls =
        [.seen (.ok 'a'), .taken (.ok 'a'), .seen (.error .nothingToPeek),
          .taken (.error .nothingToTake), .ended true] ∧
      answers [.peek, .next, .next, .isOver] =
        [.seen (.ok 'a'), .taken (.ok 'a'), .taken (.error .nothingToTake), .ended true] := by
  intro answers calls
  obtain ⟨refined, skipped, -⟩ := layers_refine_cursor ['a'] 1 calls
  refine ⟨refined, ?_⟩
  have without := skipped [.peek, .next] .peek [.next, .isOver] (.seen (.error .nothingToPeek)) rfl
    (by rw [refined]; rfl) rfl
  rw [refined] at without
  exact without

end Layers
end Bashling
