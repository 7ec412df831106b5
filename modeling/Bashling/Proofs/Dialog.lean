import Bashling.Proofs.PlainCursor
import Bashling.Token

/-!
# Dialogs with a lookahead

A reader makes calls on a lookahead, and each call is answered. A dialog is told by its answers,
which also say what was called, and leads from one lookahead to another. Over a list of items it can
be followed how many items have been pulled from the list: those that the reader has taken, and one
more if the lookahead holds it (`Dialog.between`). Another list that starts with the items that were
pulled answers in the same way, as long as no call comes to the end of the list (`Dialog.transfer`).
-/

namespace Bashling

namespace Answer

variable {α : Type}

/-- The item that a call has taken. -/
def taken? : Answer α → Option α
  | .taken (.ok item) => some item
  | _ => none

/-- Whether a call has shown or taken an item. -/
def isOk : Answer α → Bool
  | .taken (.ok _) | .seen (.ok _) => true
  | _ => false

end Answer

/-- The items taken in the course of a dialog. -/
def takenIn {α : Type} (script : List (Answer α)) : List α :=
  script.filterMap Answer.taken?

@[simp] theorem takenIn_append {α : Type} (before later : List (Answer α)) :
    takenIn (before ++ later) = takenIn before ++ takenIn later :=
  List.filterMap_append

private theorem takenIn_cons {α : Type} (answer : Answer α) (later : List (Answer α)) :
    takenIn (answer :: later) = answer.taken?.toList ++ takenIn later := by
  cases found : answer.taken? with
  | none => simp [takenIn, found]
  | some item => simp [takenIn, found]

namespace Lookahead

variable {σ α : Type} [Source σ α]

/-- Calls with these answers lead from one lookahead to the other. -/
inductive Dialog : Lookahead σ α → List (Answer α) → Lookahead σ α → Prop where
  | nil {s} : Dialog s [] s
  | cons {s script t} (call : Call) (later : Dialog (s.ask call).2 script t) :
      Dialog s ((s.ask call).1 :: script) t

variable {s mid t : Lookahead σ α} {before later script : List (Answer α)}

theorem Dialog.append (first : Dialog s before mid) (second : Dialog mid later t) :
    Dialog s (before ++ later) t := by
  induction first with
  | nil => exact second
  | cons call _ ih => exact .cons call (ih second)

theorem Dialog.of_append (dialog : Dialog s (before ++ later) t) :
    ∃ mid, Dialog s before mid ∧ Dialog mid later t := by
  induction before generalizing s with
  | nil => exact ⟨s, .nil, dialog⟩
  | cons answer before ih =>
    cases dialog with
    | cons call rest =>
      obtain ⟨mid, front, back⟩ := ih rest
      exact ⟨mid, .cons call front, back⟩

theorem dialog_peek {shown : Except Failure α} (seen : s.peek = (shown, t)) :
    Dialog s [.seen shown] t := by
  have call : s.ask .peek = (.seen shown, t) := by rw [ask, seen]
  have dialog : Dialog s [(s.ask .peek).1] (s.ask .peek).2 := .cons .peek .nil
  rwa [call] at dialog

theorem dialog_next {given : Except Failure α} (taken : s.next = (given, t)) :
    Dialog s [.taken given] t := by
  have call : s.ask .next = (.taken given, t) := by rw [ask, taken]
  have dialog : Dialog s [(s.ask .next).1] (s.ask .next).2 := .cons .next .nil
  rwa [call] at dialog

theorem Dialog.peek_eq {shown : Except Failure α} (dialog : Dialog s [.seen shown] t) :
    s.peek = (shown, t) := by
  generalize told : [Answer.seen shown] = script at dialog
  cases dialog with
  | nil => cases told
  | cons call later =>
    obtain ⟨answer, rfl⟩ := List.cons.inj told
    cases later
    cases call with
    | peek => exact Prod.ext (Answer.seen.inj answer).symm rfl
    | next | isOver => cases answer

theorem Dialog.next_eq {given : Except Failure α} (dialog : Dialog s [.taken given] t) :
    s.next = (given, t) := by
  generalize told : [Answer.taken given] = script at dialog
  cases dialog with
  | nil => cases told
  | cons call later =>
    obtain ⟨answer, rfl⟩ := List.cons.inj told
    cases later
    cases call with
    | next => exact Prod.ext (Answer.taken.inj answer).symm rfl
    | peek | isOver => cases answer

end Lookahead

/-! ### Lists of items -/

namespace Lookahead

variable {α : Type} {s mid t s' : Lookahead (Cursor α) α} {items items' : List α}
  {script : List (Answer α)}

/-- What a call does to a lookahead on a list: it changes nothing, or lets go of the item that is
held, or pulls an item from the list and takes or holds it. -/
inductive Asked : Lookahead (Cursor α) α → Answer α → Lookahead (Cursor α) α → Prop where
  | kept {s answer} (nothing : answer.taken? = none) : Asked s answer s
  | released {source item} : Asked ⟨source, some item⟩ (.taken (.ok item)) ⟨source, none⟩
  | pulled {taken item rest} :
      Asked ⟨⟨taken, item :: rest⟩, none⟩ (.taken (.ok item)) ⟨⟨taken + 1, rest⟩, none⟩
  | held {taken item rest} :
      Asked ⟨⟨taken, item :: rest⟩, none⟩ (.seen (.ok item)) ⟨⟨taken + 1, rest⟩, some item⟩

theorem asked (s : Lookahead (Cursor α) α) (call : Call) :
    Asked s (s.ask call).1 (s.ask call).2 := by
  obtain ⟨⟨taken, rest⟩, held⟩ := s
  cases call with
  | isOver => exact .kept rfl
  | next =>
    cases held with
    | some item => exact .released
    | none =>
      cases rest with
      | nil => exact .kept rfl
      | cons item rest => exact .pulled
  | peek =>
    cases held with
    | some item => exact .kept rfl
    | none =>
      cases rest with
      | nil => exact .kept rfl
      | cons item rest => exact .held

/-- Some items lie between two states of a lookahead on one list. -/
structure Between (s : Lookahead (Cursor α) α) (items : List α) (t : Lookahead (Cursor α) α) :
    Prop where
  left : s.held.toList ++ s.source.rest = items ++ (t.held.toList ++ t.source.rest)
  pulled : s.source.taken + items.length + t.held.toList.length =
    t.source.taken + s.held.toList.length

theorem Between.trans (first : Between s items mid) (second : Between mid items' t) :
    Between s (items ++ items') t := by
  constructor
  · rw [first.left, second.left, List.append_assoc]
  · have := first.pulled
    have := second.pulled
    simp only [List.length_append]
    omega

/-- A call passes the item that it takes, and no item else. -/
theorem Asked.between {answer : Answer α} (asked : Asked s answer t) :
    Between s answer.taken?.toList t := by
  cases asked with
  | kept nothing => constructor <;> simp [nothing]
  | released | pulled | held => constructor <;> simp [Answer.taken?]

theorem Dialog.between (dialog : Dialog s script t) : Between s (takenIn script) t := by
  induction dialog with
  | nil => exact ⟨rfl, rfl⟩
  | cons call _ ih =>
    rw [takenIn_cons]
    exact (asked _ call).between.trans ih

/-- A call pulls nothing while an item is held, and else at most one item. -/
theorem Asked.pulled_le {answer : Answer α} (asked : Asked s answer t) :
    t.source.taken + s.held.toList.length ≤ s.source.taken + 1 := by
  cases asked with
  | kept nothing => cases s.held <;> simp
  | released | pulled | held => simp

private theorem Asked.rest_suffix {answer : Answer α} (asked : Asked s answer t) :
    t.source.rest <:+ s.source.rest := by
  cases asked with
  | kept | released => exact List.suffix_refl _
  | pulled | held => exact List.suffix_cons _ _

private theorem Dialog.rest_suffix (dialog : Dialog s script t) :
    t.source.rest <:+ s.source.rest := by
  induction dialog with
  | nil => exact List.suffix_refl _
  | cons call _ ih => exact ih.trans (asked _ call).rest_suffix

/-! ### From the start of a list -/

section Start

variable (dialog : Dialog (ofSource (Cursor.ofList items)) script t)
include dialog

/-- The items that have been pulled are those that were taken and the one that is held. -/
theorem Dialog.pulled_eq : t.source.taken = (takenIn script).length + t.held.toList.length := by
  have counted := dialog.between.pulled
  simp only [ofSource, Cursor.ofList, Option.toList_none, List.length_nil] at counted
  omega

theorem Dialog.items_eq : items = takenIn script ++ (t.held.toList ++ t.source.rest) :=
  dialog.between.left

theorem Dialog.pulled_le : t.source.taken ≤ (takenIn script).length + 1 := by
  rw [dialog.pulled_eq]
  cases t.held <;> simp

theorem Dialog.take_pulled : items.take t.source.taken ++ t.source.rest = items := by
  have split := dialog.items_eq
  rw [← List.append_assoc] at split
  have count : t.source.taken = (takenIn script ++ t.held.toList).length := by
    rw [List.length_append, dialog.pulled_eq]
  rw [count, split, List.take_left]

/-- One more call pulls no more than one item beyond those that were taken before it. -/
theorem Dialog.pulled_le_of_last {last : List (Answer α)} {t' : Lookahead (Cursor α) α}
    (back : Dialog t last t') (short : last.length ≤ 1) :
    t'.source.taken ≤ (takenIn script).length + 1 := by
  cases back with
  | nil => exact dialog.pulled_le
  | cons call later =>
    cases later with
    | nil =>
      have pulled := (asked t call).pulled_le
      have counted := dialog.pulled_eq
      omega
    | cons => simp at short

end Start

/-! ### The same answers on another list -/

/-- Two lookaheads in the same state on lists that go on in the same way, down to what is left. -/
structure Shared (left left' : List α) (s s' : Lookahead (Cursor α) α) : Prop where
  held : s'.held = s.held
  taken : s'.source.taken = s.source.taken
  rest : ∃ common, s.source.rest = common ++ left ∧ s'.source.rest = common ++ left'

/-- A call that gives an item is answered in the same way, if it does not reach what is left. -/
theorem Shared.ask {left left' : List α} (shared : Shared left left' s s') (call : Call)
    (fine : (s.ask call).1.isOk = true) (above : left <:+ (s.ask call).2.source.rest) :
    (s'.ask call).1 = (s.ask call).1 ∧ Shared left left' (s.ask call).2 (s'.ask call).2 := by
  obtain ⟨⟨taken, rest⟩, held⟩ := s
  obtain ⟨⟨taken', rest'⟩, held'⟩ := s'
  obtain ⟨rfl, rfl, common, rfl, rfl⟩ := shared
  cases call with
  | isOver => cases fine
  | next | peek =>
    cases held' with
    | some item => exact ⟨rfl, rfl, rfl, common, rfl, rfl⟩
    | none =>
      cases common with
      | cons item common => exact ⟨rfl, rfl, rfl, common, rfl, rfl⟩
      | nil =>
        cases left with
        | nil => cases fine
        | cons item later =>
          -- The item would come from what is left.
          exact absurd above.length_le (Nat.not_succ_le_self _)

theorem Dialog.transfer {left' : List α} (dialog : Dialog s script t)
    (fine : ∀ answer ∈ script, answer.isOk = true) (shared : Shared t.source.rest left' s s') :
    ∃ t', Dialog s' script t' ∧ Shared t.source.rest left' t t' := by
  induction dialog generalizing s' with
  | nil => exact ⟨s', .nil, shared⟩
  | cons call later ih =>
    obtain ⟨first, others⟩ := List.forall_mem_cons.mp fine
    obtain ⟨same, after⟩ := shared.ask call first later.rest_suffix
    obtain ⟨t', dialog', shared'⟩ := ih others after
    rw [← same]
    exact ⟨t', .cons call dialog', shared'⟩

/-- Where a call on a list fails, the list has come to its end. -/
private theorem exhausted_ask {failure : Failure} (call : Call)
    (failed : (s.ask call).1 = .seen (.error failure) ∨ (s.ask call).1 = .taken (.error failure)) :
    failure.family? = some .exhausted := by
  obtain ⟨⟨taken, rest⟩, held⟩ := s
  cases call with
  | isOver => simp [ask] at failed
  | next | peek =>
    cases held with
    | some item => simp [ask, next, peek] at failed
    | none =>
      cases rest with
      | nil =>
        simp [ask, next, peek, Source.next, Source.isOver, Cursor.next, Cursor.isOver] at failed
        rw [← failed]
        rfl
      | cons item rest =>
        simp [ask, next, peek, Source.next, Source.isOver, Cursor.next, Cursor.isOver] at failed

theorem Dialog.exhausted {failure : Failure} (dialog : Dialog s script t)
    (failed : .seen (.error failure) ∈ script ∨ .taken (.error failure) ∈ script) :
    failure.family? = some .exhausted := by
  induction dialog with
  | nil => simp at failed
  | cons call _ ih =>
    simp only [List.mem_cons] at failed
    rcases failed with (here | later) | (here | later)
    · exact exhausted_ask call (.inl here.symm)
    · exact ih (.inl later)
    · exact exhausted_ask call (.inr here.symm)
    · exact ih (.inr later)

end Lookahead
end Bashling
