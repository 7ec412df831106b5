import Bashling.SpellingTable

/-!
# What the table of spellings holds

A table is built by inserting one spelling after the other, each under its first character and
behind all that are at least as long. At any time it is what one gets by grouping the spellings that
have been inserted and sorting each of the groups (`foldlM_add?`). Grouping decides which first
characters there are and in which order (`firsts`). Sorting puts longer spellings in front of
shorter ones, and leaves those of one length as they were given (`Sorts`).
-/

namespace Bashling
namespace SpellingTable

/-! ### Sorting -/

/-- Some spellings in the order of their lengths, the longest first. Those of one length are in the
order in which they were given. -/
structure Sorts (given sorted : List (List Char)) : Prop where
  perm : sorted.Perm given
  descending : sorted.Pairwise fun first second => second.length ≤ first.length
  stable : ∀ n, sorted.filter (·.length = n) = given.filter (·.length = n)

private theorem perm_insertByLength (spelling : List Char) (sorted : List (List Char)) :
    (insertByLength spelling sorted).Perm (spelling :: sorted) := by
  induction sorted with
  | nil => exact .refl _
  | cons first rest ih =>
    rw [insertByLength]
    split
    · exact (ih.cons first).trans (.swap spelling first rest)
    · exact .refl _

private theorem descending_insertByLength (spelling : List Char) {sorted : List (List Char)}
    (descending : sorted.Pairwise fun first second => second.length ≤ first.length) :
    (insertByLength spelling sorted).Pairwise fun first second => second.length ≤ first.length := by
  induction sorted with
  | nil => exact List.pairwise_singleton _ _
  | cons first rest ih =>
    obtain ⟨bound, descending'⟩ := List.pairwise_cons.mp descending
    rw [insertByLength]
    split
    next shorter =>
      refine List.pairwise_cons.mpr ⟨fun other member => ?_, ih descending'⟩
      rcases List.mem_cons.mp ((perm_insertByLength spelling rest).subset member) with rfl | later
      · exact shorter
      · exact bound other later
    next longer =>
      refine List.pairwise_cons.mpr ⟨fun other member => ?_, descending⟩
      rcases List.mem_cons.mp member with rfl | later
      · omega
      · have := bound other later
        omega

/-- A spelling takes its place behind the others of its length, which keep their order. -/
private theorem filter_insertByLength (spelling : List Char) {sorted : List (List Char)}
    (descending : sorted.Pairwise fun first second => second.length ≤ first.length) (n : Nat) :
    (insertByLength spelling sorted).filter (·.length = n) =
      (sorted ++ [spelling]).filter (·.length = n) := by
  induction sorted with
  | nil => rfl
  | cons first rest ih =>
    obtain ⟨bound, descending'⟩ := List.pairwise_cons.mp descending
    rw [insertByLength]
    split
    next => simp only [List.cons_append, List.filter_cons, ih descending']
    next longer =>
      by_cases same : spelling.length = n
      · -- All that the spelling is put in front of are shorter, so it is the only one left.
        have others : (first :: rest).filter (·.length = n) = [] := by
          rw [List.filter_eq_nil_iff]
          intro other member
          have short : other.length ≤ first.length := by
            rcases List.mem_cons.mp member with rfl | later
            · exact Nat.le_refl _
            · exact bound other later
          rw [decide_eq_true_eq]
          omega
        rw [List.filter_append, List.filter_cons, others]
        simp [same]
      · simp [List.filter_cons, List.filter_append, same]

theorem Sorts.insertByLength {given sorted : List (List Char)} (sorts : Sorts given sorted)
    (spelling : List Char) :
    Sorts (given ++ [spelling]) (insertByLength spelling sorted) where
  perm := calc
    List.Perm _ (spelling :: sorted) := perm_insertByLength spelling sorted
    List.Perm _ (spelling :: given) := sorts.perm.cons spelling
    List.Perm _ (given ++ [spelling]) := (List.perm_append_singleton spelling given).symm
  descending := descending_insertByLength spelling sorts.descending
  stable n := by
    rw [filter_insertByLength spelling sorts.descending, List.filter_append, List.filter_append,
      sorts.stable]

/-- Spellings inserted one after the other. -/
def byLength (spellings : List (List Char)) : List (List Char) :=
  spellings.foldl (fun sorted spelling => insertByLength spelling sorted) []

private theorem byLength_concat (spellings : List (List Char)) (spelling : List Char) :
    byLength (spellings ++ [spelling]) = insertByLength spelling (byLength spellings) := by
  rw [byLength, List.foldl_append]
  rfl

theorem Sorts.foldl {given sorted : List (List Char)} (sorts : Sorts given sorted)
    (later : List (List Char)) :
    Sorts (given ++ later)
      (later.foldl (fun sorted spelling => SpellingTable.insertByLength spelling sorted)
        sorted) := by
  induction later generalizing given sorted with
  | nil =>
    rw [List.append_nil]
    exact sorts
  | cons spelling later ih =>
    have sorts' := ih (sorts.insertByLength spelling)
    rwa [List.append_assoc, List.singleton_append] at sorts'

private theorem sorts_byLength (spellings : List (List Char)) :
    Sorts spellings (byLength spellings) :=
  Sorts.foldl ⟨.refl [], .nil, fun _ => rfl⟩ spellings

/-! ### Grouping -/

/-- The first characters of some spellings, in the order in which they first appear. -/
def firsts (spellings : List (List Char)) : List Char :=
  (spellings.filterMap List.head?).eraseDups

/-- The spellings that start with a character. -/
def startingWith (initial : Char) (spellings : List (List Char)) : List (List Char) :=
  spellings.filter (·.head? = some initial)

/-- The spellings in groups, each of which is sorted. -/
def arranged (spellings : List (List Char)) : SpellingTable :=
  (firsts spellings).map fun initial => (initial, byLength (startingWith initial spellings))

private theorem mem_firsts {spellings : List (List Char)} {initial : Char} :
    initial ∈ firsts spellings ↔ ∃ spelling ∈ spellings, spelling.head? = some initial := by
  rw [firsts, List.mem_eraseDups, List.mem_filterMap]

private theorem insert_of_notMem {initial : Char} (spelling : List Char) {table : SpellingTable}
    (absent : initial ∉ table.map (·.1)) :
    insert initial spelling table = table ++ [(initial, [spelling])] := by
  induction table with
  | nil => rfl
  | cons entry rest ih =>
    rw [List.map_cons, List.mem_cons, not_or] at absent
    rw [insert, if_neg (Ne.symm absent.1), ih absent.2, List.cons_append]

private theorem insert_of_mem {initial : Char} (spelling : List Char) {keys : List Char}
    (member : initial ∈ keys) (distinct : keys.Nodup) (bucket : Char → List (List Char)) :
    insert initial spelling (keys.map fun c => (c, bucket c)) =
      keys.map fun c =>
        (c, if c = initial then insertByLength spelling (bucket c) else bucket c) := by
  induction keys with
  | nil => cases member
  | cons key keys ih =>
    obtain ⟨single, distinct'⟩ := List.nodup_cons.mp distinct
    rw [List.map_cons, List.map_cons, insert]
    split
    next same =>
      -- No other entry has this first character, so the rest stays as it is.
      subst same
      congr 1
      apply List.map_congr_left
      intro c later
      have other : c ≠ key := fun equal => single (equal ▸ later)
      rw [if_neg other]
    next other =>
      have later : initial ∈ keys := (List.mem_cons.mp member).resolve_left (Ne.symm other)
      rw [ih later distinct']

section Concat

variable {spelling : List Char} {initial : Char} (spellings : List (List Char))

private theorem firsts_concat (starts : spelling.head? = some initial) :
    firsts (spellings ++ [spelling]) =
      if initial ∈ firsts spellings then firsts spellings else firsts spellings ++ [initial] := by
  have heads : (spellings ++ [spelling]).filterMap List.head? =
      spellings.filterMap List.head? ++ [initial] := by
    simp [starts]
  rw [firsts, heads, List.eraseDups_append, ← firsts]
  split
  next member =>
    rw [firsts, List.mem_eraseDups] at member
    rw [List.removeAll, List.filter_cons_of_neg (by simpa using member)]
    exact List.append_nil _
  next absent =>
    rw [firsts, List.mem_eraseDups] at absent
    rw [List.removeAll, List.filter_cons_of_pos (by simpa using absent)]
    rfl

private theorem nodup_firsts_concat (starts : spelling.head? = some initial)
    (distinct : (firsts spellings).Nodup) :
    (firsts (spellings ++ [spelling])).Nodup := by
  rw [firsts_concat spellings starts]
  split
  · exact distinct
  next absent =>
    rw [(List.perm_append_singleton _ _).nodup_iff]
    exact List.nodup_cons.mpr ⟨absent, distinct⟩

private theorem byLength_startingWith_concat (starts : spelling.head? = some initial) (c : Char) :
    byLength (startingWith c (spellings ++ [spelling])) =
      if c = initial then insertByLength spelling (byLength (startingWith c spellings))
      else byLength (startingWith c spellings) := by
  rw [startingWith, List.filter_append]
  split
  next same =>
    rw [← byLength_concat, startingWith]
    simp [starts, same]
  next other =>
    simp [starts, Ne.symm other, startingWith]

private theorem insert_arranged (starts : spelling.head? = some initial)
    (distinct : (firsts spellings).Nodup) :
    insert initial spelling (arranged spellings) = arranged (spellings ++ [spelling]) := by
  by_cases known : initial ∈ firsts spellings
  · rw [arranged, insert_of_mem spelling known distinct, arranged, firsts_concat spellings starts,
      if_pos known]
    simp only [byLength_startingWith_concat spellings starts]
  · have absent : initial ∉ (arranged spellings).map (·.1) := by simpa [arranged] using known
    have none : startingWith initial spellings = [] := by
      rw [startingWith, List.filter_eq_nil_iff]
      intro other member starts'
      exact known (mem_firsts.mpr ⟨other, member, by simpa using starts'⟩)
    rw [insert_of_notMem spelling absent, arranged, arranged, firsts_concat spellings starts,
      if_neg known, List.map_append]
    congr 1
    · -- The groups that were there do not start with the new first character.
      apply List.map_congr_left
      intro c member
      have other : c ≠ initial := fun equal => known (equal ▸ member)
      rw [byLength_startingWith_concat spellings starts, if_neg other]
    · -- The new group has this spelling only.
      simp only [List.map_cons, List.map_nil, byLength_startingWith_concat spellings starts, none]
      rfl

end Concat

/-! ### Building -/

/-- A table with one more spelling, which must not be empty. -/
def add? (table : SpellingTable) (spelling : List Char) : Option SpellingTable :=
  spelling.head?.map (insert · spelling table)

/-- The induction is on the spellings that are still to come. Those that have been inserted are in
the table, grouped and sorted. -/
theorem foldlM_add? (done : List (List Char)) (distinct : (firsts done).Nodup)
    {spellings : List (List Char)} (filled : [] ∉ spellings) :
    spellings.foldlM add? (arranged done) = some (arranged (done ++ spellings)) := by
  induction spellings generalizing done with
  | nil =>
    rw [List.append_nil]
    rfl
  | cons spelling spellings ih =>
    rw [List.mem_cons, not_or] at filled
    obtain ⟨initial, rest, rfl⟩ := List.exists_cons_of_ne_nil (Ne.symm filled.1)
    have added : add? (arranged done) (initial :: rest) =
        some (arranged (done ++ [initial :: rest])) := by
      rw [← insert_arranged done rfl distinct]
      rfl
    rw [List.foldlM_cons, added, Option.bind_eq_bind, Option.bind_some,
      ih _ (nodup_firsts_concat done rfl distinct) filled.2, List.append_assoc,
      List.singleton_append]

private theorem foldlM_add?_of_mem {spellings : List (List Char)} (empty : [] ∈ spellings)
    (table : SpellingTable) : spellings.foldlM add? table = none := by
  induction spellings generalizing table with
  | nil => cases empty
  | cons spelling spellings ih =>
    rw [List.foldlM_cons]
    rcases List.mem_cons.mp empty with rfl | later
    · rfl
    · cases add? table spelling with
      | none => rfl
      | some table' => exact ih later table'

private theorem build?_eq_arranged {spellings : List (List Char)} (filled : [] ∉ spellings) :
    build? spellings = some (arranged spellings) :=
  foldlM_add? [] .nil filled

/-- What a table tells about the spellings it was built from. -/
structure Arranges (table : SpellingTable) (spellings : List (List Char)) : Prop where
  keys : table.map (·.1) = (spellings.filterMap List.head?).eraseDups
  buckets : ∀ entry ∈ table, Sorts (spellings.filter (·.head? = some entry.1)) entry.2
  once : ∀ spelling ∈ spellings, ∃ entry ∈ table, entry.2.count spelling = 1 ∧
    ∀ other ∈ table, spelling ∈ other.2 → other = entry

private theorem mem_arranged {spellings : List (List Char)} {entry : Char × List (List Char)} :
    entry ∈ arranged spellings ↔
      entry.1 ∈ firsts spellings ∧ entry.2 = byLength (startingWith entry.1 spellings) := by
  obtain ⟨initial, bucket⟩ := entry
  simp only [arranged, List.mem_map, Prod.mk.injEq]
  constructor
  · rintro ⟨c, member, rfl, rfl⟩
    exact ⟨member, rfl⟩
  · rintro ⟨member, rfl⟩
    exact ⟨initial, member, rfl, rfl⟩

private theorem arranges_arranged {spellings : List (List Char)} (distinct : spellings.Nodup)
    (filled : [] ∉ spellings) : Arranges (arranged spellings) spellings where
  keys := by
    rw [arranged, List.map_map]
    exact List.map_id _
  buckets := by
    intro entry member
    rw [(mem_arranged.mp member).2]
    exact sorts_byLength _
  once := by
    intro spelling member
    have nonempty : spelling ≠ [] := fun empty => filled (empty ▸ member)
    obtain ⟨initial, rest, rfl⟩ := List.exists_cons_of_ne_nil nonempty
    let bucket := byLength (startingWith initial spellings)
    have listed : (initial, bucket) ∈ arranged spellings :=
      mem_arranged.mpr ⟨mem_firsts.mpr ⟨_, member, rfl⟩, rfl⟩
    refine ⟨(initial, bucket), listed, ?_, ?_⟩
    · rw [(sorts_byLength _).perm.count_eq, startingWith, List.count_filter (by simp),
        distinct.count, if_pos member]
    · intro other member' inside
      obtain ⟨-, sorted⟩ := mem_arranged.mp member'
      -- A spelling stands under its own first character only.
      rw [sorted, (sorts_byLength _).perm.mem_iff, startingWith, List.mem_filter] at inside
      have same : initial = other.1 := by simpa using inside.2
      exact Prod.ext same.symm (by rw [sorted, ← same])

/-- Distinct spellings have a table unless one of them is empty, and the table holds each of them
once: under its first character, behind those that are longer and behind those of its length that
were given before it. -/
theorem table_arranges_spellings (spellings : List (List Char)) (distinct : spellings.Nodup) :
    (build? spellings = none ↔ [] ∈ spellings) ∧
      ([] ∉ spellings → ∃ table, build? spellings = some table ∧ Arranges table spellings) := by
  refine ⟨⟨fun refused => ?_, fun empty => foldlM_add?_of_mem empty []⟩, fun filled => ?_⟩
  · by_cases empty : [] ∈ spellings
    · exact empty
    · rw [build?_eq_arranged empty] at refused
      cases refused
  · exact ⟨_, build?_eq_arranged filled, arranges_arranged distinct filled⟩

/-- Two first characters that alternate, with two spellings of one length under the first of
them. -/
theorem table_arranges_spellings_alternating :
    let spellings : List (List Char) := [['<'], ['*'], ['<', '='], ['*', '*'], ['<', '<']]
    spellings.Nodup ∧
      build? spellings =
        some [('<', [['<', '='], ['<', '<'], ['<']]), ('*', [['*', '*'], ['*']])] ∧
      (build? spellings = none ↔ [] ∈ spellings) ∧
      ([] ∉ spellings → ∃ table, build? spellings = some table ∧ Arranges table spellings) := by
  intro spellings
  have distinct : spellings.Nodup := by decide
  exact ⟨distinct, by decide, table_arranges_spellings spellings distinct⟩

end SpellingTable
end Bashling
