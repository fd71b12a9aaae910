import LlmObs.Foundation.Outcome
import Mathlib.Data.List.Sort

/-!
Owns paging by key: a page is the largest rows below a cursor, and the cursor of the next
page is the key of its last row. Over rows that stay, following the cursors returns each
row once and ends; over rows that come and sink, it misses none of the first ones.
-/

namespace LlmObs.Foundation

/-! ### Following cursors -/

section Follow

variable {ε Row Cursor Encoded : Type}

/-- The rows of the pages from a cursor on, where page `index` is fetched when it is due;
`none` where they do not end within `fuel` pages. -/
def follow (fetch : Nat → Option Cursor → Except ε (List Row × Option Cursor)) :
    Nat → Nat → Option Cursor → Except ε (Option (List Row))
  | 0, _, _ => .ok none
  | fuel + 1, index, cursor => do
      let page ← fetch index cursor
      match page.2 with
      | none => return some page.1
      | some next => do
          let rest ← follow fetch fuel (index + 1) (some next)
          return rest.map (page.1 ++ ·)

theorem follow_last {fetch : Nat → Option Cursor → Except ε (List Row × Option Cursor)}
    {index : Nat} {cursor : Option Cursor} {items : List Row}
    (fetched : fetch index cursor = .ok (items, none)) (fuel : Nat) :
    follow fetch (fuel + 1) index cursor = .ok (some items) := by
  rw [follow, fetched, ok_bind]
  rfl

theorem follow_next {fetch : Nat → Option Cursor → Except ε (List Row × Option Cursor)}
    {index : Nat} {cursor : Option Cursor} {items : List Row} {next : Cursor}
    (fetched : fetch index cursor = .ok (items, some next)) (fuel : Nat) :
    follow fetch (fuel + 1) index cursor =
      (follow fetch fuel (index + 1) (some next)).map (Option.map (items ++ ·)) := by
  rw [follow, fetched, ok_bind]
  show (follow fetch fuel (index + 1) (some next) >>= fun rest =>
    .ok (rest.map (items ++ ·))) = _
  cases follow fetch fuel (index + 1) (some next) with
  | error failure => rfl
  | ok rest => rfl

/-- Pages that hand out encoded cursors are followed as the pages behind them. -/
theorem follow_encoded {fetch : Nat → Option Cursor → Except ε (List Row × Option Cursor)}
    {served : Nat → Option Encoded → Except ε (List Row × Option Encoded)}
    (encode : Cursor → Encoded)
    (serves : ∀ index cursor, served index (cursor.map encode) =
      (fetch index cursor).map fun page => (page.1, page.2.map encode))
    (fuel index : Nat) (cursor : Option Cursor) :
    follow served fuel index (cursor.map encode) = follow fetch fuel index cursor := by
  induction fuel generalizing index cursor with
  | zero => rfl
  | succ fuel inductionHypothesis =>
      have answer := serves index cursor
      cases fetched : fetch index cursor with
      | error failure =>
          rw [fetched] at answer
          rw [follow, follow, answer, fetched]
          rfl
      | ok page =>
          obtain ⟨items, next⟩ := page
          rw [fetched] at answer
          cases next with
          | none => rw [follow_last answer, follow_last fetched]
          | some bound =>
              rw [follow_next answer, follow_next fetched, ← inductionHypothesis]
              rfl

/-- Nothing fails where no page does. -/
theorem follow_isOk {fetch : Nat → Option Cursor → List Row × Option Cursor}
    (fuel index : Nat) (cursor : Option Cursor) :
    ∃ outcome, follow (fun index cursor => (.ok (fetch index cursor) : Except ε _)) fuel index
      cursor = .ok outcome := by
  induction fuel generalizing index cursor with
  | zero => exact ⟨none, rfl⟩
  | succ fuel inductionHypothesis =>
      cases fetched : fetch index cursor with
      | mk items after =>
          cases after with
          | none => exact ⟨_, follow_last (congrArg Except.ok fetched) fuel⟩
          | some next =>
              obtain ⟨outcome, ended⟩ := inductionHypothesis (index + 1) (some next)
              refine ⟨outcome.map (items ++ ·), ?_⟩
              rw [follow_next (congrArg Except.ok fetched), ended]
              rfl

/-- Pages that have ended stay the same with more of them allowed. -/
theorem follow_mono {fetch : Nat → Option Cursor → Except ε (List Row × Option Cursor)}
    {fuel more index : Nat} {cursor : Option Cursor} {rows : List Row} (enough : fuel ≤ more)
    (ended : follow fetch fuel index cursor = .ok (some rows)) :
    follow fetch more index cursor = .ok (some rows) := by
  induction fuel generalizing more index cursor rows with
  | zero => cases ended
  | succ fuel inductionHypothesis =>
      obtain ⟨spare, rfl⟩ : ∃ spare, more = spare + 1 := ⟨more - 1, by omega⟩
      cases fetched : fetch index cursor with
      | error failure =>
          rw [follow, fetched] at ended
          cases ended
      | ok page =>
          obtain ⟨items, after⟩ := page
          cases after with
          | none =>
              rw [follow_last fetched] at ended
              rw [follow_last fetched, ended]
          | some next =>
              rw [follow_next fetched] at ended
              obtain ⟨others, rest, joined⟩ := map_eq_ok.mp ended
              obtain ⟨further, found, appended⟩ := Option.map_eq_some_iff.mp joined
              rw [found] at rest
              rw [follow_next fetched, inductionHypothesis (by omega) rest, ← appended]
              rfl

theorem follow_unique {fetch : Nat → Option Cursor → Except ε (List Row × Option Cursor)}
    {fuel other index : Nat} {cursor : Option Cursor} {rows others : List Row}
    (ended : follow fetch fuel index cursor = .ok (some rows))
    (endedToo : follow fetch other index cursor = .ok (some others)) : rows = others := by
  have first := follow_mono (Nat.le_max_left fuel other) ended
  rw [follow_mono (Nat.le_max_right fuel other) endedToo] at first
  exact (Option.some.inj (Except.ok.inj first)).symm

end Follow

/-! ### Pages -/

namespace Keyset

variable {Row Key : Type} [LinearOrder Key] (key : Row → Key)

/-- `ORDER BY key DESC` -/
def descending (rows : List Row) : List Row :=
  rows.insertionSort fun left right => key right ≤ key left

/-- The keyset condition; there is none without a cursor. -/
def below (cursor : Option Key) (row : Row) : Bool :=
  match cursor with
  | none => true
  | some bound => decide (key row < bound)

/-- What is left to return from a cursor on. -/
def remaining (rows : List Row) (cursor : Option Key) : List Row :=
  descending key (rows.filter (below key cursor))

/-- One page, and the cursor of the next one where a further row was found. -/
def page (limit : Nat) (rows : List Row) (cursor : Option Key) : List Row × Option Key :=
  let found := (remaining key rows cursor).take (limit + 1)
  let items := found.take limit
  (items, if limit < found.length then items.getLast?.map key else none)

/-- No two rows have one key. -/
def Distinct (rows : List Row) : Prop :=
  rows.Pairwise fun left right => key left ≠ key right

variable {key} {limit : Nat} {rows : List Row} {cursor : Option Key}

theorem mem_remaining {row : Row} :
    row ∈ remaining key rows cursor ↔ row ∈ rows ∧ below key cursor row = true := by
  rw [remaining, descending, List.mem_insertionSort, List.mem_filter]

/-- Rows with keys of their own are in strictly descending order. -/
theorem remaining_strict (distinct : Distinct key rows) (cursor : Option Key) :
    (remaining key rows cursor).Pairwise fun earlier later => key later < key earlier := by
  have total : Std.Total fun left right : Row => key right ≤ key left :=
    ⟨fun left right => le_total (key right) (key left)⟩
  have transitive : IsTrans Row fun left right : Row => key right ≤ key left :=
    ⟨fun _ _ _ first second => le_trans second first⟩
  have sorted := List.pairwise_insertionSort (fun left right : Row => key right ≤ key left)
    (rows.filter (below key cursor))
  have permuted := List.perm_insertionSort (fun left right : Row => key right ≤ key left)
    (rows.filter (below key cursor))
  have symmetric : ∀ {left right : Row}, key left ≠ key right → key right ≠ key left :=
    fun different => different.symm
  have apart := (permuted.pairwise_iff symmetric).mpr (distinct.filter (below key cursor))
  exact (sorted.and apart).imp fun both => lt_of_le_of_ne both.1 both.2.symm

/-! ### One page -/

/-- The last page holds everything that remains. -/
theorem page_last (few : (remaining key rows cursor).length ≤ limit) :
    page key limit rows cursor = (remaining key rows cursor, none) := by
  have whole : (remaining key rows cursor).take (limit + 1) = remaining key rows cursor :=
    List.take_of_length_le (by omega)
  have items : (remaining key rows cursor).take limit = remaining key rows cursor :=
    List.take_of_length_le few
  have noMore : ¬ limit < (remaining key rows cursor).length := by omega
  simp only [page, whole, items, if_neg noMore]

/-- Any other page is full and names its last row. -/
theorem page_full (positive : 1 ≤ limit)
    (more : limit < (remaining key rows cursor).length) :
    ∃ last, ((remaining key rows cursor).take limit).getLast? = some last ∧
      page key limit rows cursor =
        ((remaining key rows cursor).take limit, some (key last)) := by
  have nonempty : (remaining key rows cursor).take limit ≠ [] := by
    intro empty
    have length := congrArg List.length empty
    rw [List.length_take, List.length_nil] at length
    omega
  have items : ((remaining key rows cursor).take (limit + 1)).take limit =
      (remaining key rows cursor).take limit := by
    rw [List.take_take, Nat.min_eq_left (Nat.le_succ limit)]
  have found : limit < ((remaining key rows cursor).take (limit + 1)).length := by
    rw [List.length_take]
    omega
  refine ⟨_, List.getLast?_eq_some_getLast nonempty, ?_⟩
  simp only [page, items, if_pos found, List.getLast?_eq_some_getLast nonempty, Option.map_some]

/-- The rows of a page come before all others that remain. -/
theorem lt_of_mem_drop {row last : Row} {rest : List Row}
    (strict : rest.Pairwise fun earlier later => key later < key earlier)
    (ends : (rest.take limit).getLast? = some last) (later : row ∈ rest.drop limit) :
    key row < key last := by
  have split := List.take_append_drop limit rest
  rw [← split, List.pairwise_append] at strict
  exact strict.2.2 last (List.mem_of_getLast? ends) row later

theorem le_of_mem_take {row last : Row} {rest : List Row}
    (strict : rest.Pairwise fun earlier later => key later < key earlier)
    (ends : (rest.take limit).getLast? = some last) (earlier : row ∈ rest.take limit) :
    key last ≤ key row := by
  obtain ⟨front, split⟩ := List.getLast?_eq_some_iff.mp ends
  have ordered := strict.sublist (List.take_sublist limit rest)
  rw [split, List.pairwise_append] at ordered
  rw [split, List.mem_append, List.mem_singleton] at earlier
  rcases earlier with before | same
  · exact le_of_lt (ordered.2.2 row before last (List.mem_singleton_self _))
  · exact le_of_eq (congrArg key same.symm)

theorem below_trans {row last : Row} (under : key row < key last)
    (lastBelow : below key cursor last = true) : below key cursor row = true := by
  cases cursor with
  | none => rfl
  | some bound =>
      simp only [below, decide_eq_true_eq] at lastBelow ⊢
      exact under.trans lastBelow

/-- After a full page there remains what it left out. -/
theorem remaining_next (distinct : Distinct key rows) {last : Row}
    (ends : ((remaining key rows cursor).take limit).getLast? = some last) :
    remaining key rows (some (key last)) = (remaining key rows cursor).drop limit := by
  have strict := remaining_strict distinct cursor
  have irreflexive : Std.Irrefl fun earlier later : Row => key later < key earlier :=
    ⟨fun _ => lt_irrefl _⟩
  have antisymmetric : Std.Antisymm fun earlier later : Row => key later < key earlier :=
    ⟨fun _ _ first second => absurd first (lt_asymm second)⟩
  have lastMember : last ∈ remaining key rows cursor :=
    List.mem_of_mem_take (List.mem_of_getLast? ends)
  apply List.Pairwise.eq_of_mem_iff (remaining_strict distinct _)
    (strict.sublist (List.drop_sublist _ _))
  intro row
  rw [mem_remaining]
  constructor
  · rintro ⟨stored, under⟩
    have lower : key row < key last := of_decide_eq_true under
    have member : row ∈ remaining key rows cursor :=
      mem_remaining.mpr ⟨stored, below_trans lower (mem_remaining.mp lastMember).2⟩
    rw [← List.take_append_drop limit (remaining key rows cursor), List.mem_append] at member
    rcases member with taken | left
    · exact absurd lower (not_lt.mpr (le_of_mem_take strict ends taken))
    · exact left
  · intro left
    have member := List.mem_of_mem_drop left
    exact ⟨(mem_remaining.mp member).1, decide_eq_true (lt_of_mem_drop strict ends left)⟩

/-! ### Rows that stay -/

/-- Induction on the pages: each leaves less, and what it leaves is returned after it. -/
theorem follow_remaining {ε : Type} {tables : Nat → List Row} (distinct : Distinct key rows)
    (positive : 1 ≤ limit) {fuel index : Nat}
    (steady : ∀ later, index ≤ later → tables later = rows)
    (enough : (remaining key rows cursor).length < fuel) :
    follow (fun index cursor => (.ok (page key limit (tables index) cursor) : Except ε _)) fuel
      index cursor = .ok (some (remaining key rows cursor)) := by
  induction fuel generalizing index cursor with
  | zero => omega
  | succ fuel inductionHypothesis =>
      have here := steady index (Nat.le_refl index)
      by_cases more : limit < (remaining key rows cursor).length
      · obtain ⟨last, ends, paged⟩ := page_full positive more
        have next := remaining_next distinct ends
        have less : (remaining key rows (some (key last))).length < fuel := by
          rw [next, List.length_drop]
          omega
        have others := inductionHypothesis
          (fun later after => steady later (Nat.le_of_succ_le after)) less
        rw [follow_next (by rw [here, paged]), others, next]
        simp only [Except.map, Option.map_some, List.take_append_drop]
      · exact follow_last (by rw [here, page_last (by omega)]) fuel

/-! ### Rows that come and sink -/

variable (key) in
/-- Every row of a table has a later version under the same name, no higher. -/
def Sinks {Name : Type} (name : Row → Name) (earlier later : List Row) : Prop :=
  ∀ row ∈ earlier, ∃ version ∈ later, name version = name row ∧ key version ≤ key row

variable {Name : Type} {name : Row → Name} {tables : Nat → List Row}

/-- Induction on the pages: a row below the cursor is on this page, or it is below the
next cursor too and stays there. -/
theorem follow_covers {ε : Type} (distinct : ∀ index, Distinct key (tables index))
    (sinks : ∀ index, Sinks key name (tables index) (tables (index + 1)))
    (positive : 1 ≤ limit) {fuel index : Nat} {returned : List Row}
    (ended : follow (fun index cursor => (.ok (page key limit (tables index) cursor) : Except ε _))
      fuel index cursor = .ok (some returned))
    {row : Row} (stored : row ∈ tables index) (under : below key cursor row = true) :
    ∃ version ∈ returned, name version = name row ∧ key version ≤ key row := by
  induction fuel generalizing index cursor returned row with
  | zero => cases ended
  | succ fuel inductionHypothesis =>
      have member := mem_remaining.mpr ⟨stored, under⟩
      have strict := remaining_strict (distinct index) cursor
      by_cases more : limit < (remaining key (tables index) cursor).length
      · obtain ⟨last, ends, paged⟩ := page_full positive more
        rw [follow_next (by rw [paged])] at ended
        obtain ⟨others, rest, joined⟩ := map_eq_ok.mp ended
        obtain ⟨further, found, appended⟩ := Option.map_eq_some_iff.mp joined
        rw [← appended]
        rw [← List.take_append_drop limit (remaining key (tables index) cursor),
          List.mem_append] at member
        rcases member with taken | left
        · exact ⟨row, List.mem_append_left _ taken, rfl, le_refl _⟩
        · have lower := lt_of_mem_drop strict ends left
          obtain ⟨version, versionStored, sameName, noHigher⟩ := sinks index row stored
          rw [found] at rest
          obtain ⟨got, isReturned, gotName, gotKey⟩ := inductionHypothesis rest versionStored
            (decide_eq_true (lt_of_le_of_lt noHigher lower))
          exact ⟨got, List.mem_append_right _ isReturned, gotName.trans sameName,
            gotKey.trans noHigher⟩
      · rw [follow_last (by rw [page_last (by omega)])] at ended
        rw [← Option.some.inj (Except.ok.inj ended)]
        exact ⟨row, member, rfl, le_refl _⟩

/-- Pages of tables that change finitely often come to an end. -/
theorem follow_ends {ε : Type} (distinct : ∀ index, Distinct key (tables index))
    (positive : 1 ≤ limit) (count : Nat) {index : Nat}
    (steady : ∀ later, index + count ≤ later → tables later = tables (index + count))
    (cursor : Option Key) :
    ∃ fuel returned,
      follow (fun index cursor => (.ok (page key limit (tables index) cursor) : Except ε _)) fuel
        index cursor = .ok (some returned) := by
  induction count generalizing index cursor with
  | zero =>
      exact ⟨_, _, follow_remaining (distinct index) positive steady (Nat.lt_succ_self _)⟩
  | succ count inductionHypothesis =>
      by_cases more : limit < (remaining key (tables index) cursor).length
      · obtain ⟨last, ends, paged⟩ := page_full positive more
        have shift : index + 1 + count = index + (count + 1) := by omega
        obtain ⟨fuel, returned, ended⟩ := @inductionHypothesis (index + 1)
          (by rw [shift]; exact steady) (some (key last))
        refine ⟨fuel + 1, (remaining key (tables index) cursor).take limit ++ returned, ?_⟩
        rw [follow_next (by rw [paged]), ended]
        rfl
      · exact ⟨1, _, follow_last (by rw [page_last (by omega)]) 0⟩

end Keyset

end LlmObs.Foundation
