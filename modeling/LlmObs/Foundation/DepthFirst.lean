import Mathlib.Data.List.Basic
import Mathlib.Data.List.Infix
import Mathlib.Data.List.Nodup
import Mathlib.Data.List.Perm.Subperm

/-!
Owns depth-first placement: a recursive walk that places every item it meets for the first
time with the depth at which it was met, and goes on with the children of that item. Links
are arbitrary: keys may be shared, children may lead back, and a walk may be entered at any
item.
-/

namespace LlmObs.Foundation

universe u v

/-- Items known by a key, and the children that stand under a key. -/
structure DepthFirst (Item : Type u) (Key : Type v) where
  key : Item → Key
  children : Key → List Item

namespace DepthFirst

variable {Item : Type u} {Key : Type v}

/-- The keys that were met, and the items placed so far with their depths. -/
structure Progress (Item : Type u) (Key : Type v) where
  visited : List Key
  placed : List (Item × Nat)
deriving Repr

def Progress.start : Progress Item Key := ⟨[], []⟩

def place (search : DepthFirst Item Key) (item : Item) (depth : Nat)
    (progress : Progress Item Key) : Progress Item Key :=
  ⟨progress.visited ++ [search.key item], progress.placed ++ [(item, depth)]⟩

/-- Nothing that was visited or placed is taken back. -/
structure Progress.Extends (before after : Progress Item Key) : Prop where
  visited : before.visited ⊆ after.visited
  placed : before.placed ⊆ after.placed

theorem Progress.Extends.refl (progress : Progress Item Key) : progress.Extends progress :=
  ⟨fun _ member => member, fun _ member => member⟩

theorem Progress.Extends.trans {first second third : Progress Item Key}
    (left : first.Extends second) (right : second.Extends third) : first.Extends third :=
  ⟨fun _ member => right.visited (left.visited member),
    fun _ member => right.placed (left.placed member)⟩

theorem place_extends (search : DepthFirst Item Key) (item : Item) (depth : Nat)
    (progress : Progress Item Key) : progress.Extends (search.place item depth progress) :=
  ⟨fun _ member => List.mem_append_left _ member, fun _ member => List.mem_append_left _ member⟩

variable [DecidableEq Key]

/-- The recursive walk, cut off after `fuel` nested calls. -/
def visit (search : DepthFirst Item Key) :
    Nat → Item → Nat → Progress Item Key → Option (Progress Item Key)
  | 0, _, _, _ => none
  | fuel + 1, item, depth, progress =>
      if search.key item ∈ progress.visited then some progress
      else
        (search.children (search.key item)).foldlM
          (fun reached child => visit search fuel child (depth + 1) reached)
          (search.place item depth progress)

/-- The walk entered at each root in turn. -/
def visitRoots (search : DepthFirst Item Key) (fuel : Nat) (roots : List Item)
    (progress : Progress Item Key) : Option (Progress Item Key) :=
  roots.foldlM (fun reached root => search.visit fuel root 0 reached) progress

variable {search : DepthFirst Item Key}

/-- What the loop over a list keeps, where each round keeps it. -/
theorem foldlM_keeps {Place : Type u} {State : Type v} {round : State → Place → Option State}
    (Keeps : State → State → Prop) (same : ∀ state, Keeps state state)
    (compose : ∀ {first second third}, Keeps first second → Keeps second third →
      Keeps first third)
    {places : List Place}
    (each : ∀ place ∈ places, ∀ {before after}, round before place = some after →
      Keeps before after)
    {before after : State} (run : places.foldlM round before = some after) :
    Keeps before after := by
  induction places generalizing before with
  | nil =>
      rw [List.foldlM_nil] at run
      exact Option.some.inj run ▸ same before
  | cons place rest inductionHypothesis =>
      rw [List.foldlM_cons, Option.bind_eq_bind, Option.bind_eq_some_iff] at run
      obtain ⟨middle, first, others⟩ := run
      exact compose (each place (List.mem_cons_self ..) first)
        (inductionHypothesis (fun other member => each other (List.mem_cons_of_mem _ member))
          others)

/-! What one call leaves. -/

/-- A call either meets a key again and changes nothing, or places its item and goes on with
the children. -/
theorem visit_cases {fuel : Nat} {item : Item} {depth : Nat} {before after : Progress Item Key}
    (run : search.visit fuel item depth before = some after) :
    (search.key item ∈ before.visited ∧ after = before) ∨
      ∃ less, fuel = less + 1 ∧ search.key item ∉ before.visited ∧
        (search.children (search.key item)).foldlM
          (fun reached child => search.visit less child (depth + 1) reached)
          (search.place item depth before) = some after := by
  cases fuel with
  | zero => cases run
  | succ less =>
      rw [visit] at run
      split at run
      · rename_i met
        exact Or.inl ⟨met, (Option.some.inj run).symm⟩
      · rename_i fresh
        exact Or.inr ⟨less, rfl, fresh, run⟩

theorem visit_extends {fuel : Nat} {item : Item} {depth : Nat}
    {before after : Progress Item Key}
    (run : search.visit fuel item depth before = some after) : before.Extends after := by
  induction fuel generalizing item depth before after with
  | zero => cases run
  | succ less inductionHypothesis =>
      rcases visit_cases run with ⟨_, same⟩ | ⟨fuel, equal, _, children⟩
      · exact same ▸ Progress.Extends.refl before
      · obtain rfl : less = fuel := by omega
        have kept := foldlM_keeps Progress.Extends Progress.Extends.refl Progress.Extends.trans
          (fun child _ => inductionHypothesis) children
        exact (search.place_extends item depth before).trans kept

/-- The key of the item a call is about is visited when the call ends. -/
theorem key_mem_of_visit {fuel : Nat} {item : Item} {depth : Nat}
    {before after : Progress Item Key}
    (run : search.visit fuel item depth before = some after) :
    search.key item ∈ after.visited := by
  rcases visit_cases run with ⟨met, same⟩ | ⟨less, _, _, children⟩
  · exact same ▸ met
  · have kept := foldlM_keeps Progress.Extends Progress.Extends.refl Progress.Extends.trans
      (fun child _ => visit_extends) children
    exact kept.visited (List.mem_append_right _ (List.mem_singleton.mpr rfl))

/-- After a loop of calls every key it was about is visited. -/
theorem key_mem_of_foldlM {fuel depth : Nat} {items : List Item}
    {before after : Progress Item Key}
    (run : items.foldlM (fun reached item => search.visit fuel item depth reached) before =
      some after) {item : Item} (member : item ∈ items) : search.key item ∈ after.visited := by
  induction items generalizing before with
  | nil => cases member
  | cons head rest inductionHypothesis =>
      rw [List.foldlM_cons, Option.bind_eq_bind, Option.bind_eq_some_iff] at run
      obtain ⟨middle, first, others⟩ := run
      rcases List.mem_cons.mp member with here | later
      · have kept := foldlM_keeps Progress.Extends Progress.Extends.refl Progress.Extends.trans
          (fun child _ => visit_extends) others
        exact kept.visited (here ▸ key_mem_of_visit first)
      · exact inductionHypothesis others later

/-! The induction over a walk: what every placement keeps, the walk keeps. -/

section Invariant

variable (Inv : Progress Item Key → Prop) (Entry : Progress Item Key → Item → Nat → Prop)

theorem visit_invariant
    (placing : ∀ progress item depth, Inv progress → Entry progress item depth →
      search.key item ∉ progress.visited → Inv (search.place item depth progress))
    (entering : ∀ progress item depth child, Inv progress → (item, depth) ∈ progress.placed →
      child ∈ search.children (search.key item) → Entry progress child (depth + 1))
    {fuel : Nat} {item : Item} {depth : Nat} {before after : Progress Item Key}
    (run : search.visit fuel item depth before = some after)
    (entry : Entry before item depth) (holds : Inv before) : Inv after := by
  induction fuel generalizing item depth before after with
  | zero => cases run
  | succ less inductionHypothesis =>
      rcases visit_cases run with ⟨_, same⟩ | ⟨fuel, equal, fresh, children⟩
      · exact same ▸ holds
      · obtain rfl : less = fuel := by omega
        have placed : (item, depth) ∈ (search.place item depth before).placed :=
          List.mem_append_right _ (List.mem_singleton.mpr rfl)
        -- The loop over the children keeps the invariant as long as the item stays placed.
        have kept : ∀ {first second : Progress Item Key},
            first.Extends second ∧ ((item, depth) ∈ first.placed → Inv first → Inv second) →
            ∀ {third : Progress Item Key},
            second.Extends third ∧ ((item, depth) ∈ second.placed → Inv second → Inv third) →
              first.Extends third ∧ ((item, depth) ∈ first.placed → Inv first → Inv third) :=
          fun left _ right => ⟨left.1.trans right.1, fun member inv =>
            right.2 (left.1.placed member) (left.2 member inv)⟩
        have loop := foldlM_keeps
          (fun first second : Progress Item Key =>
            first.Extends second ∧ ((item, depth) ∈ first.placed → Inv first → Inv second))
          (fun _ => ⟨Progress.Extends.refl _, fun _ inv => inv⟩)
          (fun left right => kept left right)
          (fun child member {first second} call => ⟨visit_extends call, fun stands inv =>
            inductionHypothesis call (entering first item depth child inv stands member) inv⟩)
          children
        exact loop.2 placed (placing before item depth holds entry fresh)

end Invariant

/-! A walk that has returned owes nothing: what it placed has all its children visited. -/

omit [DecidableEq Key] in
/-- The children of an item are all visited. -/
def Closed (search : DepthFirst Item Key) (progress : Progress Item Key) (item : Item) : Prop :=
  ∀ child ∈ search.children (search.key item), search.key child ∈ progress.visited

def Settled (search : DepthFirst Item Key) (progress : Progress Item Key) : Prop :=
  ∀ entry ∈ progress.placed, search.Closed progress entry.1

omit [DecidableEq Key] in
theorem Closed.later {before after : Progress Item Key} {item : Item}
    (closed : search.Closed before item) (extends' : before.Extends after) :
    search.Closed after item :=
  fun child member => extends'.visited (closed child member)

/-- What a call places is closed when the call ends. -/
theorem closed_of_visit {fuel : Nat} {item : Item} {depth : Nat}
    {before after : Progress Item Key}
    (run : search.visit fuel item depth before = some after) :
    ∀ entry ∈ after.placed, entry ∈ before.placed ∨ search.Closed after entry.1 := by
  induction fuel generalizing item depth before after with
  | zero => cases run
  | succ less inductionHypothesis =>
      rcases visit_cases run with ⟨_, same⟩ | ⟨fuel, equal, _, children⟩
      · exact fun entry member => Or.inl (same ▸ member)
      · obtain rfl : less = fuel := by omega
        have loop := foldlM_keeps
          (fun first second : Progress Item Key => first.Extends second ∧
            ∀ entry ∈ second.placed, entry ∈ first.placed ∨ search.Closed second entry.1)
          (fun _ => ⟨Progress.Extends.refl _, fun _ member => Or.inl member⟩)
          (fun left right => ⟨left.1.trans right.1, fun entry member =>
            (right.2 entry member).elim
              (fun earlier => (left.2 entry earlier).imp_right (·.later right.1))
              Or.inr⟩)
          (fun child _ {first second} call => ⟨visit_extends call, inductionHypothesis call⟩)
          children
        intro entry member
        rcases loop.2 entry member with earlier | closed
        · rcases List.mem_append.mp earlier with before' | here
          · exact Or.inl before'
          · rw [List.mem_singleton.mp here]
            exact Or.inr fun child member => key_mem_of_foldlM children member
        · exact Or.inr closed

theorem settled_of_visit {fuel : Nat} {item : Item} {depth : Nat}
    {before after : Progress Item Key} (settled : search.Settled before)
    (run : search.visit fuel item depth before = some after) : search.Settled after := by
  intro entry member
  rcases closed_of_visit run entry member with earlier | closed
  · exact (settled entry earlier).later (visit_extends run)
  · exact closed

/-! Where the items stand. -/

/-- Every item stands where the entries before it put it. -/
structure Placement (search : DepthFirst Item Key) (earlier : List (Item × Nat))
    (item : Item) (depth : Nat) : Prop where
  /-- Below depth zero an item stands under an earlier entry it is a child of. -/
  under : ∀ above, depth = above + 1 →
    ∃ parent, (parent, above) ∈ earlier ∧ item ∈ search.children (search.key parent)
  /-- An item stands one deeper than every earlier entry it is a child of. -/
  deeper : ∀ parent above, (parent, above) ∈ earlier →
    item ∈ search.children (search.key parent) → depth = above + 1

structure Faithful (search : DepthFirst Item Key) (progress : Progress Item Key) : Prop where
  visited : progress.visited = progress.placed.map fun entry => search.key entry.1
  once : progress.visited.Nodup
  stands : ∀ earlier item depth later, progress.placed = earlier ++ (item, depth) :: later →
    search.Placement earlier item depth

/-- No item is a child of two keys. -/
def SingleParent (search : DepthFirst Item Key) : Prop :=
  ∀ item key other, item ∈ search.children key → item ∈ search.children other → key = other

omit [DecidableEq Key] in
theorem faithful_start (search : DepthFirst Item Key) :
    search.Faithful Progress.start := by
  refine ⟨rfl, List.nodup_nil, fun earlier item depth later split => ?_⟩
  exact absurd split (by simp [Progress.start])

omit [DecidableEq Key] in
/-- A fresh item put where the entries so far allow keeps every item where it stands. -/
theorem Faithful.place {progress : Progress Item Key} {item : Item} {depth : Nat}
    (faithful : search.Faithful progress) (fresh : search.key item ∉ progress.visited)
    (allowed : search.Placement progress.placed item depth) :
    search.Faithful (search.place item depth progress) where
  visited := by simp [DepthFirst.place, faithful.visited]
  once := by
    rw [DepthFirst.place, List.nodup_append]
    refine ⟨faithful.once, List.nodup_singleton _, fun key member other single => ?_⟩
    rw [List.mem_singleton.mp single]
    exact fun same => fresh (same ▸ member)
  stands earlier other depth' later split := by
    rcases List.eq_nil_or_concat later with rfl | ⟨front, last, rfl⟩
    · have parts := List.append_inj' split rfl
      obtain ⟨rfl, rfl⟩ := Prod.mk.inj (List.singleton_inj.mp parts.2)
      exact parts.1 ▸ allowed
    · have parts := List.append_inj' (split.trans (by simp :
        earlier ++ (other, depth') :: (front.concat last) =
          (earlier ++ (other, depth') :: front) ++ [last])) rfl
      exact faithful.stands earlier other depth' front parts.1

omit [DecidableEq Key] in
/-- One key stands at one depth. -/
theorem Faithful.depth_unique {progress : Progress Item Key} (faithful : search.Faithful progress)
    {first second : Item × Nat} (left : first ∈ progress.placed) (right : second ∈ progress.placed)
    (same : search.key first.1 = search.key second.1) : first = second := by
  have once := faithful.once
  rw [faithful.visited] at once
  exact List.inj_on_of_nodup_map once left right same

omit [DecidableEq Key] in
theorem Faithful.child {progress : Progress Item Key} (faithful : search.Faithful progress)
    (single : search.SingleParent) {item child : Item} {depth : Nat}
    (stands : (item, depth) ∈ progress.placed)
    (member : child ∈ search.children (search.key item)) :
    search.Placement progress.placed child (depth + 1) where
  under above equal := ⟨item, Nat.succ.inj equal ▸ stands, member⟩
  deeper parent above other linked := by
    have sameKey := single child _ _ linked member
    rw [Prod.mk.inj (faithful.depth_unique other stands sameKey) |>.2]

omit [DecidableEq Key] in
/-- A fresh root of a settled walk is nobody's child so far. -/
theorem Settled.root {progress : Progress Item Key} (settled : search.Settled progress)
    {item : Item} (fresh : search.key item ∉ progress.visited) :
    search.Placement progress.placed item 0 where
  under above equal := absurd equal (Nat.succ_ne_zero above).symm
  deeper _ _ other linked := absurd (settled _ other item linked) fresh

theorem faithful_of_visit (single : search.SingleParent) {fuel : Nat} {root : Item}
    {before after : Progress Item Key} (faithful : search.Faithful before)
    (settled : search.Settled before) (run : search.visit fuel root 0 before = some after) :
    search.Faithful after := by
  refine visit_invariant search.Faithful
    (fun progress item depth => search.key item ∉ progress.visited →
      search.Placement progress.placed item depth)
    (fun progress item depth holds entry fresh => holds.place fresh (entry fresh))
    (fun progress item depth child holds stands member _ => holds.child single stands member)
    run (fun fresh => settled.root fresh) faithful

theorem faithful_of_visitRoots (single : search.SingleParent) {fuel : Nat} {roots : List Item}
    {before after : Progress Item Key}
    (holds : search.Faithful before ∧ search.Settled before)
    (run : search.visitRoots fuel roots before = some after) :
    search.Faithful after ∧ search.Settled after :=
  foldlM_keeps
    (fun first second : Progress Item Key =>
      search.Faithful first ∧ search.Settled first → search.Faithful second ∧ search.Settled second)
    (fun _ kept => kept) (fun left right kept => right (left kept))
    (fun _ _ _ _ call kept =>
      ⟨faithful_of_visit single kept.1 kept.2 call, settled_of_visit kept.2 call⟩)
    run holds

/-! What a walk may place. -/

/-- The children under any key are among the items. -/
def Within (search : DepthFirst Item Key) (items : List Item) : Prop :=
  ∀ key, search.children key ⊆ items

theorem placed_mem_of_visitRoots {items : List Item} (within : search.Within items) {fuel : Nat}
    {roots : List Item} (among : roots ⊆ items) {before after : Progress Item Key}
    (run : search.visitRoots fuel roots before = some after)
    (start : ∀ entry ∈ before.placed, entry.1 ∈ items) :
    ∀ entry ∈ after.placed, entry.1 ∈ items :=
  foldlM_keeps
    (fun first second : Progress Item Key =>
      (∀ entry ∈ first.placed, entry.1 ∈ items) → ∀ entry ∈ second.placed, entry.1 ∈ items)
    (fun _ kept => kept) (fun left right kept => right (left kept))
    (fun root member _ _ call kept => visit_invariant
      (fun progress => ∀ entry ∈ progress.placed, entry.1 ∈ items)
      (fun _ item _ => item ∈ items)
      (fun progress item depth holds entry _ other placed => by
        rcases List.mem_append.mp placed with earlier | here
        · exact holds other earlier
        · exact List.mem_singleton.mp here ▸ entry)
      (fun _ item _ _ _ _ linked => within (search.key item) linked)
      call (among member) kept)
    run start

/-! Enough fuel: every nested call visits one more of the keys there are. -/

/-- The keys there are that no call has met. -/
def unvisited (universe' visited : List Key) : Nat :=
  universe'.countP fun key => key ∉ visited

theorem unvisited_anti {universe' before after : List Key} (extends' : before ⊆ after) :
    unvisited universe' after ≤ unvisited universe' before := by
  refine List.countP_mono_left fun key _ missing => ?_
  simp only [decide_eq_true_eq] at missing ⊢
  exact fun earlier => missing (extends' earlier)

theorem unvisited_lt {universe' visited : List Key} {key : Key} (member : key ∈ universe')
    (fresh : key ∉ visited) :
    unvisited universe' (visited ++ [key]) < unvisited universe' visited := by
  induction universe' with
  | nil => cases member
  | cons head rest inductionHypothesis =>
      have weaker : unvisited rest (visited ++ [key]) ≤ unvisited rest visited :=
        unvisited_anti fun _ earlier => List.mem_append_left _ earlier
      simp only [unvisited, List.countP_cons] at weaker inductionHypothesis ⊢
      by_cases here : head = key
      · simp [here, fresh]
        simp at weaker
        omega
      · have later := inductionHypothesis ((List.mem_cons.mp member).resolve_left fun same =>
          here same.symm)
        simp [here] at later ⊢
        omega

omit [DecidableEq Key] in
/-- A loop returns if every round does from every state that extends the first. -/
theorem foldlM_returns {Place : Type u} {round : Progress Item Key → Place →
      Option (Progress Item Key)} {places : List Place} {start : Progress Item Key}
    (each : ∀ place ∈ places, ∀ before, start.Extends before →
      ∃ after, round before place = some after ∧ before.Extends after) :
    ∃ after, places.foldlM round start = some after := by
  have general : ∀ before, start.Extends before →
      ∃ after, places.foldlM round before = some after := by
    induction places with
    | nil => exact fun before _ => ⟨before, rfl⟩
    | cons place rest inductionHypothesis =>
        intro before reached
        obtain ⟨middle, call, kept⟩ := each place (List.mem_cons_self ..) before reached
        rw [List.foldlM_cons, call]
        exact inductionHypothesis (fun other member => each other (List.mem_cons_of_mem _ member))
          middle (reached.trans kept)
  exact general start (Progress.Extends.refl start)

theorem visit_returns {items : List Item} (within : search.Within items) {fuel : Nat}
    {item : Item} (member : item ∈ items) (depth : Nat) {before : Progress Item Key}
    (enough : unvisited (items.map search.key) before.visited < fuel) :
    ∃ after, search.visit fuel item depth before = some after := by
  induction fuel generalizing item depth before with
  | zero => omega
  | succ less inductionHypothesis =>
      rw [visit]
      split
      · exact ⟨before, rfl⟩
      · rename_i fresh
        refine foldlM_returns fun child linked reached later => ?_
        have fewer := unvisited_lt (List.mem_map_of_mem (f := search.key) member) fresh
        have still : unvisited (items.map search.key) reached.visited ≤
            unvisited (items.map search.key) (before.visited ++ [search.key item]) :=
          unvisited_anti later.visited
        have childMember : child ∈ items := within (search.key item) linked
        obtain ⟨after, call⟩ := inductionHypothesis childMember (depth + 1)
          (by omega : unvisited (items.map search.key) reached.visited < less)
        exact ⟨after, call, visit_extends call⟩

theorem foldlM_congr_some {Place : Type u} {State : Type v}
    {left right : State → Place → Option State}
    (agrees : ∀ {before place after}, left before place = some after →
      right before place = some after)
    {places : List Place} {before after : State}
    (run : places.foldlM left before = some after) :
    places.foldlM right before = some after := by
  induction places generalizing before with
  | nil => exact run
  | cons place rest inductionHypothesis =>
      rw [List.foldlM_cons, Option.bind_eq_bind, Option.bind_eq_some_iff] at run ⊢
      obtain ⟨middle, first, others⟩ := run
      exact ⟨middle, agrees first, inductionHypothesis others⟩

/-- A call that has returned does not depend on how much fuel was left. -/
theorem visit_fuel {fuel more : Nat} (le : fuel ≤ more) {item : Item} {depth : Nat}
    {before after : Progress Item Key}
    (run : search.visit fuel item depth before = some after) :
    search.visit more item depth before = some after := by
  induction fuel generalizing more item depth before after with
  | zero => cases run
  | succ less inductionHypothesis =>
      obtain ⟨rest, rfl⟩ : ∃ rest, more = rest + 1 := ⟨more - 1, by omega⟩
      rw [visit] at run ⊢
      split at run
      · rename_i met
        rw [if_pos met, run]
      · rename_i fresh
        rw [if_neg fresh]
        exact foldlM_congr_some (inductionHypothesis (by omega)) run

/-! The whole walk: some items are roots at once, then every item is tried as a root. -/

def walk (search : DepthFirst Item Key) (fuel : Nat) (roots items : List Item) :
    Option (Progress Item Key) :=
  (search.visitRoots fuel roots Progress.start).bind (search.visitRoots fuel items)

/-- What a walk over all items leaves. -/
structure Walked (search : DepthFirst Item Key) (items : List Item)
    (progress : Progress Item Key) : Prop where
  faithful : search.Faithful progress
  among : ∀ entry ∈ progress.placed, entry.1 ∈ items
  covers : ∀ item ∈ items, search.key item ∈ progress.visited

theorem visitRoots_returns {items roots : List Item} (within : search.Within items)
    (among : roots ⊆ items) {fuel : Nat} (enough : items.length < fuel)
    (before : Progress Item Key) : ∃ after, search.visitRoots fuel roots before = some after :=
  foldlM_returns fun root member reached _ => by
    have bound : unvisited (items.map search.key) reached.visited ≤ items.length := by
      have le := List.countP_le_length (p := fun key => decide (key ∉ reached.visited))
        (l := items.map search.key)
      rwa [List.length_map] at le
    obtain ⟨after, call⟩ := visit_returns within (among member) 0 (lt_of_le_of_lt bound enough)
    exact ⟨after, call, visit_extends call⟩

/-- With more fuel than there are items the walk returns, always the same, and it has put
every item where its parents stand. -/
theorem walk_returns (single : search.SingleParent) (roots : List Item) {items : List Item}
    (within : search.Within items) (among : roots ⊆ items) :
    ∃ progress, (∀ fuel, items.length < fuel → search.walk fuel roots items = some progress) ∧
      search.Walked items progress := by
  obtain ⟨middle, first⟩ :=
    visitRoots_returns within among (Nat.lt_succ_self items.length) Progress.start
  obtain ⟨after, second⟩ :=
    visitRoots_returns within (List.Subset.refl items) (Nat.lt_succ_self items.length) middle
  have start : search.Faithful Progress.start ∧ search.Settled Progress.start :=
    ⟨faithful_start search, fun entry member => absurd member (List.not_mem_nil)⟩
  have half := faithful_of_visitRoots single start first
  refine ⟨after, fun fuel enough => ?_, (faithful_of_visitRoots single half second).1, ?_, ?_⟩
  · have firstAgain : search.visitRoots fuel roots Progress.start = some middle :=
      foldlM_congr_some (visit_fuel enough) first
    rw [walk, firstAgain]
    exact foldlM_congr_some (visit_fuel enough) second
  · have firstAmong := placed_mem_of_visitRoots within among first
      fun entry member => absurd member (List.not_mem_nil)
    exact placed_mem_of_visitRoots within (List.Subset.refl items) second firstAmong
  · exact fun item member => key_mem_of_foldlM second member

omit [DecidableEq Key] in
/-- Each key is placed once, so the items are all placed exactly when no two share a key. -/
theorem Walked.perm_iff {items : List Item} {progress : Progress Item Key}
    (walked : search.Walked items progress) :
    (progress.placed.map Prod.fst).Perm items ↔ (items.map search.key).Nodup := by
  have keys : progress.visited = (progress.placed.map Prod.fst).map search.key := by
    rw [walked.faithful.visited, List.map_map]
    rfl
  have once := walked.faithful.once
  rw [keys] at once
  constructor
  · intro permuted
    exact (permuted.map search.key).nodup_iff.mp once
  · intro distinct
    rw [List.perm_ext_iff_of_nodup (List.Nodup.of_map _ once) (List.Nodup.of_map _ distinct)]
    intro item
    constructor
    · intro placed
      obtain ⟨entry, member, rfl⟩ := List.mem_map.mp placed
      exact walked.among entry member
    · intro member
      have met := walked.covers item member
      rw [walked.faithful.visited] at met
      obtain ⟨entry, placed, same⟩ := List.mem_map.mp met
      have equal : entry.1 = item :=
        List.inj_on_of_nodup_map distinct (walked.among entry placed) member same
      exact equal ▸ List.mem_map_of_mem placed

end DepthFirst

end LlmObs.Foundation
