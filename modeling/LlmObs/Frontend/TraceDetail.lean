import Mathlib.Data.List.Sort
import LlmObs.Foundation.DepthFirst
import LlmObs.Foundation.Dict

/-!
Owns the span tree of the trace page: nodes by span id, children in the order of their start
times, and rows placed by a recursive walk that starts at the spans without a known parent
and then tries every span. Each id is shown once. All spans are shown exactly when no two of
them share an id, although a trace may hold one id with several start times.
-/

namespace LlmObs.Frontend

open LlmObs.Foundation

universe u

/-- What the tree reads of a span, and the rest of it. -/
structure TraceSpan (Detail : Type u) where
  id : String
  parentSpanId : Option String
  startedAt : String
  detail : Detail
deriving DecidableEq, Repr

variable {Detail : Type u}

structure SpanHierarchyRow (Detail : Type u) where
  span : TraceSpan Detail
  depth : Nat
  childCount : Nat
  hasKnownParent : Bool
deriving DecidableEq, Repr

/-- A value of the node map. -/
structure SpanNode (Detail : Type u) where
  span : TraceSpan Detail
  children : List (TraceSpan Detail)
deriving DecidableEq, Repr

abbrev SpanNodes (Detail : Type u) := PyDict String (SpanNode Detail)

/-- `new Date(span.started_at).getTime()`, where a time that is not finite counts as zero. -/
def getSpanStart (getTime : String → Option Int) (span : TraceSpan Detail) : Int :=
  (getTime span.startedAt).getD 0

/-- `[...spans].sort((a, b) => getSpanStart(a) - getSpanStart(b))` -/
def sortByStart (getTime : String → Option Int) (spans : List (TraceSpan Detail)) :
    List (TraceSpan Detail) :=
  spans.insertionSort fun a b => getSpanStart getTime a ≤ getSpanStart getTime b

/-- The parent id, if the span names one: an empty id is none. -/
def TraceSpan.parent? (span : TraceSpan Detail) : Option String :=
  span.parentSpanId.filter (· ≠ "")

/-- The first loop. A later span of one id takes the node of the earlier. -/
def spanNodes (spans : List (TraceSpan Detail)) : SpanNodes Detail :=
  PyDict.ofEntries (spans.map fun span => (span.id, ⟨span, []⟩))

/-- One round of the second loop: the span joins the children of its parent. -/
def addChild (nodes : SpanNodes Detail) (span : TraceSpan Detail) : SpanNodes Detail :=
  match span.parent? with
  | none => nodes
  | some parentId =>
      if parentId = span.id then nodes
      else
        match nodes.get? parentId with
        | none => nodes
        | some parent => nodes.set parentId { parent with children := parent.children ++ [span] }

def hasKnownParent (nodes : SpanNodes Detail) (span : TraceSpan Detail) : Bool :=
  span.parent?.any fun parentId => (nodes.get? parentId).isSome

/-- The children of a node as the walk takes them. -/
def sortedChildren (getTime : String → Option Int) (nodes : SpanNodes Detail) (id : String) :
    List (TraceSpan Detail) :=
  sortByStart getTime (((nodes.get? id).map (·.children)).getD [])

def spanSearch (getTime : String → Option Int) (nodes : SpanNodes Detail) :
    DepthFirst (TraceSpan Detail) String where
  key := (·.id)
  children := sortedChildren getTime nodes

def hierarchyRow (getTime : String → Option Int) (nodes : SpanNodes Detail)
    (placed : TraceSpan Detail × Nat) : SpanHierarchyRow Detail where
  span := placed.1
  depth := placed.2
  childCount := (sortedChildren getTime nodes placed.1.id).length
  hasKnownParent := hasKnownParent nodes placed.1

/-- The rows, unless `visit` is nested deeper than `fuel` calls. -/
def buildSpanHierarchy (getTime : String → Option Int) (fuel : Nat)
    (spans : List (TraceSpan Detail)) : Option (List (SpanHierarchyRow Detail)) :=
  let nodes := spans.foldl addChild (spanNodes spans)
  let sortedSpans := sortByStart getTime spans
  ((spanSearch getTime nodes).walk fuel
      (sortedSpans.filter fun span => !hasKnownParent nodes span) sortedSpans).map
    fun progress => progress.placed.map (hierarchyRow getTime nodes)

/-- The first span names the second as its parent, and is not it. -/
structure TraceSpan.IsChildOf (span parent : TraceSpan Detail) : Prop where
  named : span.parent? = some parent.id
  other : parent.id ≠ span.id

/-! What the loops leave in the node map. -/

/-- What the second loop has pushed under an id. -/
def childrenUnder (spans : List (TraceSpan Detail)) (id : String) : List (TraceSpan Detail) :=
  spans.filter fun span => span.parent? = some id ∧ id ≠ span.id

theorem get?_spanNodes (spans : List (TraceSpan Detail)) (id : String) :
    ((spanNodes spans).get? id).map (·.children) =
      if id ∈ spans.map (·.id) then some [] else none := by
  have keys : id ∈ (spanNodes spans).entries.map Prod.fst ↔ id ∈ spans.map (·.id) := by
    rw [spanNodes, PyDict.ofEntries, Dict.mem_keys_ofEntries, List.map_map]
    rfl
  cases found : (spanNodes spans).get? id with
  | none =>
      rw [if_neg, Option.map_none]
      intro member
      obtain ⟨entry, stored, rfl⟩ := List.mem_map.mp (keys.mpr member)
      rw [PyDict.get?_eq_some.mpr stored] at found
      cases found
  | some node =>
      have stored := PyDict.get?_eq_some.mp found
      obtain ⟨span, _, equal⟩ := List.mem_map.mp (Dict.mem_of_mem_ofEntries stored)
      have empty : node = ⟨span, []⟩ := (congrArg Prod.snd equal).symm
      rw [if_pos (keys.mp (List.mem_map_of_mem stored)), Option.map_some, empty]

/-- One round adds the span under its parent's node, if there is one, and changes no other. -/
theorem get?_addChild (nodes : SpanNodes Detail) (span : TraceSpan Detail) (id : String) :
    ((addChild nodes span).get? id).map (·.children) =
      ((nodes.get? id).map (·.children)).map (· ++ childrenUnder [span] id) := by
  have kept (notUnder : ¬(span.parent? = some id ∧ id ≠ span.id)) :
      ((nodes.get? id).map (·.children)).map (· ++ childrenUnder [span] id) =
        (nodes.get? id).map (·.children) := by
    simp [childrenUnder, notUnder, Function.comp_def]
  rw [addChild]
  split
  · rename_i unnamed
    rw [kept (fun under => by simp [unnamed] at under)]
  · rename_i parentId named
    split
    · rename_i own
      rw [kept (fun under => under.2 (by rw [← own]; simpa [named] using under.1.symm))]
    · rename_i other
      split
      · rename_i missing
        by_cases same : parentId = id
        · rw [← same, missing]
          rfl
        · rw [kept (fun under => same (by simpa [named] using under.1))]
      · rename_i parent found
        by_cases same : parentId = id
        · subst same
          rw [PyDict.get?_set_self, found]
          simp [childrenUnder, named, other]
        · rw [PyDict.get?_set_of_ne _ _ (fun equal => same equal.symm),
            kept (fun under => same (by simpa [named] using under.1))]

theorem get?_linkedNodes (spans : List (TraceSpan Detail)) (id : String) :
    ((spans.foldl addChild (spanNodes spans)).get? id).map (·.children) =
      if id ∈ spans.map (·.id) then some (childrenUnder spans id) else none := by
  have general : ∀ (rest : List (TraceSpan Detail)) (nodes : SpanNodes Detail),
      ((rest.foldl addChild nodes).get? id).map (·.children) =
        ((nodes.get? id).map (·.children)).map (· ++ childrenUnder rest id) := by
    intro rest
    induction rest with
    | nil => simp [childrenUnder, Function.comp_def]
    | cons span rest inductionHypothesis =>
        intro nodes
        have split : childrenUnder (span :: rest) id =
            childrenUnder [span] id ++ childrenUnder rest id :=
          List.filter_append [span] rest
        rw [List.foldl_cons, inductionHypothesis, get?_addChild, Option.map_map, split]
        simp [Function.comp_def]
  rw [general, get?_spanNodes]
  split <;> rfl

/-! The walk over the linked nodes. -/

section Walk

variable (getTime : String → Option Int) (spans : List (TraceSpan Detail))

/-- The search that `buildSpanHierarchy` makes. -/
def linkedSearch : DepthFirst (TraceSpan Detail) String :=
  spanSearch getTime (spans.foldl addChild (spanNodes spans))

theorem mem_children {span : TraceSpan Detail} {id : String} :
    span ∈ (linkedSearch getTime spans).children id ↔
      id ∈ spans.map (·.id) ∧ span ∈ spans ∧ span.parent? = some id ∧ id ≠ span.id := by
  show span ∈ sortByStart _ _ ↔ _
  rw [sortByStart, (List.perm_insertionSort _ _).mem_iff, get?_linkedNodes]
  split
  · rename_i known
    simp [childrenUnder, known]
  · rename_i unknown
    simp [unknown]

theorem linkedSearch_single : (linkedSearch getTime spans).SingleParent := by
  intro span id other left right
  have first := (mem_children getTime spans).mp left
  have second := (mem_children getTime spans).mp right
  exact Option.some.inj (first.2.2.1.symm.trans second.2.2.1)

theorem linkedSearch_within :
    (linkedSearch getTime spans).Within (sortByStart getTime spans) := by
  intro id span member
  rw [sortByStart, (List.perm_insertionSort _ _).mem_iff]
  exact ((mem_children getTime spans).mp member).2.1

/-- Among the spans, being a child is what the search goes by. -/
theorem mem_children_iff_isChildOf {span parent : TraceSpan Detail} (member : span ∈ spans)
    (parentMember : parent ∈ spans) :
    span ∈ (linkedSearch getTime spans).children parent.id ↔ span.IsChildOf parent := by
  rw [mem_children]
  constructor
  · exact fun linked => ⟨linked.2.2.1, linked.2.2.2⟩
  · exact fun child => ⟨List.mem_map_of_mem parentMember, member, child.named, child.other⟩

end Walk

/-- What the page promises of its rows. -/
structure ShowsEverySpanOnce (spans : List (TraceSpan Detail))
    (rows : List (SpanHierarchyRow Detail)) : Prop where
  once : (rows.map (·.span)).Perm spans
  /-- Below depth zero a row comes after a row of its parent that is one less deep. -/
  under : ∀ earlier row later, rows = earlier ++ row :: later → ∀ above, row.depth = above + 1 →
    ∃ parent ∈ earlier, row.span.IsChildOf parent.span ∧ parent.depth = above
  /-- A row that comes after its parent's row is one deeper. -/
  deeper : ∀ earlier row later, rows = earlier ++ row :: later →
    ∀ parent ∈ earlier, row.span.IsChildOf parent.span → row.depth = parent.depth + 1
  root : ∀ row ∈ rows, (∀ parent ∈ spans, row.span.parentSpanId ≠ some parent.id) → row.depth = 0

section Rows

variable (getTime : String → Option Int) {spans : List (TraceSpan Detail)}

/-- An entry of the placement stands under the entries before it as its row does under the
rows before. -/
theorem split_of_rows {placed : List (TraceSpan Detail × Nat)} {nodes : SpanNodes Detail}
    {earlier : List (SpanHierarchyRow Detail)} {row : SpanHierarchyRow Detail}
    {later : List (SpanHierarchyRow Detail)}
    (split : placed.map (hierarchyRow getTime nodes) = earlier ++ row :: later) :
    ∃ before entry after, placed = before ++ entry :: after ∧
      before.map (hierarchyRow getTime nodes) = earlier ∧
      hierarchyRow getTime nodes entry = row := by
  obtain ⟨before, rest, equal, first, others⟩ := List.map_eq_append_iff.mp split
  obtain ⟨entry, after, same, this, _⟩ := List.map_eq_cons_iff.mp others
  exact ⟨before, entry, after, same ▸ equal, first, this⟩

/-- The rows of a placement. -/
def rowsOf (spans : List (TraceSpan Detail)) (placed : List (TraceSpan Detail × Nat)) :
    List (SpanHierarchyRow Detail) :=
  placed.map (hierarchyRow getTime (spans.foldl addChild (spanNodes spans)))

variable {progress : DepthFirst.Progress (TraceSpan Detail) String}
  (walked : (linkedSearch getTime spans).Walked (sortByStart getTime spans) progress)

include walked

theorem placed_mem (entry : TraceSpan Detail × Nat) (member : entry ∈ progress.placed) :
    entry.1 ∈ spans :=
  (List.perm_insertionSort _ _).mem_iff.mp (walked.among entry member)

theorem rows_under {earlier later : List (SpanHierarchyRow Detail)}
    {row : SpanHierarchyRow Detail}
    (split : rowsOf getTime spans progress.placed = earlier ++ row :: later) {above : Nat}
    (deep : row.depth = above + 1) :
    ∃ parent ∈ earlier, row.span.IsChildOf parent.span ∧ parent.depth = above := by
  obtain ⟨before, entry, after, equal, rfl, rfl⟩ := split_of_rows getTime split
  have stands := walked.faithful.stands before entry.1 entry.2 after equal
  obtain ⟨parent, earlier, linked⟩ := stands.under above deep
  have parentMember : parent ∈ spans :=
    placed_mem getTime walked (parent, above) (equal ▸ List.mem_append_left _ earlier)
  have member : entry.1 ∈ spans :=
    placed_mem getTime walked _ (equal ▸ List.mem_append_right _ (List.mem_cons_self ..))
  exact ⟨_, List.mem_map_of_mem earlier,
    (mem_children_iff_isChildOf getTime spans member parentMember).mp linked, rfl⟩

theorem rows_deeper {earlier later : List (SpanHierarchyRow Detail)}
    {row parentRow : SpanHierarchyRow Detail}
    (split : rowsOf getTime spans progress.placed = earlier ++ row :: later)
    (above : parentRow ∈ earlier) (child : row.span.IsChildOf parentRow.span) :
    row.depth = parentRow.depth + 1 := by
  obtain ⟨before, entry, after, equal, rfl, rfl⟩ := split_of_rows getTime split
  obtain ⟨parent, earlier, rfl⟩ := List.mem_map.mp above
  have stands := walked.faithful.stands before entry.1 entry.2 after equal
  have parentMember : parent.1 ∈ spans :=
    placed_mem getTime walked _ (equal ▸ List.mem_append_left _ earlier)
  have member : entry.1 ∈ spans :=
    placed_mem getTime walked _ (equal ▸ List.mem_append_right _ (List.mem_cons_self ..))
  have linked := (mem_children_iff_isChildOf getTime spans member parentMember).mpr child
  exact stands.deeper parent.1 parent.2 earlier linked

theorem rows_root {row : SpanHierarchyRow Detail}
    (member : row ∈ rowsOf getTime spans progress.placed)
    (missing : ∀ parent ∈ spans, row.span.parentSpanId ≠ some parent.id) : row.depth = 0 := by
  obtain ⟨earlier, later, split⟩ := List.append_of_mem member
  by_contra deep
  have below : row.depth = (row.depth - 1) + 1 := by omega
  obtain ⟨parentRow, above, child, _⟩ := rows_under getTime walked split below
  have shown : parentRow ∈ rowsOf getTime spans progress.placed :=
    split ▸ List.mem_append_left _ above
  obtain ⟨parent, placed, rfl⟩ := List.mem_map.mp shown
  exact missing parent.1 (placed_mem getTime walked _ placed)
    (Option.filter_eq_some_iff.mp child.named).1

theorem showsEverySpanOnce_iff_perm :
    ShowsEverySpanOnce spans (rowsOf getTime spans progress.placed) ↔
      (progress.placed.map Prod.fst).Perm (sortByStart getTime spans) := by
  have sorted : (sortByStart getTime spans).Perm spans := List.perm_insertionSort _ _
  have shown : (rowsOf getTime spans progress.placed).map (·.span) =
      progress.placed.map Prod.fst := by
    rw [rowsOf, List.map_map]
    rfl
  constructor
  · intro shows
    exact (shown ▸ shows.once).trans sorted.symm
  · intro permuted
    exact ⟨shown ▸ permuted.trans sorted,
      fun _ _ _ split _ => rows_under getTime walked split,
      fun _ _ _ split _ => rows_deeper getTime walked split,
      fun _ => rows_root getTime walked⟩

omit walked

/-- The walk returns for every list of spans, whatever their links, and its rows show every
span once exactly when no two spans share an id. -/
theorem buildSpanHierarchy_showsEverySpanOnce_iff (spans : List (TraceSpan Detail)) :
    ∃ rows, (∀ fuel, spans.length < fuel →
        buildSpanHierarchy getTime fuel spans = some rows) ∧
      (ShowsEverySpanOnce spans rows ↔ (spans.map (·.id)).Nodup) := by
  have sorted : (sortByStart getTime spans).Perm spans := List.perm_insertionSort _ _
  obtain ⟨progress, returns, walked⟩ := DepthFirst.walk_returns
    (linkedSearch_single getTime spans)
    ((sortByStart getTime spans).filter fun span =>
      !hasKnownParent (spans.foldl addChild (spanNodes spans)) span)
    (linkedSearch_within getTime spans)
    (fun _ member => (List.mem_filter.mp member).1)
  refine ⟨rowsOf getTime spans progress.placed, fun fuel enough => ?_, ?_⟩
  · rw [← sorted.length_eq] at enough
    show ((linkedSearch getTime spans).walk _ _ _).map _ = _
    rw [returns fuel enough]
    rfl
  · rw [showsEverySpanOnce_iff_perm getTime walked, walked.perm_iff]
    exact (sorted.map _).nodup_iff

end Rows

/-- Two rows of one span, a minute apart, as the primary key of id and start time allows. -/
def twiceStored : List (TraceSpan Unit) :=
  [⟨"4f1c", none, "2026-01-01T00:00:00Z", ()⟩, ⟨"4f1c", none, "2026-01-01T00:01:00Z", ()⟩]

theorem buildSpanHierarchy_loses_twiceStored :
    ¬ ∃ rows, buildSpanHierarchy (fun text => if text = "2026-01-01T00:00:00Z"
        then some 1767225600000 else some 1767225660000) 3 twiceStored = some rows ∧
      ShowsEverySpanOnce twiceStored rows := by
  rintro ⟨rows, built, shows⟩
  have one : rows.length = 1 := by
    have computed : (buildSpanHierarchy (fun text => if text = "2026-01-01T00:00:00Z"
        then some 1767225600000 else some 1767225660000) 3 twiceStored).map List.length =
          some 1 := by decide
    rw [built] at computed
    exact Option.some.inj computed
  have same := shows.once.length_eq
  rw [List.length_map, one] at same
  exact absurd same (by decide)

end LlmObs.Frontend
