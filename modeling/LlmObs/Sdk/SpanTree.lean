import LlmObs.Sdk.Instrumentation
import Mathlib.Data.List.Count
import Mathlib.Data.List.Infix
import Mathlib.Data.List.Nodup

/-!
Owns the tree of the spans that one run of an application records: one span for each
activation, under the innermost activation around it, and one trace for each outermost
activation. The tree is faithful in exactly the runs in which no manual span that was made
inside an activation is entered outside all of them, and every response and stream that ends
can be read.
-/

namespace LlmObs.Sdk

variable {Id : Type}

/-! ### What the tree promises -/

/-- The span id of the outermost activation around an activation, or its own. -/
def Activation.root (activation : Activation Id) : Id :=
  activation.enclosing.getLast?.getD activation.spanId

/-- The span was recorded for the activation. -/
structure SpanData.IsOf (span : SpanData Id) (activation : Activation Id) : Prop where
  spanId : span.spanId = activation.spanId
  traceId : span.traceId = activation.traceId
  parentSpanId : span.parentSpanId = activation.parentSpanId

namespace SdkState

/-- The spans recorded under an id. -/
def countOf [DecidableEq Id] (state : SdkState Id) (spanId : Id) : Nat :=
  (state.recorded.map (·.spanId)).count spanId

/-- The activation made a stream that has not ended. -/
def Awaits (state : SdkState Id) (spanId : Id) : Prop :=
  ∃ stream ∈ state.streams, stream.spanId = spanId ∧ stream.recorded = false

/-- The spans that were recorded form the tree of the activations. -/
structure Faithful [DecidableEq Id] (state : SdkState Id) : Prop where
  distinct : (state.activations.map (·.spanId)).Nodup
  /-- One span for each activation; a stream's at its end. -/
  once : ∀ activation ∈ state.activations, ¬ state.Awaits activation.spanId →
    state.countOf activation.spanId = 1
  notYet : ∀ activation ∈ state.activations, state.Awaits activation.spanId →
    state.countOf activation.spanId = 0
  recordedFor : ∀ span ∈ state.recorded, ∃ activation ∈ state.activations, span.IsOf activation
  /-- The parent is the innermost activation around. -/
  parent : ∀ activation ∈ state.activations,
    activation.parentSpanId = activation.enclosing.head?
  sameTrace : ∀ first ∈ state.activations, ∀ second ∈ state.activations,
    first.root = second.root → first.traceId = second.traceId
  otherTrace : ∀ first ∈ state.activations, ∀ second ∈ state.activations,
    first.root ≠ second.root → first.traceId ≠ second.traceId
  restored : state.currentTraceId = none ∧ state.currentSpanId = none

/-- Each manual span is entered once. -/
def EntersOnce (state : SdkState Id) : Prop := (state.entries.map (·.spanId)).Nodup

instance [DecidableEq Id] (state : SdkState Id) : Decidable state.EntersOnce :=
  inferInstanceAs (Decidable (List.Nodup _))

/-- No manual span that was made inside an activation is entered outside all of them. -/
def EntersWhereMade (entries : List (Entry Id)) : Prop :=
  ∀ entry ∈ entries, entry.enteredUnder = [] → entry.createdUnder = []

/-! ### What holds at every point of a run -/

/-- An outermost activation. -/
def IsRoot (activations : List (Activation Id)) (root : Activation Id) : Prop :=
  root ∈ activations ∧ root.enclosing = []

/-- The id was drawn. -/
def Drawn (uuid4 : Nat → Id) (draws : Nat) (id : Id) : Prop := ∃ draw < draws, id = uuid4 draw

/-- Ids were drawn, and no two activations share theirs. -/
structure IdsSound (uuid4 : Nat → Id) (draws : Nat) (slots : Nat → Option (ManualSpan Id))
    (activations : List (Activation Id)) : Prop where
  activation : ∀ activation ∈ activations,
    Drawn uuid4 draws activation.spanId ∧ Drawn uuid4 draws activation.traceId
  slot : ∀ slot span, slots slot = some span →
    Drawn uuid4 draws span.spanId ∧ Drawn uuid4 draws span.traceId
  distinct : (activations.map (·.spanId)).Nodup

/-- The variables hold what the activations around say, and parents and traces follow them. -/
structure TreeSound (stack : List Id) (traceId spanId : Option Id)
    (activations : List (Activation Id)) : Prop where
  parent : ∀ activation ∈ activations, activation.parentSpanId = activation.enclosing.head?
  rooted : ∀ activation ∈ activations, ∃ root, IsRoot activations root ∧
    activation.root = root.spanId ∧ activation.traceId = root.traceId
  spanId : spanId = stack.head?
  traceId : match stack.getLast? with
    | none => traceId = none
    | some outermost => ∃ root, IsRoot activations root ∧ root.spanId = outermost ∧
        traceId = some root.traceId
  running : ∀ id ∈ stack, id ∈ activations.map (·.spanId)

/-- An activation that runs, made a stream that has not ended, or lost its span. -/
def Owing (stack : List Id) (streams : List (TracedStream Id)) (unreadable : List Id)
    (id : Id) : Prop :=
  id ∈ stack ∨ id ∈ unreadable ∨ ∃ stream ∈ streams, stream.spanId = id ∧ stream.recorded = false

/-- One span for each activation that has ended, none for the others. -/
structure BooksSound [DecidableEq Id] (stack : List Id) (activations : List (Activation Id))
    (recorded : List (SpanData Id)) (streams : List (TracedStream Id)) (unreadable : List Id) :
    Prop where
  none' : ∀ activation ∈ activations, Owing stack streams unreadable activation.spanId →
    (recorded.map (·.spanId)).count activation.spanId = 0
  one : ∀ activation ∈ activations, ¬ Owing stack streams unreadable activation.spanId →
    (recorded.map (·.spanId)).count activation.spanId = 1
  recordedFor : ∀ span ∈ recorded, ∃ activation ∈ activations, span.IsOf activation
  streamOf : ∀ stream ∈ streams, ∃ activation ∈ activations,
    stream.spanId = activation.spanId ∧ stream.traceId = activation.traceId ∧
      stream.parentSpanId = activation.parentSpanId
  streamsDistinct : (streams.map (·.spanId)).Nodup
  unreadableOf : ∀ id ∈ unreadable, id ∈ activations.map (·.spanId)
  ended : ∀ id ∈ stack, id ∉ streams.map (·.spanId) ∧ id ∉ unreadable
  notBoth : ∀ stream ∈ streams, stream.recorded = false → stream.spanId ∉ unreadable

/-- What the manual spans in the variables hold, and what became of those that were entered. -/
structure ObjectsSound (uuid4 : Nat → Id) (slots : Nat → Option (ManualSpan Id))
    (activations : List (Activation Id)) (entries : List (Entry Id)) : Prop where
  entered : ∀ slot span, slots slot = some span →
    span.spanId ∈ activations.map (·.spanId) → span.spanId ∈ entries.map (·.spanId)
  madeOutside : ∀ slot span, slots slot = some span → span.createdUnder = [] →
    (∃ draw, span.traceId = uuid4 draw ∧ span.spanId = uuid4 (draw + 1)) ∧
      ((∃ root, IsRoot activations root ∧ root.traceId = span.traceId) →
        span.spanId ∈ entries.map (·.spanId))
  madeInside : ∀ slot span, slots slot = some span → span.createdUnder ≠ [] →
    ∃ root, IsRoot activations root ∧ root.traceId = span.traceId ∧ root.spanId ≠ span.spanId
  apart : EntersWhereMade entries → ∀ first second, IsRoot activations first →
    IsRoot activations second → first.traceId = second.traceId → first.spanId = second.spanId
  clash : ∀ entry ∈ entries, entry.enteredUnder = [] → entry.createdUnder ≠ [] →
    ∃ first second, IsRoot activations first ∧ IsRoot activations second ∧
      first.traceId = second.traceId ∧ first.spanId ≠ second.spanId

structure Sound [DecidableEq Id] (uuid4 : Nat → Id) (stack : List Id) (state : SdkState Id) :
    Prop where
  ids : IdsSound uuid4 state.draws state.slots state.activations
  tree : TreeSound stack state.currentTraceId state.currentSpanId state.activations
  books : BooksSound stack state.activations state.recorded state.streams state.unreadable
  objects : ObjectsSound uuid4 state.slots state.activations state.entries

variable {uuid4 : Nat → Id} {stack : List Id}

/-! ### Ids -/

theorem Drawn.mono {draws more : Nat} {id : Id} (drawn : Drawn uuid4 draws id)
    (le : draws ≤ more) : Drawn uuid4 more id := by
  obtain ⟨draw, lt, equal⟩ := drawn
  exact ⟨draw, by omega, equal⟩

/-- What is drawn next was not drawn before. -/
theorem Drawn.ne (injective : Function.Injective uuid4) {draws draw : Nat} {id : Id}
    (drawn : Drawn uuid4 draws id) (later : draws ≤ draw) : id ≠ uuid4 draw := by
  obtain ⟨earlier, lt, rfl⟩ := drawn
  intro same
  have equal := injective same
  omega

theorem IsRoot.mono {before after : List (Activation Id)} {root : Activation Id}
    (isRoot : IsRoot before root) (extends' : before ⊆ after) : IsRoot after root :=
  ⟨extends' isRoot.1, isRoot.2⟩

/-- With distinct span ids, an activation is known by its own. -/
theorem IdsSound.unique {draws : Nat} {slots : Nat → Option (ManualSpan Id)}
    {activations : List (Activation Id)} (sound : IdsSound uuid4 draws slots activations)
    {first second : Activation Id} (left : first ∈ activations) (right : second ∈ activations)
    (same : first.spanId = second.spanId) : first = second :=
  List.inj_on_of_nodup_map sound.distinct left right same

/-! ### An activation begins -/

/-- What the ids of an activation satisfy when it begins. -/
structure Begins (uuid4 : Nat → Id) (stack : List Id) (state : SdkState Id)
    (activation : Activation Id) (entries : List (Entry Id)) : Prop where
  spanDrawn : Drawn uuid4 state.draws activation.spanId
  traceDrawn : Drawn uuid4 state.draws activation.traceId
  fresh : activation.spanId ∉ state.activations.map (·.spanId)
  parent : activation.parentSpanId = state.currentSpanId
  enclosing : activation.enclosing = stack
  inside : ∀ traceId, state.currentTraceId = some traceId → activation.traceId = traceId
  ownSlot : ∀ slot span, state.slots slot = some span → span.spanId = activation.spanId →
    span.spanId ∈ (state.entries ++ entries).map (·.spanId)
  ownTrace : stack = [] → ∀ slot span, state.slots slot = some span → span.createdUnder = [] →
    span.traceId = activation.traceId → span.spanId ∈ (state.entries ++ entries).map (·.spanId)
  newTrace : stack = [] → EntersWhereMade (state.entries ++ entries) →
    ∀ root, IsRoot state.activations root → root.traceId ≠ activation.traceId
  clash : ∀ entry ∈ entries, entry.enteredUnder = [] → entry.createdUnder ≠ [] →
    stack = [] ∧ ∃ root, IsRoot state.activations root ∧
      root.traceId = activation.traceId ∧ root.spanId ≠ activation.spanId

section Begin

variable {state : SdkState Id} {activation : Activation Id} {entries : List (Entry Id)}

theorem isRoot_concat {activations : List (Activation Id)} {root : Activation Id}
    (isRoot : IsRoot (activations ++ [activation]) root) :
    IsRoot activations root ∨ root = activation := by
  rcases List.mem_append.mp isRoot.1 with earlier | here
  · exact Or.inl ⟨earlier, isRoot.2⟩
  · exact Or.inr (List.mem_singleton.mp here)

theorem IdsSound.begin (sound : IdsSound uuid4 state.draws state.slots state.activations)
    (begins : Begins uuid4 stack state activation entries) :
    IdsSound uuid4 state.draws state.slots (state.activations ++ [activation]) where
  activation other member := by
    rcases List.mem_append.mp member with earlier | here
    · exact sound.activation other earlier
    · rw [List.mem_singleton.mp here]
      exact ⟨begins.spanDrawn, begins.traceDrawn⟩
  slot := sound.slot
  distinct := by
    rw [List.map_append, List.map_singleton, List.nodup_append]
    refine ⟨sound.distinct, List.nodup_singleton _, fun id member other single same => ?_⟩
    exact begins.fresh (List.mem_singleton.mp single ▸ same ▸ member)

theorem TreeSound.begin
    (sound : TreeSound stack state.currentTraceId state.currentSpanId state.activations)
    (begins : Begins uuid4 stack state activation entries) :
    TreeSound (activation.spanId :: stack) (some activation.traceId) (some activation.spanId)
      (state.activations ++ [activation]) := by
  have later : state.activations ⊆ state.activations ++ [activation] :=
    fun _ member => List.mem_append_left _ member
  have self : activation ∈ state.activations ++ [activation] :=
    List.mem_append_right _ (List.mem_singleton.mpr rfl)
  -- The outermost activation around the new one, which may be the new one itself.
  have outermost : ∃ root, IsRoot (state.activations ++ [activation]) root ∧
      activation.root = root.spanId ∧ activation.traceId = root.traceId := by
    have context := sound.traceId
    cases last : stack.getLast? with
    | none =>
        have empty : activation.enclosing = [] :=
          begins.enclosing.trans (List.getLast?_eq_none_iff.mp last)
        exact ⟨activation, ⟨self, empty⟩, by rw [Activation.root, empty]; rfl, rfl⟩
    | some id =>
        rw [last] at context
        obtain ⟨root, isRoot, named, current⟩ := context
        refine ⟨root, isRoot.mono later, ?_, begins.inside _ current⟩
        rw [Activation.root, begins.enclosing, last, Option.getD_some, named]
  refine ⟨?_, ?_, rfl, ?_, ?_⟩
  · intro other member
    rcases List.mem_append.mp member with earlier | here
    · exact sound.parent other earlier
    · rw [List.mem_singleton.mp here, begins.parent, begins.enclosing, sound.spanId]
  · intro other member
    rcases List.mem_append.mp member with earlier | here
    · obtain ⟨root, isRoot, facts⟩ := sound.rooted other earlier
      exact ⟨root, isRoot.mono later, facts⟩
    · exact List.mem_singleton.mp here ▸ outermost
  · obtain ⟨root, isRoot, named, current⟩ := outermost
    have last : (activation.spanId :: stack).getLast? = some root.spanId := by
      rw [← named, Activation.root, begins.enclosing]
      cases stack with
      | nil => rfl
      | cons first rest => simp [List.getLast?_cons]
    rw [last]
    exact ⟨root, isRoot, rfl, congrArg some current⟩
  · intro id member
    rw [List.map_append, List.mem_append]
    rcases List.mem_cons.mp member with rfl | around
    · exact Or.inr (List.mem_singleton.mpr rfl)
    · exact Or.inl (sound.running id around)

theorem ObjectsSound.begin
    (sound : ObjectsSound uuid4 state.slots state.activations state.entries)
    (begins : Begins uuid4 stack state activation entries) :
    ObjectsSound uuid4 state.slots (state.activations ++ [activation])
      (state.entries ++ entries) := by
  have later : state.activations ⊆ state.activations ++ [activation] :=
    fun _ member => List.mem_append_left _ member
  have self : activation ∈ state.activations ++ [activation] :=
    List.mem_append_right _ (List.mem_singleton.mpr rfl)
  have kept {id : Id} (member : id ∈ state.entries.map (·.spanId)) :
      id ∈ (state.entries ++ entries).map (·.spanId) := by
    rw [List.map_append]
    exact List.mem_append_left _ member
  have outside (root : IsRoot (state.activations ++ [activation]) activation) : stack = [] :=
    begins.enclosing.symm.trans root.2
  refine ⟨?_, ?_, ?_, ?_, ?_⟩
  · intro slot span assigned member
    rw [List.map_append, List.mem_append] at member
    rcases member with earlier | here
    · exact kept (sound.entered slot span assigned earlier)
    · exact begins.ownSlot slot span assigned (List.mem_singleton.mp here)
  · intro slot span assigned made
    refine ⟨(sound.madeOutside slot span assigned made).1, ?_⟩
    rintro ⟨root, isRoot, same⟩
    rcases isRoot_concat isRoot with earlier | rfl
    · exact kept ((sound.madeOutside slot span assigned made).2 ⟨root, earlier, same⟩)
    · exact begins.ownTrace (outside isRoot) slot span assigned made same.symm
  · intro slot span assigned made
    obtain ⟨root, isRoot, facts⟩ := sound.madeInside slot span assigned made
    exact ⟨root, isRoot.mono later, facts⟩
  · intro where' first second left right same
    have before : EntersWhereMade state.entries :=
      fun entry member => where' entry (List.mem_append_left _ member)
    rcases isRoot_concat left with leftEarlier | rfl
    · rcases isRoot_concat right with rightEarlier | rfl
      · exact sound.apart before first second leftEarlier rightEarlier same
      · exact absurd same (begins.newTrace (outside right) where' first leftEarlier)
    · rcases isRoot_concat right with rightEarlier | rfl
      · exact absurd same.symm (begins.newTrace (outside left) where' second rightEarlier)
      · rfl
  · intro entry member entered made
    rcases List.mem_append.mp member with earlier | new
    · obtain ⟨first, second, left, right, facts⟩ := sound.clash entry earlier entered made
      exact ⟨first, second, left.mono later, right.mono later, facts⟩
    · obtain ⟨empty, root, isRoot, same, different⟩ := begins.clash entry new entered made
      exact ⟨root, activation, isRoot.mono later, ⟨self, begins.enclosing.trans empty⟩, same,
        different⟩

end Begin

/-! ### An activation ends -/

section Books

variable [DecidableEq Id] {activations : List (Activation Id)} {recorded : List (SpanData Id)}
  {streams : List (TracedStream Id)} {unreadable : List Id} {id : Id}

theorem BooksSound.begin (sound : BooksSound stack activations recorded streams unreadable)
    {activation : Activation Id} (fresh : activation.spanId ∉ activations.map (·.spanId)) :
    BooksSound (activation.spanId :: stack) (activations ++ [activation]) recorded streams
      unreadable := by
  have noStream : ∀ stream ∈ streams, stream.spanId ≠ activation.spanId := by
    intro stream member same
    obtain ⟨other, known, named, _⟩ := sound.streamOf stream member
    exact fresh (same ▸ named ▸ List.mem_map_of_mem known)
  have noSpan : ∀ span ∈ recorded, span.spanId ≠ activation.spanId := by
    intro span member same
    obtain ⟨other, known, isOf⟩ := sound.recordedFor span member
    exact fresh (same ▸ isOf.spanId ▸ List.mem_map_of_mem known)
  have other {earlier : Activation Id} (member : earlier ∈ activations) :
      Owing (activation.spanId :: stack) streams unreadable earlier.spanId ↔
        Owing stack streams unreadable earlier.spanId := by
    have different : earlier.spanId ≠ activation.spanId := fun same =>
      fresh (same ▸ List.mem_map_of_mem member)
    simp only [Owing, List.mem_cons, different, false_or]
  refine ⟨?_, ?_, ?_, ?_, sound.streamsDistinct, ?_, ?_, sound.notBoth⟩
  · intro current member owing
    rcases List.mem_append.mp member with earlier | here
    · exact sound.none' current earlier ((other earlier).mp owing)
    · rw [List.mem_singleton.mp here, List.count_eq_zero]
      intro inside
      obtain ⟨span, recordedThere, same⟩ := List.mem_map.mp inside
      exact noSpan span recordedThere same
  · intro current member settled
    rcases List.mem_append.mp member with earlier | here
    · exact sound.one current earlier fun owing => settled ((other earlier).mpr owing)
    · rw [List.mem_singleton.mp here] at settled
      exact absurd (Or.inl (List.mem_cons_self ..)) settled
  · intro span member
    obtain ⟨known, member, isOf⟩ := sound.recordedFor span member
    exact ⟨known, List.mem_append_left _ member, isOf⟩
  · intro stream member
    obtain ⟨known, member, facts⟩ := sound.streamOf stream member
    exact ⟨known, List.mem_append_left _ member, facts⟩
  · intro lost member
    rw [List.map_append]
    exact List.mem_append_left _ (sound.unreadableOf lost member)
  · intro around member
    rcases List.mem_cons.mp member with rfl | earlier
    · refine ⟨fun inside => ?_, fun lost => fresh (sound.unreadableOf _ lost)⟩
      obtain ⟨stream, member, same⟩ := List.mem_map.mp inside
      exact noStream stream member same
    · exact sound.ended around earlier

/-- The ending activation has its span recorded. -/
theorem BooksSound.record (sound : BooksSound (id :: stack) activations recorded streams unreadable)
    (outside : id ∉ stack) {span : SpanData Id} (named : span.spanId = id)
    (isOf : ∃ activation ∈ activations, span.IsOf activation) :
    BooksSound stack activations (recorded ++ [span]) streams unreadable := by
  have ended := sound.ended id (List.mem_cons_self ..)
  have settled : ¬ Owing stack streams unreadable id := by
    rintro (around | lost | ⟨stream, member, same, _⟩)
    · exact outside around
    · exact ended.2 lost
    · exact ended.1 (List.mem_map.mpr ⟨stream, member, same⟩)
  have other {current : Id} (different : current ≠ id) :
      Owing stack streams unreadable current ↔ Owing (id :: stack) streams unreadable current := by
    simp only [Owing, List.mem_cons, different, false_or]
  refine ⟨?_, ?_, ?_, sound.streamOf, sound.streamsDistinct, sound.unreadableOf, ?_,
    sound.notBoth⟩
  · intro activation member owing
    by_cases same : activation.spanId = id
    · exact absurd (same ▸ owing) settled
    · have before := sound.none' activation member ((other same).mp owing)
      rw [List.map_append, List.count_append, before, List.map_singleton, named,
        List.count_singleton, if_neg (by simpa using fun equal => same equal.symm)]
  · intro activation member notOwing
    rw [List.map_append, List.count_append, List.map_singleton, named, List.count_singleton]
    by_cases same : activation.spanId = id
    · have before := sound.none' activation member (Or.inl (same ▸ List.mem_cons_self ..))
      rw [before, if_pos (by simp [same])]
    · have before := sound.one activation member fun owing => notOwing ((other same).mpr owing)
      rw [before, if_neg (by simpa using fun equal => same equal.symm)]
  · exact List.forall_mem_append.mpr ⟨sound.recordedFor, List.forall_mem_singleton.mpr isOf⟩
  · exact fun around member => sound.ended around (List.mem_cons_of_mem _ member)

/-- The span of the ending activation is lost. -/
theorem BooksSound.lose
    (sound : BooksSound (id :: stack) activations recorded streams unreadable)
    (outside : id ∉ stack) (known : id ∈ activations.map (·.spanId)) :
    BooksSound stack activations recorded streams (unreadable ++ [id]) := by
  have ended := sound.ended id (List.mem_cons_self ..)
  have owing_iff {current : Id} :
      Owing stack streams (unreadable ++ [id]) current ↔
        Owing (id :: stack) streams unreadable current := by
    simp only [Owing, List.mem_cons, List.mem_append, List.not_mem_nil, or_false]
    tauto
  refine ⟨fun activation member owing => sound.none' activation member (owing_iff.mp owing),
    fun activation member settled => sound.one activation member fun owing =>
      settled (owing_iff.mpr owing), sound.recordedFor, sound.streamOf, sound.streamsDistinct,
    ?_, ?_, ?_⟩
  · exact List.forall_mem_append.mpr ⟨sound.unreadableOf, List.forall_mem_singleton.mpr known⟩
  · intro around member
    have before := sound.ended around (List.mem_cons_of_mem _ member)
    have different : around ≠ id := fun same => outside (same ▸ member)
    simp only [List.mem_append, List.mem_singleton, different, or_false]
    exact before
  · intro stream member unrecorded
    have different : stream.spanId ≠ id := fun same =>
      ended.1 (List.mem_map.mpr ⟨stream, member, same⟩)
    simp only [List.mem_append, List.mem_singleton, different, or_false]
    exact sound.notBoth stream member unrecorded

/-- The ending activation has made a stream. -/
theorem BooksSound.addStream
    (sound : BooksSound (id :: stack) activations recorded streams unreadable)
    (outside : id ∉ stack) {stream : TracedStream Id} (named : stream.spanId = id)
    (unrecorded : stream.recorded = false)
    (of : ∃ activation ∈ activations, stream.spanId = activation.spanId ∧
      stream.traceId = activation.traceId ∧ stream.parentSpanId = activation.parentSpanId) :
    BooksSound stack activations recorded (streams ++ [stream]) unreadable := by
  have ended := sound.ended id (List.mem_cons_self ..)
  have owing_iff {current : Id} :
      Owing stack (streams ++ [stream]) unreadable current ↔
        Owing (id :: stack) streams unreadable current := by
    simp only [Owing, List.mem_cons, List.mem_append, List.not_mem_nil, or_false, or_and_right,
      exists_or, exists_eq_left, named, unrecorded, and_true, @eq_comm _ id current]
    grind
  refine ⟨fun activation member owing => sound.none' activation member (owing_iff.mp owing),
    fun activation member settled => sound.one activation member fun owing =>
      settled (owing_iff.mpr owing), sound.recordedFor,
    List.forall_mem_append.mpr ⟨sound.streamOf, List.forall_mem_singleton.mpr of⟩, ?_,
    sound.unreadableOf, ?_, ?_⟩
  · rw [List.map_append, List.map_singleton, named, List.nodup_append]
    refine ⟨sound.streamsDistinct, List.nodup_singleton _, fun other member last single same => ?_⟩
    exact ended.1 (List.mem_singleton.mp single ▸ same ▸ member)
  · intro around member
    have before := sound.ended around (List.mem_cons_of_mem _ member)
    have different : around ≠ id := fun same => outside (same ▸ member)
    rw [List.map_append, List.map_singleton, named, List.mem_append, List.mem_singleton]
    exact ⟨fun inside => inside.elim before.1 different, before.2⟩
  · exact List.forall_mem_append.mpr ⟨sound.notBoth,
      List.forall_mem_singleton.mpr fun _ => named ▸ ended.2⟩

omit [DecidableEq Id] in
theorem ids_of_ended (front back : List (TracedStream Id)) (stream : TracedStream Id) :
    (front ++ stream.ended :: back).map (·.spanId) =
      (front ++ stream :: back).map (·.spanId) := by
  simp [TracedStream.ended]

/-- The stream that ends, and the streams around it. -/
theorem owing_ended {front back : List (TracedStream Id)} {stream : TracedStream Id}
    (sound : BooksSound stack activations recorded (front ++ stream :: back) unreadable)
    (unrecorded : stream.recorded = false) :
    ¬ Owing stack (front ++ stream.ended :: back) unreadable stream.spanId := by
  have member : stream ∈ front ++ stream :: back :=
    List.mem_append_right _ (List.mem_cons_self ..)
  have distinct := sound.streamsDistinct
  rw [List.map_append, List.map_cons, List.nodup_middle, List.nodup_cons,
    List.mem_append] at distinct
  rintro (around | lost | ⟨other, among, same, waits⟩)
  · exact (sound.ended _ around).1 (List.mem_map_of_mem member)
  · exact sound.notBoth stream member unrecorded lost
  · rcases List.mem_append.mp among with before | after
    · exact distinct.1 (Or.inl (same ▸ List.mem_map_of_mem before))
    · rcases List.mem_cons.mp after with rfl | behind
      · cases waits
      · exact distinct.1 (Or.inr (same ▸ List.mem_map_of_mem behind))

omit [DecidableEq Id] in
theorem owing_of_ne {front back : List (TracedStream Id)} {stream : TracedStream Id}
    {current : Id} (different : current ≠ stream.spanId) :
    Owing stack (front ++ stream.ended :: back) unreadable current ↔
      Owing stack (front ++ stream :: back) unreadable current := by
  have other : stream.spanId ≠ current := fun same => different same.symm
  simp only [Owing, TracedStream.ended, List.mem_append, List.mem_cons, or_and_right, exists_or,
    exists_eq_left, other, false_and, false_or]

/-- The fields of the books that the end of a stream leaves as they are. -/
theorem BooksSound.ended_streamOf {front back : List (TracedStream Id)}
    {stream : TracedStream Id}
    (sound : BooksSound stack activations recorded (front ++ stream :: back) unreadable) :
    ∀ other ∈ front ++ stream.ended :: back,
      ∃ activation ∈ activations, other.spanId = activation.spanId ∧
        other.traceId = activation.traceId ∧ other.parentSpanId = activation.parentSpanId := by
  have each := sound.streamOf
  simp only [List.forall_mem_append, List.forall_mem_cons] at each ⊢
  exact each

theorem BooksSound.ended_notBoth {front back : List (TracedStream Id)}
    {stream : TracedStream Id}
    (sound : BooksSound stack activations recorded (front ++ stream :: back) unreadable) :
    ∀ other ∈ front ++ stream.ended :: back, other.recorded = false →
      other.spanId ∉ unreadable ∧ other.spanId ≠ stream.spanId := by
  have each := sound.notBoth
  have distinct := sound.streamsDistinct
  rw [List.map_append, List.map_cons, List.nodup_middle, List.nodup_cons,
    List.mem_append] at distinct
  simp only [List.forall_mem_append, List.forall_mem_cons] at each ⊢
  refine ⟨fun other member waits => ⟨each.1 other member waits, fun same => ?_⟩,
    fun waits => absurd waits (by simp [TracedStream.ended]),
    fun other member waits => ⟨each.2.2 other member waits, fun same => ?_⟩⟩
  · exact distinct.1 (Or.inl (same ▸ List.mem_map_of_mem member))
  · exact distinct.1 (Or.inr (same ▸ List.mem_map_of_mem member))

/-- A stream ends, and its span is recorded. -/
theorem BooksSound.recordStream {front back : List (TracedStream Id)} {stream : TracedStream Id}
    (sound : BooksSound stack activations recorded (front ++ stream :: back) unreadable)
    (unrecorded : stream.recorded = false) {span : SpanData Id}
    (named : span.spanId = stream.spanId)
    (isOf : ∃ activation ∈ activations, span.IsOf activation) :
    BooksSound stack activations (recorded ++ [span])
      (front ++ stream.ended :: back) unreadable := by
  have waited : Owing stack (front ++ stream :: back) unreadable stream.spanId :=
    Or.inr (Or.inr ⟨stream, List.mem_append_right _ (List.mem_cons_self ..), rfl, unrecorded⟩)
  have settled := owing_ended sound unrecorded
  refine ⟨?_, ?_, ?_, sound.ended_streamOf, ids_of_ended front back stream ▸ sound.streamsDistinct,
    sound.unreadableOf, ids_of_ended front back stream ▸ sound.ended,
    fun other member waits => (sound.ended_notBoth other member waits).1⟩
  · intro activation member owing
    by_cases same : activation.spanId = stream.spanId
    · exact absurd (same ▸ owing) settled
    · have before := sound.none' activation member ((owing_of_ne same).mp owing)
      rw [List.map_append, List.count_append, before, List.map_singleton, named,
        List.count_singleton, if_neg (by simpa using fun equal => same equal.symm)]
  · intro activation member notOwing
    rw [List.map_append, List.count_append, List.map_singleton, named, List.count_singleton]
    by_cases same : activation.spanId = stream.spanId
    · rw [sound.none' activation member (same ▸ waited), if_pos (by simp [same])]
    · have before := sound.one activation member fun owing =>
        notOwing ((owing_of_ne same).mpr owing)
      rw [before, if_neg (by simpa using fun equal => same equal.symm)]
  · exact List.forall_mem_append.mpr ⟨sound.recordedFor, List.forall_mem_singleton.mpr isOf⟩

/-- A stream ends, and its span is lost. -/
theorem BooksSound.loseStream {front back : List (TracedStream Id)}
    {stream : TracedStream Id}
    (sound : BooksSound stack activations recorded (front ++ stream :: back) unreadable)
    (unrecorded : stream.recorded = false) :
    BooksSound stack activations recorded (front ++ stream.ended :: back)
      (unreadable ++ [stream.spanId]) := by
  have among : stream ∈ front ++ stream :: back :=
    List.mem_append_right _ (List.mem_cons_self ..)
  have settled := owing_ended sound unrecorded
  have owing_iff {current : Id} :
      Owing stack (front ++ stream.ended :: back)
          (unreadable ++ [stream.spanId]) current ↔
        Owing stack (front ++ stream :: back) unreadable current := by
    have more : Owing stack (front ++ stream.ended :: back)
        (unreadable ++ [stream.spanId]) current ↔ current = stream.spanId ∨
          Owing stack (front ++ stream.ended :: back) unreadable current := by
      simp only [Owing, List.mem_append, List.mem_singleton]
      grind
    by_cases same : current = stream.spanId
    · have waited : Owing stack (front ++ stream :: back) unreadable current :=
        Or.inr (Or.inr ⟨stream, among, same.symm, unrecorded⟩)
      exact iff_of_true (more.mpr (Or.inl same)) waited
    · rw [more, owing_of_ne same]
      simp only [same, false_or]
  refine ⟨fun activation member owing => sound.none' activation member (owing_iff.mp owing),
    fun activation member notOwing => sound.one activation member fun owing =>
      notOwing (owing_iff.mpr owing), sound.recordedFor, sound.ended_streamOf,
    ids_of_ended front back stream ▸ sound.streamsDistinct, ?_, ?_, ?_⟩
  · obtain ⟨activation, known, named, _⟩ := sound.streamOf stream among
    exact List.forall_mem_append.mpr ⟨sound.unreadableOf,
      List.forall_mem_singleton.mpr (named ▸ List.mem_map_of_mem known)⟩
  · intro around member
    have before := sound.ended around member
    have different : around ≠ stream.spanId := fun same =>
      before.1 (same ▸ List.mem_map_of_mem among)
    simp only [ids_of_ended, List.mem_append, List.mem_singleton, different, or_false]
    exact before
  · intro other member waits
    have facts := sound.ended_notBoth other member waits
    simp only [List.mem_append, List.mem_singleton, facts.2, or_false]
    exact facts.1

end Books

/-! ### What a run leaves -/

/-- Nothing that was logged is taken back. -/
structure Extends (before after : SdkState Id) : Prop where
  activations : before.activations ⊆ after.activations
  entries : before.entries <+: after.entries

theorem Extends.refl (state : SdkState Id) : state.Extends state :=
  ⟨fun _ member => member, List.prefix_refl _⟩

theorem Extends.trans {first second third : SdkState Id} (left : first.Extends second)
    (right : second.Extends third) : first.Extends third :=
  ⟨fun _ member => right.activations (left.activations member),
    left.entries.trans right.entries⟩

/-- The logs of activations and entries are those of another state. -/
theorem Extends.of_logs {before middle after : SdkState Id} (extends' : before.Extends middle)
    (activations : after.activations = middle.activations)
    (entries : after.entries = middle.entries) : before.Extends after :=
  ⟨activations ▸ extends'.activations, entries ▸ extends'.entries⟩

theorem extends_enter (activation : Activation Id) (entries : List (Entry Id))
    (state : SdkState Id) : state.Extends (state.enter activation entries) :=
  ⟨fun _ member => List.mem_append_left _ member, List.prefix_append _ _⟩

theorem extends_enterDrawn (uuid4 : Nat → Id) (stack : List Id) (state : SdkState Id) :
    state.Extends (state.drawn.enter (state.newActivation uuid4 stack) []) :=
  have drawn : state.Extends state.drawn := (Extends.refl state).of_logs rfl rfl
  drawn.trans (extends_enter _ _ state.drawn)

theorem EntersOnce.earlier {before after : SdkState Id} (once : after.EntersOnce)
    (extends' : before.Extends after) : before.EntersOnce :=
  List.Nodup.sublist (extends'.entries.sublist.map _) once

theorem recordOr_logs (spanId : Id) (span : Option (SpanData Id)) (state : SdkState Id) :
    (state.recordOr spanId span).activations = state.activations ∧
      (state.recordOr spanId span).entries = state.entries := by
  cases span <;> exact ⟨rfl, rfl⟩

theorem endCall_logs (client : Client) (activation : Activation Id) (reply : Reply)
    (ending : Ending) (state : SdkState Id) :
    (state.endCall client activation reply ending).activations = state.activations ∧
      (state.endCall client activation reply ending).entries = state.entries := by
  cases ending with
  | raised exception => exact recordOr_logs _ _ _
  | returned =>
      cases reply with
      | stream slot => exact ⟨rfl, rfl⟩
      | response readable => exact recordOr_logs _ _ _

theorem recordStream_logs (index : Nat) (readable : Bool) (ending : Ending)
    (state : SdkState Id) :
    (state.recordStream index readable ending).activations = state.activations ∧
      (state.recordStream index readable ending).entries = state.entries := by
  rw [recordStream]
  split
  · exact ⟨rfl, rfl⟩
  · split
    · exact ⟨rfl, rfl⟩
    · exact recordOr_logs _ _ _

theorem eval_extends (uuid4 : Nat → Id) (program : Program) (stack : List Id)
    (state : SdkState Id) : state.Extends (eval uuid4 stack program state).2 := by
  induction program generalizing stack state with
  | skip => exact Extends.refl state
  | raise exception => exact Extends.refl state
  | createSpan slot name => exact (Extends.refl state).of_logs rfl rfl
  | seq first second firstHypothesis secondHypothesis =>
      have left := firstHypothesis stack state
      rw [eval]
      split
      · exact left.trans (secondHypothesis stack _)
      · exact left
  | attempt catches body handler bodyHypothesis handlerHypothesis =>
      have left := bodyHypothesis stack state
      rw [eval]
      split
      · exact left
      · split
        · exact left.trans (handlerHypothesis stack _)
        · exact left
  | trace name body inductionHypothesis =>
      rw [eval]
      exact ((extends_enterDrawn uuid4 stack state).trans (inductionHypothesis _ _)).of_logs rfl rfl
  | withSpan slot body inductionHypothesis =>
      rw [eval]
      split
      · exact Extends.refl state
      · exact ((extends_enter _ _ state).trans (inductionHypothesis _ _)).of_logs rfl rfl
  | call client reply body inductionHypothesis =>
      have inner := (extends_enterDrawn uuid4 stack state).trans
        (inductionHypothesis ((state.newActivation uuid4 stack).spanId :: stack) _)
      have logs := endCall_logs client (state.newActivation uuid4 stack) reply
      rw [eval]
      exact inner.of_logs (logs _ (SdkState.leave _ state)).1 (logs _ (SdkState.leave _ state)).2
  | endStream slot readable body inductionHypothesis =>
      rw [eval]
      split
      · exact Extends.refl state
      · exact (inductionHypothesis stack state).of_logs (recordStream_logs _ _ _ _).1
          (recordStream_logs _ _ _ _).2

/-! ### Every step keeps the invariant -/

section Steps

variable [DecidableEq Id] {state : SdkState Id}

omit [DecidableEq Id] in
/-- The current trace id is that of the outermost activation, if there is any. -/
theorem TreeSound.current {traceId spanId : Option Id} {activations : List (Activation Id)}
    (sound : TreeSound stack traceId spanId activations) :
    stack = [] ∧ traceId = none ∨
      stack ≠ [] ∧ ∃ root, IsRoot activations root ∧ traceId = some root.traceId := by
  have context := sound.traceId
  cases last : stack.getLast? with
  | none =>
      rw [last] at context
      exact Or.inl ⟨List.getLast?_eq_none_iff.mp last, context⟩
  | some outermost =>
      rw [last] at context
      obtain ⟨root, isRoot, _, current⟩ := context
      exact Or.inr ⟨fun empty => by simp [empty] at last, root, isRoot, current⟩

omit [DecidableEq Id] in
theorem IdsSound.drawn (sound : IdsSound uuid4 state.draws state.slots state.activations) :
    IdsSound uuid4 state.drawn.draws state.slots state.activations := by
  have le : state.draws ≤ state.drawn.draws := Nat.le_add_right _ _
  exact ⟨fun activation member => ⟨(sound.activation activation member).1.mono le,
      (sound.activation activation member).2.mono le⟩,
    fun slot span assigned => ⟨(sound.slot slot span assigned).1.mono le,
      (sound.slot slot span assigned).2.mono le⟩, sound.distinct⟩

/-- A wrapped function and a patched call begin with new ids. -/
theorem begins_new (injective : Function.Injective uuid4) (sound : Sound uuid4 stack state) :
    Begins uuid4 stack state.drawn (state.newActivation uuid4 stack) [] := by
  have drawnOf := sound.ids.activation
  have lt : state.draws < state.drawn.draws := by
    show state.draws < state.draws + if state.currentTraceId.isSome then 1 else 2
    split <;> omega
  have outside : stack = [] → state.currentTraceId = none := fun empty => by
    rcases sound.tree.current with ⟨_, current⟩ | ⟨inside, _⟩
    · exact current
    · exact absurd empty inside
  have newTraceId : stack = [] →
      (state.newActivation uuid4 stack).traceId = uuid4 (state.draws + 1) := fun empty => by
    rw [newActivation, outside empty]
    rfl
  refine ⟨⟨state.draws, lt, rfl⟩, ?_, ?_, rfl, rfl, ?_, ?_, ?_, ?_, ?_⟩
  · rcases sound.tree.current with ⟨_, current⟩ | ⟨_, root, isRoot, current⟩
    · refine ⟨state.draws + 1, ?_, by rw [newActivation, current]; rfl⟩
      show state.draws + 1 < state.draws + if state.currentTraceId.isSome then 1 else 2
      rw [current]
      exact Nat.lt_succ_self _
    · have traceId : (state.newActivation uuid4 stack).traceId = root.traceId := by
        rw [newActivation, current]
        rfl
      exact traceId ▸ (drawnOf root isRoot.1).2.mono (Nat.le_of_lt lt)
  · intro member
    obtain ⟨activation, known, same⟩ := List.mem_map.mp member
    exact (drawnOf activation known).1.ne injective (Nat.le_refl _) same
  · intro traceId current
    have same : state.currentTraceId = some traceId := current
    rw [newActivation, same]
    rfl
  · intro slot span assigned same
    exact absurd same ((sound.ids.slot slot span assigned).1.ne injective (Nat.le_refl _))
  · intro empty slot span assigned _ same
    rw [newTraceId empty] at same
    exact absurd same ((sound.ids.slot slot span assigned).2.ne injective (Nat.le_succ _))
  · intro empty _ root isRoot same
    rw [newTraceId empty] at same
    exact (drawnOf root isRoot.1).2.ne injective (Nat.le_succ _) same
  · exact fun entry member => absurd member List.not_mem_nil

/-- A manual span begins, if it was not entered before. -/
theorem begins_manual (injective : Function.Injective uuid4) (sound : Sound uuid4 stack state)
    {slot : Nat} {span : ManualSpan Id} (assigned : state.slots slot = some span)
    (notEntered : span.spanId ∉ state.entries.map (·.spanId)) :
    Begins uuid4 stack state (state.manualActivation stack span)
      [⟨span.spanId, span.createdUnder, stack⟩] := by
  have own : span.spanId ∈ (state.entries ++
      [(⟨span.spanId, span.createdUnder, stack⟩ : Entry Id)]).map (·.spanId) := by
    rw [List.map_append]
    exact List.mem_append_right _ (List.mem_singleton.mpr rfl)
  have ownTraceId : stack = [] →
      (state.manualActivation stack span).traceId = span.traceId := fun empty => by
    rcases sound.tree.current with ⟨_, current⟩ | ⟨inside, _⟩
    · rw [manualActivation, current]
      rfl
    · exact absurd empty inside
  have drawn := sound.ids.slot slot span assigned
  refine ⟨drawn.1, ?_, ?_, rfl, rfl, ?_, ?_, ?_, ?_, ?_⟩
  · rcases sound.tree.current with ⟨empty, _⟩ | ⟨_, root, isRoot, current⟩
    · exact ownTraceId empty ▸ drawn.2
    · have traceId : (state.manualActivation stack span).traceId = root.traceId := by
        rw [manualActivation, current]
        rfl
      exact traceId ▸ (sound.ids.activation root isRoot.1).2
  · exact fun member => notEntered (sound.objects.entered slot span assigned member)
  · intro traceId current
    rw [manualActivation, current]
    rfl
  · exact fun _ _ _ same => same ▸ own
  · intro empty other span' assigned' made same
    rw [ownTraceId empty] at same
    have outside' := sound.objects.madeOutside other span' assigned' made
    by_cases inside : span.createdUnder = []
    · obtain ⟨⟨draw, trace, id⟩, _⟩ := sound.objects.madeOutside slot span assigned inside
      obtain ⟨⟨draw', trace', id'⟩, _⟩ := outside'
      have equal : draw = draw' := injective (trace.symm.trans (same.symm.trans trace'))
      rw [id', ← equal, ← id]
      exact own
    · obtain ⟨root, isRoot, trace, _⟩ := sound.objects.madeInside slot span assigned inside
      rw [List.map_append]
      exact List.mem_append_left _ (outside'.2 ⟨root, isRoot, trace.trans same.symm⟩)
  · intro empty where' root isRoot same
    rw [ownTraceId empty] at same
    have made : span.createdUnder = [] :=
      where' _ (List.mem_append_right _ (List.mem_singleton.mpr rfl)) empty
    exact notEntered ((sound.objects.madeOutside slot span assigned made).2 ⟨root, isRoot, same⟩)
  · intro entry member entered made
    rw [List.mem_singleton.mp member] at entered made
    obtain ⟨root, isRoot, trace, different⟩ := sound.objects.madeInside slot span assigned made
    have empty : stack = [] := entered
    exact ⟨empty, root, isRoot, trace.trans (ownTraceId empty).symm, different⟩

theorem Sound.drawn (sound : Sound uuid4 stack state) : Sound uuid4 stack state.drawn :=
  ⟨sound.ids.drawn, sound.tree, sound.books, sound.objects⟩

theorem Sound.enter {activation : Activation Id} {entries : List (Entry Id)}
    (sound : Sound uuid4 stack state) (begins : Begins uuid4 stack state activation entries) :
    Sound uuid4 (activation.spanId :: stack) (state.enter activation entries) :=
  ⟨sound.ids.begin begins, sound.tree.begin begins, sound.books.begin begins.fresh,
    sound.objects.begin begins⟩

omit [DecidableEq Id] in
/-- With the variables reset, they say again what is around. -/
theorem TreeSound.leave {id : Id} {traceId spanId innerTraceId innerSpanId : Option Id}
    {before after : List (Activation Id)} (outer : TreeSound stack traceId spanId before)
    (inner : TreeSound (id :: stack) innerTraceId innerSpanId after) (later : before ⊆ after) :
    TreeSound stack traceId spanId after := by
  refine ⟨inner.parent, inner.rooted, outer.spanId, ?_,
    fun around member => inner.running around (List.mem_cons_of_mem _ member)⟩
  have context := outer.traceId
  split
  · rename_i last
    rwa [last] at context
  · rename_i outermost last
    rw [last] at context
    obtain ⟨root, isRoot, facts⟩ := context
    exact ⟨root, isRoot.mono later, facts⟩

/-- What is known where an activation ends, before anything is recorded. -/
structure Ends (uuid4 : Nat → Id) (stack : List Id) (activation : Activation Id)
    (after : SdkState Id) : Prop where
  ids : IdsSound uuid4 after.draws after.slots after.activations
  tree : TreeSound stack after.currentTraceId after.currentSpanId after.activations
  books : BooksSound (activation.spanId :: stack) after.activations after.recorded after.streams
    after.unreadable
  objects : ObjectsSound uuid4 after.slots after.activations after.entries
  outside : activation.spanId ∉ stack
  known : activation ∈ after.activations

theorem Ends.of_run {activation : Activation Id} {after : SdkState Id}
    (outer : Sound uuid4 stack state) (fresh : activation.spanId ∉ state.activations.map (·.spanId))
    (inner : Sound uuid4 (activation.spanId :: stack) after)
    (later : state.activations ⊆ after.activations) (known : activation ∈ after.activations) :
    Ends uuid4 stack activation (after.leave state) :=
  ⟨inner.ids, outer.tree.leave inner.tree later, inner.books, inner.objects,
    fun around => fresh (outer.tree.running _ around), known⟩

theorem Ends.record {activation : Activation Id} {after : SdkState Id}
    (ends : Ends uuid4 stack activation after) (name provider : String) (error : Option String) :
    Sound uuid4 stack (after.record (activation.span name provider error)) :=
  ⟨ends.ids, ends.tree, ends.books.record ends.outside rfl
    ⟨activation, ends.known, rfl, rfl, rfl⟩, ends.objects⟩

theorem Ends.lose {activation : Activation Id} {after : SdkState Id}
    (ends : Ends uuid4 stack activation after) :
    Sound uuid4 stack (after.recordOr activation.spanId none) :=
  ⟨ends.ids, ends.tree, ends.books.lose ends.outside (List.mem_map_of_mem ends.known),
    ends.objects⟩

theorem Ends.endCall {activation : Activation Id} {after : SdkState Id}
    (ends : Ends uuid4 stack activation after) (client : Client) (reply : Reply)
    (ending : Ending) : Sound uuid4 stack (after.endCall client activation reply ending) := by
  cases ending with
  | raised exception => exact ends.record _ _ _
  | returned =>
      cases reply with
      | stream slot =>
          exact ⟨ends.ids, ends.tree, ends.books.addStream ends.outside rfl rfl
            ⟨activation, ends.known, rfl, rfl, rfl⟩, ends.objects⟩
      | response readable =>
          cases readable with
          | true => exact ends.record _ _ _
          | false => exact ends.lose

/-- A stream that ends a second time changes nothing. -/
theorem Sound.recordStream (sound : Sound uuid4 stack state) (index : Nat) (readable : Bool)
    (ending : Ending) : Sound uuid4 stack (state.recordStream index readable ending) := by
  rw [SdkState.recordStream]
  split
  · exact sound
  · rename_i stream found
    split
    · exact sound
    · rename_i unrecorded
      have waits : stream.recorded = false := by simpa using unrecorded
      obtain ⟨below, there⟩ := List.getElem?_eq_some_iff.mp found
      obtain ⟨front, back, split', _, ended⟩ :
          ∃ front back, state.streams = front ++ stream :: back ∧ front.length = index ∧
            state.streams.set index stream.ended = front ++ stream.ended :: back :=
        there ▸ List.exists_of_set below
      have books := sound.books
      rw [split'] at books
      cases readable with
      | true =>
          obtain ⟨activation, known, spanId, traceId, parent⟩ :=
            books.streamOf stream (List.mem_append_right _ (List.mem_cons_self ..))
          let span : SpanData Id := ⟨stream.traceId, stream.spanId, stream.client.spanName,
            stream.client.provider, stream.parentSpanId, clientError ending⟩
          have isOf : span.IsOf activation := ⟨spanId, traceId, parent⟩
          have recorded := books.recordStream waits (rfl : span.spanId = stream.spanId)
            ⟨activation, known, isOf⟩
          exact ⟨sound.ids, sound.tree, ended ▸ recorded, sound.objects⟩
      | false => exact ⟨sound.ids, sound.tree, ended ▸ books.loseStream waits, sound.objects⟩

omit [DecidableEq Id] in
/-- The variable of a new manual span, or another one as it was. -/
theorem setSlot_cases {slot other : Nat} {span found : ManualSpan Id}
    (assigned : (state.setSlot slot span).slots other = some found) :
    found = span ∨ state.slots other = some found := by
  have value : (if other = slot then some span else state.slots other) = some found := assigned
  split at value
  · exact Or.inl (Option.some.inj value).symm
  · exact Or.inr value

/-- The ids of a new manual span, outside and inside of an activation. -/
theorem newManualSpan_cases (sound : Sound uuid4 stack state) (name : String) :
    (stack = [] ∧ (state.newManualSpan uuid4 stack name).traceId = uuid4 state.draws ∧
        (state.newManualSpan uuid4 stack name).spanId = uuid4 (state.draws + 1) ∧
        state.drawn.draws = state.draws + 2) ∨
      (stack ≠ [] ∧ (∃ root, IsRoot state.activations root ∧
          (state.newManualSpan uuid4 stack name).traceId = root.traceId) ∧
        (state.newManualSpan uuid4 stack name).spanId = uuid4 state.draws ∧
        state.drawn.draws = state.draws + 1) := by
  rcases sound.tree.current with ⟨empty, current⟩ | ⟨inside, root, isRoot, current⟩
  · exact Or.inl (by simp [newManualSpan, SdkState.drawn, current, empty])
  · refine Or.inr ⟨inside, ⟨root, isRoot, ?_⟩, ?_, ?_⟩ <;>
      simp [newManualSpan, SdkState.drawn, current]

omit [DecidableEq Id] in
theorem newManualSpan_createdUnder (uuid4 : Nat → Id) (stack : List Id) (name : String)
    (state : SdkState Id) : (state.newManualSpan uuid4 stack name).createdUnder = stack := by
  rw [newManualSpan]
  split <;> rfl

/-- A new manual span is known to no activation yet. -/
theorem Sound.createSpan (injective : Function.Injective uuid4) (sound : Sound uuid4 stack state)
    (slot : Nat) (name : String) :
    Sound uuid4 stack (state.drawn.setSlot slot (state.newManualSpan uuid4 stack name)) := by
  have drawnSound := sound.drawn
  have made := newManualSpan_createdUnder uuid4 stack name state
  have ids := newManualSpan_cases sound name
  generalize state.newManualSpan uuid4 stack name = span at ids made ⊢
  -- Whichever draw it was, the span id is new.
  have fresh : ∀ activation ∈ state.activations, activation.spanId ≠ span.spanId := by
    intro activation known
    have before := (sound.ids.activation activation known).1
    rcases ids with ⟨_, _, spanId, _⟩ | ⟨_, _, spanId, _⟩
    · exact spanId ▸ before.ne injective (Nat.le_succ _)
    · exact spanId ▸ before.ne injective (Nat.le_refl _)
  refine ⟨⟨drawnSound.ids.activation, ?_, sound.ids.distinct⟩, sound.tree, sound.books,
    ⟨?_, ?_, ?_, sound.objects.apart, sound.objects.clash⟩⟩
  · intro other found assigned
    rcases setSlot_cases assigned with rfl | before
    · rcases ids with ⟨_, traceId, spanId, draws⟩ | ⟨_, ⟨root, isRoot, traceId⟩, spanId, draws⟩
      · exact ⟨⟨state.draws + 1, by show _ < state.drawn.draws; omega, spanId⟩,
          ⟨state.draws, by show _ < state.drawn.draws; omega, traceId⟩⟩
      · exact ⟨⟨state.draws, by show _ < state.drawn.draws; omega, spanId⟩,
          traceId ▸ (drawnSound.ids.activation root isRoot.1).2⟩
    · exact drawnSound.ids.slot other found before
  · intro other found assigned member
    rcases setSlot_cases assigned with rfl | before
    · obtain ⟨activation, known, same⟩ := List.mem_map.mp member
      exact absurd same (fresh activation known)
    · exact sound.objects.entered other found before member
  · intro other found assigned outside
    rcases setSlot_cases assigned with rfl | before
    · rcases ids with ⟨_, traceId, spanId, _⟩ | ⟨inside, _⟩
      · refine ⟨⟨state.draws, traceId, spanId⟩, ?_⟩
        rintro ⟨root, isRoot, same⟩
        exact absurd (same.trans traceId)
          ((sound.ids.activation root isRoot.1).2.ne injective (Nat.le_refl _))
      · exact absurd (made.symm.trans outside) inside
    · exact sound.objects.madeOutside other found before outside
  · intro other found assigned inside
    rcases setSlot_cases assigned with rfl | before
    · rcases ids with ⟨empty, _⟩ | ⟨_, ⟨root, isRoot, traceId⟩, _⟩
      · exact absurd (made.trans empty) inside
      · exact ⟨root, isRoot, traceId.symm, fresh root isRoot.1⟩
    · exact sound.objects.madeInside other found before inside

end Steps

/-- Induction on the program: in a run that enters each manual span once, the invariant holds
wherever a part of it ends. -/
theorem eval_sound [DecidableEq Id] (injective : Function.Injective uuid4) (program : Program)
    {stack : List Id} {state : SdkState Id} (sound : Sound uuid4 stack state)
    (once : (eval uuid4 stack program state).2.EntersOnce) :
    Sound uuid4 stack (eval uuid4 stack program state).2 := by
  induction program generalizing stack state with
  | skip => exact sound
  | raise exception => exact sound
  | createSpan slot name => exact sound.createSpan injective slot name
  | seq first second firstHypothesis secondHypothesis =>
      rw [eval] at once ⊢
      split at once
      · have earlier := once.earlier (eval_extends uuid4 second stack _)
        exact secondHypothesis (firstHypothesis sound earlier) once
      · exact firstHypothesis sound once
  | attempt catches body handler bodyHypothesis handlerHypothesis =>
      rw [eval] at once ⊢
      split at once
      · exact bodyHypothesis sound once
      · split at once
        · rename_i caught
          have earlier := once.earlier (eval_extends uuid4 handler stack _)
          rw [if_pos caught]
          exact handlerHypothesis (bodyHypothesis sound earlier) once
        · rename_i uncaught
          rw [if_neg uncaught]
          exact bodyHypothesis sound once
  | trace name body inductionHypothesis =>
      have begins := begins_new injective sound
      rw [eval] at once ⊢
      have inner := inductionHypothesis (sound.drawn.enter begins) once
      have later := (eval_extends uuid4 body
        ((state.newActivation uuid4 stack).spanId :: stack)
        (state.drawn.enter (state.newActivation uuid4 stack) [])).activations
      have ends := Ends.of_run sound begins.fresh inner
        (fun _ member => later (List.mem_append_left _ member))
        (later (List.mem_append_right _ (List.mem_singleton.mpr rfl)))
      exact ends.record _ _ _
  | withSpan slot body inductionHypothesis =>
      rw [eval] at once ⊢
      split at once
      · exact sound
      · rename_i span assigned
        have extends' := eval_extends uuid4 body (span.spanId :: stack)
          (state.enter (state.manualActivation stack span)
            [⟨span.spanId, span.createdUnder, stack⟩])
        have innerOnce : (eval uuid4 (span.spanId :: stack) body
            (state.enter (state.manualActivation stack span)
              [⟨span.spanId, span.createdUnder, stack⟩])).2.EntersOnce := once
        have notEntered : span.spanId ∉ state.entries.map (·.spanId) := by
          have distinct : ((state.entries ++
              [(⟨span.spanId, span.createdUnder, stack⟩ : Entry Id)]).map (·.spanId)).Nodup :=
            innerOnce.earlier extends'
          rw [List.map_append, List.nodup_append] at distinct
          exact fun member => distinct.2.2 _ member _ (List.mem_singleton.mpr rfl) rfl
        have begins := begins_manual injective sound assigned notEntered
        have inner := inductionHypothesis (sound.enter begins) innerOnce
        have later := extends'.activations
        have ends := Ends.of_run sound begins.fresh inner
          (fun _ member => later (List.mem_append_left _ member))
          (later (List.mem_append_right _ (List.mem_singleton.mpr rfl)))
        exact ends.record _ _ _
  | call client reply body inductionHypothesis =>
      have begins := begins_new injective sound
      have extends' := eval_extends uuid4 body
        ((state.newActivation uuid4 stack).spanId :: stack)
        (state.drawn.enter (state.newActivation uuid4 stack) [])
      rw [eval] at once ⊢
      have innerOnce := once.earlier ((Extends.refl _).of_logs
        (endCall_logs client _ reply _ (SdkState.leave _ state)).1
        (endCall_logs client _ reply _ (SdkState.leave _ state)).2)
      have inner := inductionHypothesis (sound.drawn.enter begins) innerOnce
      have later := extends'.activations
      have ends := Ends.of_run sound begins.fresh inner
        (fun _ member => later (List.mem_append_left _ member))
        (later (List.mem_append_right _ (List.mem_singleton.mpr rfl)))
      exact ends.endCall client reply _
  | endStream slot readable body inductionHypothesis =>
      rw [eval] at once ⊢
      split at once
      · exact sound
      · rename_i index kept
        have innerOnce := once.earlier ((Extends.refl _).of_logs
          (recordStream_logs index readable _ _).1 (recordStream_logs index readable _ _).2)
        exact (inductionHypothesis sound innerOnce).recordStream index readable _

/-! ### Whole runs -/

section Runs

variable [DecidableEq Id] {state : SdkState Id}

theorem sound_start (uuid4 : Nat → Id) : Sound uuid4 [] (start : SdkState Id) where
  ids := ⟨by simp [start], by simp [start], by simp [start]⟩
  tree := ⟨by simp [start], by simp [start], rfl, rfl, by simp⟩
  books := ⟨by simp [start], by simp [start], by simp [start], by simp [start], by simp [start],
    by simp [start], by simp, by simp [start]⟩
  objects := ⟨by simp [start], by simp [start], by simp [start], by simp [start, IsRoot],
    by simp [start]⟩

omit [DecidableEq Id] in
theorem IsRoot.root_eq {activations : List (Activation Id)} {root : Activation Id}
    (isRoot : IsRoot activations root) : root.root = root.spanId := by
  rw [Activation.root, isRoot.2]
  rfl

omit [DecidableEq Id] in
/-- Outside of all activations, an id owes its span to a stream, or has lost it. -/
theorem owing_outside {streams : List (TracedStream Id)} {unreadable : List Id} {id : Id} :
    Owing [] streams unreadable id ↔
      id ∈ unreadable ∨ ∃ stream ∈ streams, stream.spanId = id ∧ stream.recorded = false := by
  simp only [Owing, List.not_mem_nil, false_or]

theorem Sound.faithful (sound : Sound uuid4 [] state) (where' : EntersWhereMade state.entries)
    (read : state.unreadable = []) : state.Faithful where
  distinct := sound.ids.distinct
  once activation known settled := by
    refine sound.books.one activation known fun owing => ?_
    rcases owing_outside.mp owing with lost | waits
    · exact absurd (read ▸ lost) List.not_mem_nil
    · exact settled waits
  notYet activation known waits :=
    sound.books.none' activation known (owing_outside.mpr (Or.inr waits))
  recordedFor := sound.books.recordedFor
  parent := sound.tree.parent
  sameTrace first left second right same := by
    obtain ⟨root, isRoot, named, trace⟩ := sound.tree.rooted first left
    obtain ⟨root', isRoot', named', trace'⟩ := sound.tree.rooted second right
    have equal : root = root' :=
      sound.ids.unique isRoot.1 isRoot'.1 (named.symm.trans (same.trans named'))
    rw [trace, trace', equal]
  otherTrace first left second right different same := by
    obtain ⟨root, isRoot, named, trace⟩ := sound.tree.rooted first left
    obtain ⟨root', isRoot', named', trace'⟩ := sound.tree.rooted second right
    have equal := sound.objects.apart where' root root' isRoot isRoot'
      (trace.symm.trans (same.trans trace'))
    exact different (named.trans (equal.trans named'.symm))
  restored := ⟨sound.tree.traceId, sound.tree.spanId⟩

/-- A manual span that is entered outside, but was made inside, shares the trace of another
outermost activation. -/
theorem Sound.entersWhereMade (sound : Sound uuid4 [] state) (faithful : state.Faithful) :
    EntersWhereMade state.entries := by
  intro entry member entered
  by_contra made
  obtain ⟨first, second, left, right, same, different⟩ :=
    sound.objects.clash entry member entered made
  have apart : first.root ≠ second.root := by
    rw [left.root_eq, right.root_eq]
    exact different
  exact faithful.otherTrace first left.1 second right.1 apart same

/-- An activation that has lost its span has none. -/
theorem Sound.unreadable_nil (sound : Sound uuid4 [] state) (faithful : state.Faithful) :
    state.unreadable = [] := by
  rw [List.eq_nil_iff_forall_not_mem]
  intro id lost
  obtain ⟨activation, known, rfl⟩ := List.mem_map.mp (sound.books.unreadableOf id lost)
  have none' := sound.books.none' activation known (owing_outside.mpr (Or.inl lost))
  have settled : ¬ state.Awaits activation.spanId := by
    rintro ⟨stream, member, same, waits⟩
    exact sound.books.notBoth stream member waits (same ▸ lost)
  have one : (state.recorded.map (·.spanId)).count activation.spanId = 1 :=
    faithful.once activation known settled
  omega

end Runs

end SdkState

/-- The run of an application, from no activation at all. -/
def run (uuid4 : Nat → Id) (program : Program) : SdkState Id :=
  (eval uuid4 [] program SdkState.start).2

/-- A run that enters each manual span once records a faithful tree exactly if no manual span
that was made inside an activation is entered outside all of them, and every response and
stream that ended could be read. -/
theorem run_faithful_iff [DecidableEq Id] {uuid4 : Nat → Id}
    (injective : Function.Injective uuid4) (program : Program)
    (once : (run uuid4 program).EntersOnce) :
    (run uuid4 program).Faithful ↔
      SdkState.EntersWhereMade (run uuid4 program).entries ∧
        (run uuid4 program).unreadable = [] := by
  have sound := SdkState.eval_sound injective program (SdkState.sound_start uuid4) once
  constructor
  · exact fun faithful => ⟨sound.entersWhereMade faithful, sound.unreadable_nil faithful⟩
  · exact fun conditions => sound.faithful conditions.1 conditions.2

/-- A request with a block around a patched call that fails, and a stream that is read after
the request. -/
def answered : Program :=
  .seq
    (.trace "request" (.seq (.createSpan 0 "step")
      (.seq
        (.withSpan 0 (.attempt (fun _ => true) (.call .openai (.response true) (.raise nameError))
          .skip))
        (.call .anthropic (.stream 0) .skip))))
    (.endStream 0 true .skip)

theorem run_faithful_iff_answered :
    Function.Injective (id : Nat → Nat) ∧ (run id answered).EntersOnce ∧
      ((run id answered).Faithful ↔
        SdkState.EntersWhereMade (run id answered).entries ∧ (run id answered).unreadable = []) :=
  ⟨Function.injective_id, by decide, run_faithful_iff Function.injective_id answered (by decide)⟩

/-- A block that is made inside a request and entered after it. -/
def deferred : Program :=
  .seq (.trace "request" (.createSpan 0 "later")) (.withSpan 0 .skip)

/-- The two outermost activations share a trace. -/
theorem run_deferred_not_faithful :
    Function.Injective (id : Nat → Nat) ∧ (run id deferred).EntersOnce ∧
      ¬ (run id deferred).Faithful := by
  refine ⟨Function.injective_id, by decide, fun faithful => ?_⟩
  have request : (⟨1, 0, none, []⟩ : Activation Nat) ∈ (run id deferred).activations :=
    List.mem_cons_self ..
  have later : (⟨1, 2, none, []⟩ : Activation Nat) ∈ (run id deferred).activations :=
    List.mem_cons_of_mem _ (List.mem_cons_self ..)
  exact faithful.otherTrace _ request _ later (by decide) rfl

end LlmObs.Sdk
