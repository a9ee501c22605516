import Mathlib.Algebra.GroupWithZero.Nat
import Mathlib.Data.List.Induction
import ObjectQuery.Table.Lemmas
import ObjectQuery.Workspace.Basic

/-!
Reports are tallies. Each counter says how many events of its kind there were, as far as it can
count, and the order in which they came leaves no trace. While no counter is full, the counts by
entry point and by entity add up to the counts over all.
-/
namespace ObjectQuery

inductive Feed where
  | event (e : Event)
  | reset
  deriving DecidableEq, Repr

def Feed.event? : Feed → Option Event
  | event e => some e
  | reset => none

/-- The events that have come since the last reset, oldest first. -/
def sinceReset (feeds : List Feed) : List Event :=
  ((feeds.reverse.takeWhile (· ≠ .reset)).filterMap Feed.event?).reverse

namespace Report

def feed (r : Report) : Feed → Report
  | .event e => r.record e
  | .reset => {}

def ofFeeds (feeds : List Feed) : Report := feeds.foldl feed {}

end Report

/-- A count that stops at the greatest number. -/
def tally (p : Event → Bool) (events : List Event) : UInt64 :=
  .ofNat (min (UInt64.size - 1) (events.countP p))

inductive Counter where
  | buildersOpened
  | buildersClosed
  | buildersReleasedOnDrop
  | conditionsAdded
  | queriesCompiled
  | queriesClosed
  | queriesReleasedOnDrop
  | engineRejections
  | useAfterClose
  deriving DecidableEq, Repr

/-- Whether a counter counts an event. A release on drop is counted as a close too. -/
def Counter.counts : Counter → Event → Bool
  | buildersOpened, .builderOpened _ => true
  | buildersClosed, .builderClosed _ _ => true
  | buildersReleasedOnDrop, .builderClosed _ onDrop => onDrop
  | conditionsAdded, .conditionAdded _ _ => true
  | queriesCompiled, .queryCompiled _ => true
  | queriesClosed, .queryClosed _ _ => true
  | queriesReleasedOnDrop, .queryClosed _ onDrop => onDrop
  | engineRejections, .engineRejected _ _ => true
  | useAfterClose, .useAfterClose _ => true
  | _, _ => false

def Totals.read (t : Totals) : Counter → UInt64
  | .buildersOpened => t.buildersOpened
  | .buildersClosed => t.buildersClosed
  | .buildersReleasedOnDrop => t.buildersReleasedOnDrop
  | .conditionsAdded => t.conditionsAdded
  | .queriesCompiled => t.queriesCompiled
  | .queriesClosed => t.queriesClosed
  | .queriesReleasedOnDrop => t.queriesReleasedOnDrop
  | .engineRejections => t.engineRejections
  | .useAfterClose => t.useAfterClose

inductive EntityCounter where
  | buildersOpened
  | conditionsAdded
  | queriesCompiled
  | engineRejections
  deriving DecidableEq, Repr

def EntityCounter.overall : EntityCounter → Counter
  | buildersOpened => .buildersOpened
  | conditionsAdded => .conditionsAdded
  | queriesCompiled => .queriesCompiled
  | engineRejections => .engineRejections

/-- Whether a counter of the entity of this name counts an event. -/
def EntityCounter.counts (name : String) : EntityCounter → Event → Bool
  | buildersOpened, .builderOpened entity => entity == name
  | conditionsAdded, .conditionAdded entity _ => entity == name
  | queriesCompiled, .queryCompiled entity => entity == name
  | engineRejections, .engineRejected entity _ => entity == name
  | _, _ => false

def EntityTotals.read (t : EntityTotals) : EntityCounter → UInt64
  | .buildersOpened => t.buildersOpened
  | .conditionsAdded => t.conditionsAdded
  | .queriesCompiled => t.queriesCompiled
  | .engineRejections => t.engineRejections

namespace Event

/-- Whether an event makes an entry for the entity of this name. -/
def enters (name : String) : Event → Bool
  | builderOpened entity | queryCompiled entity => entity == name
  | conditionAdded entity _ | engineRejected entity _ => entity == name
  | builderClosed _ _ | queryClosed _ _ | useAfterClose _ => false

def addsAt (label : String) : Event → Bool
  | conditionAdded _ op => op.label == label
  | _ => false

def adds (op : EngineOp) : Event → Bool
  | conditionAdded _ op' => op' == op
  | _ => false

end Event

section Tally

variable {p : Event → Bool} {events events' : List Event}

theorem toNat_tally (p : Event → Bool) (events : List Event) :
    (tally p events).toNat = min (UInt64.size - 1) (events.countP p) := by
  rw [tally, UInt64.toNat_ofNat_of_lt']
  have positive : 0 < UInt64.size := by decide
  omega

theorem toNat_tally_of_few (few : events.length < UInt64.size) :
    (tally p events).toNat = events.countP p := by
  have within : events.countP p ≤ events.length := List.countP_le_length
  rw [toNat_tally]
  omega

theorem tally_concat (p : Event → Bool) (events : List Event) (e : Event) :
    tally p (events ++ [e]) = if p e then countUp (tally p events) else tally p events := by
  apply UInt64.toNat_inj.mp
  rw [toNat_tally, List.countP_append, List.countP_singleton]
  split
  · rw [toNat_countUp, toNat_tally]
    omega
  · rw [toNat_tally]
    omega

theorem tally_perm (p : Event → Bool) (perm : events.Perm events') :
    tally p events = tally p events' := by
  rw [tally, tally, perm.countP_eq]

theorem toNat_countUp_tally (few : events.length + 1 < UInt64.size) :
    (countUp (tally p events)).toNat = (tally p events).toNat + 1 := by
  have within : events.countP p ≤ events.length := List.countP_le_length
  rw [toNat_countUp, toNat_tally]
  omega

end Tally

section Record

variable {t u : Totals} {e : Event} {name : String}

theorem Totals.read_record (t : Totals) (e : Event) (c : Counter) :
    (t.record e).read c = if c.counts e then countUp (t.read c) else t.read c := by
  cases e with
  | builderClosed entity onDrop | queryClosed entity onDrop => cases c <;> cases onDrop <;> rfl
  | _ => cases c <;> rfl

theorem Totals.eq_of_read (same : ∀ c, t.read c = u.read c) : t = u := by
  obtain ⟨a, b, c, d, e, f, g, h, i⟩ := t
  obtain ⟨a', b', c', d', e', f', g', h', i'⟩ := u
  rw [Totals.mk.injEq]
  exact ⟨same .buildersOpened, same .buildersClosed, same .buildersReleasedOnDrop,
    same .conditionsAdded, same .queriesCompiled, same .queriesClosed,
    same .queriesReleasedOnDrop, same .engineRejections, same .useAfterClose⟩

theorem EntityTotals.eq_of_read {t u : EntityTotals} (same : ∀ c, t.read c = u.read c) :
    t = u := by
  obtain ⟨a, b, c, d⟩ := t
  obtain ⟨a', b', c', d'⟩ := u
  rw [EntityTotals.mk.injEq]
  exact ⟨same .buildersOpened, same .conditionsAdded, same .queriesCompiled,
    same .engineRejections⟩

theorem EntityTotals.record?_of_idle (t : EntityTotals) (idle : e.enters e.entity = false) :
    t.record? e = none := by
  cases e with
  | builderClosed | queryClosed | useAfterClose => rfl
  | _ => simp [Event.enters, Event.entity] at idle

theorem EntityTotals.record?_of_enters (t : EntityTotals) (enters : e.enters name = true) :
    ∃ u, t.record? e = some u ∧
      ∀ c, u.read c = if EntityCounter.counts name c e then countUp (t.read c) else t.read c := by
  cases e with
  | builderClosed | queryClosed | useAfterClose => contradiction
  | _ =>
    have named := beq_iff_eq.mp enters
    refine ⟨_, rfl, ?_⟩
    intro c
    cases c <;> simp [EntityCounter.counts, EntityTotals.read, named]

theorem EntityCounter.idle (idle : e.enters name = false) (c : EntityCounter) :
    c.counts name e = false := by
  cases e with
  | builderClosed | queryClosed | useAfterClose => cases c <;> rfl
  | _ => cases c <;> first | rfl | exact idle

/-- Over all entities an event counts once, for its own. -/
theorem EntityCounter.counts_entity (c : EntityCounter) (e : Event) :
    c.counts e.entity e = c.overall.counts e := by
  cases e <;> cases c <;> simp [counts, overall, Counter.counts, Event.entity]

theorem Event.addsAt_iff (e : Event) (label : String) : e.addsAt label = true ↔
    ∃ entity op, e = .conditionAdded entity op ∧ op.label = label := by
  cases e <;> simp [addsAt]

theorem Event.enters_iff (e : Event) (name : String) : e.enters name = true ↔
    e = .builderOpened name ∨ (∃ op, e = .conditionAdded name op) ∨ e = .queryCompiled name ∨
      ∃ op, e = .engineRejected name op := by
  cases e <;> simp [enters]

end Record

section Table

variable {κ α : Type} [Ord κ] [Std.LawfulEqOrd κ] [DecidableEq κ] [Std.TransOrd κ]

def Table.total (t : Table κ α) (weigh : α → Nat) : Nat := (t.entries.map fun e => weigh e.2).sum

theorem Table.sum_place {k : κ} {l : List (κ × α)} (a : α) (weigh : α → Nat)
    (ascending : l.Pairwise fun a b => compare a.1 b.1 = .lt) :
    ((place k a l).map fun e => weigh e.2).sum + ((lookUp k l).map weigh).getD 0 =
      (l.map fun e => weigh e.2).sum + weigh a := by
  induction l with
  | nil => simp [place, lookUp]
  | cons head rest ih =>
    obtain ⟨key, b⟩ := head
    obtain ⟨below, tail⟩ := List.pairwise_cons.mp ascending
    simp only [place]
    split
    · rename_i lt
      have absent : lookUp k ((key, b) :: rest) = none := by
        apply lookUp_eq_none_of_below
        intro e member
        rcases List.mem_cons.mp member with rfl | later
        · exact lt
        · exact Std.TransCmp.lt_trans lt (below e later)
      simp [absent]
      omega
    · rename_i eq
      simp [lookUp_cons, (compare_eq_iff.mp eq).symm]
      omega
    · rename_i gt
      have differ : key ≠ k := by
        rintro rfl
        simp at gt
      have rest_sum := ih tail
      rw [lookUp_cons, if_neg differ]
      simp only [List.map_cons, List.sum_cons]
      omega

theorem Table.total_insert (t : Table κ α) (k : κ) (a : α) (weigh : α → Nat) :
    (t.insert k a).total weigh + ((t.get? k).map weigh).getD 0 = t.total weigh + weigh a :=
  sum_place a weigh t.ascending

end Table

theorem eq_of_isSome_of_getD {α : Type} {o o' : Option α} (default : α)
    (present : o.isSome = o'.isSome) (same : o.getD default = o'.getD default) : o = o' := by
  cases o <;> cases o' <;> simp_all

namespace Report

variable {events events' : List Event} {e : Event}

theorem ofEvents_concat (events : List Event) (e : Event) :
    ofEvents (events ++ [e]) = (ofEvents events).record e := by
  rw [ofEvents, List.foldl_append]
  rfl

theorem conditions_concat (events : List Event) (e : Event) :
    (ofEvents (events ++ [e])).conditions = recordCondition (ofEvents events).conditions e := by
  rw [ofEvents_concat]
  rfl

theorem entities_concat (events : List Event) (e : Event) :
    (ofEvents (events ++ [e])).entities = recordEntity (ofEvents events).entities e := by
  rw [ofEvents_concat]
  rfl

theorem read_ofEvents (events : List Event) (c : Counter) :
    (ofEvents events).totals.read c = tally c.counts events := by
  induction events using List.reverseRecOn with
  | nil => cases c <;> rfl
  | append_singleton earlier e ih =>
    rw [ofEvents_concat, tally_concat, ← ih]
    exact Totals.read_record _ e c

theorem read_ofEvents_of_few (few : events.length < UInt64.size) (c : Counter) :
    ((ofEvents events).totals.read c).toNat = events.countP c.counts := by
  rw [read_ofEvents, toNat_tally_of_few few]

theorem get?_recordCondition (conditions : Table String UInt64) (e : Event) (label : String) :
    (recordCondition conditions e).get? label =
      if e.addsAt label then some (countUp ((conditions.get? label).getD 0))
      else conditions.get? label := by
  cases e with
  | conditionAdded entity op =>
    simp only [recordCondition, Table.get?_alter, Event.addsAt, beq_iff_eq]
    split
    · rename_i same
      rw [same]
    · rfl
  | _ => rfl

theorem isSome_conditions (events : List Event) (label : String) :
    ((ofEvents events).conditions.get? label).isSome = events.any (·.addsAt label) := by
  induction events using List.reverseRecOn with
  | nil => rfl
  | append_singleton earlier e ih =>
    rw [conditions_concat, get?_recordCondition, List.any_append, ← ih]
    cases adds : e.addsAt label <;> simp [adds]

theorem isSome_conditions_iff (events : List Event) (label : String) :
    ((ofEvents events).conditions.get? label).isSome ↔
      ∃ entity op, .conditionAdded entity op ∈ events ∧ op.label = label := by
  rw [isSome_conditions, List.any_eq_true]
  constructor
  · rintro ⟨e, member, adds⟩
    obtain ⟨entity, op, rfl, same⟩ := (e.addsAt_iff label).mp adds
    exact ⟨entity, op, member, same⟩
  · rintro ⟨entity, op, member, same⟩
    exact ⟨_, member, (Event.addsAt_iff _ label).mpr ⟨entity, op, rfl, same⟩⟩

theorem getD_conditions (events : List Event) (label : String) :
    ((ofEvents events).conditions.get? label).getD 0 = tally (·.addsAt label) events := by
  induction events using List.reverseRecOn with
  | nil => rfl
  | append_singleton earlier e ih =>
    rw [conditions_concat, get?_recordCondition, tally_concat, ← ih]
    split <;> rfl

theorem get?_recordEntity (entities : Table String EntityTotals) (e : Event) (name : String) :
    (recordEntity entities e).get? name =
      if e.enters name then ((entities.get? name).getD {}).record? e else entities.get? name := by
  cases e with
  | builderClosed | queryClosed | useAfterClose => rfl
  | _ =>
    simp only [recordEntity, EntityTotals.record?, Event.entity, Table.get?_insert, Event.enters,
      beq_iff_eq]
    split
    · rename_i same
      rw [same]
    · rfl

theorem isSome_entities (events : List Event) (name : String) :
    ((ofEvents events).entities.get? name).isSome = events.any (·.enters name) := by
  induction events using List.reverseRecOn with
  | nil => rfl
  | append_singleton earlier e ih =>
    rw [entities_concat, get?_recordEntity, List.any_append, ← ih]
    cases enters : e.enters name with
    | false => simp [enters]
    | true =>
      obtain ⟨u, recorded, -⟩ := EntityTotals.record?_of_enters
        (((ofEvents earlier).entities.get? name).getD {}) enters
      simp [recorded, enters]

theorem isSome_entities_iff (events : List Event) (name : String) :
    ((ofEvents events).entities.get? name).isSome ↔
      .builderOpened name ∈ events ∨ (∃ op, .conditionAdded name op ∈ events) ∨
        .queryCompiled name ∈ events ∨ ∃ op, .engineRejected name op ∈ events := by
  rw [isSome_entities, List.any_eq_true]
  simp only [Event.enters_iff, and_or_left, exists_or, exists_eq_right]
  grind

theorem read_entities (events : List Event) (name : String) (c : EntityCounter) :
    (((ofEvents events).entities.get? name).getD {}).read c = tally (c.counts name) events := by
  induction events using List.reverseRecOn with
  | nil => cases c <;> rfl
  | append_singleton earlier e ih =>
    rw [entities_concat, get?_recordEntity, tally_concat, ← ih]
    cases enters : e.enters name with
    | false => simp [c.idle enters]
    | true =>
      obtain ⟨u, recorded, reads⟩ := EntityTotals.record?_of_enters
        (((ofEvents earlier).entities.get? name).getD {}) enters
      simp only [↓reduceIte, recorded, Option.getD_some]
      exact reads c

theorem ofEvents_perm (perm : events.Perm events') : ofEvents events = ofEvents events' := by
  have totals : (ofEvents events).totals = (ofEvents events').totals := by
    apply Totals.eq_of_read
    intro c
    rw [read_ofEvents, read_ofEvents, tally_perm _ perm]
  have conditions : (ofEvents events).conditions = (ofEvents events').conditions := by
    apply Table.ext_get?
    intro label
    apply eq_of_isSome_of_getD 0
    · rw [isSome_conditions, isSome_conditions, perm.any_eq]
    · rw [getD_conditions, getD_conditions, tally_perm _ perm]
  have entities : (ofEvents events).entities = (ofEvents events').entities := by
    apply Table.ext_get?
    intro name
    apply eq_of_isSome_of_getD {}
    · rw [isSome_entities, isSome_entities, perm.any_eq]
    · apply EntityTotals.eq_of_read
      intro c
      rw [read_entities, read_entities, tally_perm _ perm]
  rcases left : ofEvents events with ⟨t, c, n⟩
  rcases right : ofEvents events' with ⟨t', c', n'⟩
  rw [left, right] at totals conditions entities
  rw [Report.mk.injEq]
  exact ⟨totals, conditions, entities⟩

theorem total_conditions (few : events.length < UInt64.size) :
    (ofEvents events).conditions.total UInt64.toNat =
      events.countP Counter.conditionsAdded.counts := by
  induction events using List.reverseRecOn with
  | nil => rfl
  | append_singleton earlier e ih =>
    rw [List.length_append, List.length_singleton] at few
    have earlier_total := ih (by omega)
    rw [conditions_concat, List.countP_append, List.countP_singleton, ← earlier_total]
    cases e with
    | conditionAdded entity op =>
      have inserted := Table.total_insert (ofEvents earlier).conditions op.label
        (countUp (((ofEvents earlier).conditions.get? op.label).getD 0)) UInt64.toNat
      have before : (((ofEvents earlier).conditions.get? op.label).map UInt64.toNat).getD 0 =
          (((ofEvents earlier).conditions.get? op.label).getD 0).toNat := by
        cases (ofEvents earlier).conditions.get? op.label <;> rfl
      rw [before, getD_conditions, toNat_countUp_tally few] at inserted
      simp only [recordCondition, Table.alter, getD_conditions, Counter.counts, ↓reduceIte]
      omega
    | _ => rfl

theorem total_entities (few : events.length < UInt64.size) (c : EntityCounter) :
    ((ofEvents events).entities.total fun t => (t.read c).toNat) =
      events.countP c.overall.counts := by
  induction events using List.reverseRecOn with
  | nil => rfl
  | append_singleton earlier e ih =>
    rw [List.length_append, List.length_singleton] at few
    have earlier_total := ih (by omega)
    rw [entities_concat, List.countP_append, List.countP_singleton, ← earlier_total]
    rw [← c.counts_entity e]
    unfold recordEntity
    cases enters : e.enters e.entity with
    | false => simp [EntityTotals.record?_of_idle _ enters, c.idle enters]
    | true =>
      obtain ⟨u, recorded, reads⟩ := EntityTotals.record?_of_enters
        (((ofEvents earlier).entities.get? e.entity).getD {}) enters
      have inserted := Table.total_insert (ofEvents earlier).entities e.entity u
        fun t => (t.read c).toNat
      have before : (((ofEvents earlier).entities.get? e.entity).map
          fun t => (t.read c).toNat).getD 0 =
            ((((ofEvents earlier).entities.get? e.entity).getD {}).read c).toNat := by
        cases (ofEvents earlier).entities.get? e.entity with
        | none => cases c <;> rfl
        | some t => rfl
      have now := reads c
      rw [read_entities] at now before
      rw [before] at inserted
      simp only [recorded]
      split at now
      · rename_i counts
        rw [now, toNat_countUp_tally few] at inserted
        simp only [counts, ↓reduceIte]
        omega
      · rename_i skips
        rw [now] at inserted
        rw [if_neg skips]
        omega

theorem sinceReset_event (feeds : List Feed) (e : Event) :
    sinceReset (feeds ++ [.event e]) = sinceReset feeds ++ [e] := by
  simp [sinceReset, Feed.event?]

theorem sinceReset_reset (feeds : List Feed) : sinceReset (feeds ++ [.reset]) = [] := by
  simp [sinceReset]

theorem ofFeeds_eq (feeds : List Feed) : ofFeeds feeds = ofEvents (sinceReset feeds) := by
  induction feeds using List.reverseRecOn with
  | nil => rfl
  | append_singleton earlier f ih =>
    rw [ofFeeds, List.foldl_append]
    cases f with
    | event e =>
      rw [sinceReset_event, ofEvents_concat, ← ih]
      rfl
    | reset =>
      rw [sinceReset_reset]
      rfl

end Report

def Effect.feed? : Effect → Option Feed
  | recorded none e => some (.event e)
  | reportReset => some .reset
  | _ => none

def Workspace.feeds (w : Workspace) : List Feed := (w.history.filterMap Effect.feed?).reverse

theorem sinceReset_feeds (w : Workspace) : sinceReset w.feeds =
    ((w.history.takeWhile (· ≠ .reportReset)).filterMap Effect.globalEvent?).reverse := by
  rw [sinceReset, Workspace.feeds, List.reverse_reverse]
  congr 1
  induction w.history with
  | nil => rfl
  | cons effect earlier ih =>
    cases effect with
    | reportReset => rfl
    | recorded sink e =>
      cases sink with
      | none => exact congrArg (e :: ·) ih
      | some name => exact ih
    | called | noticed => exact ih

theorem Workspace.report_eq (w : Workspace) : w.report = .ofFeeds w.feeds := by
  rw [Report.ofFeeds_eq, sinceReset_feeds]
  rfl

namespace Report

theorem addsAt_label (op : EngineOp) (e : Event) : e.addsAt op.label = e.adds op := by
  cases e with
  | conditionAdded entity op' =>
    apply Bool.eq_iff_iff.mpr
    simp only [Event.addsAt, Event.adds, beq_iff_eq]
    exact ⟨EngineOp.label_injective, congrArg EngineOp.label⟩
  | _ => rfl

theorem report_tallies_events :
    (∀ feeds, let r := ofFeeds feeds
      let events := sinceReset feeds
      (∀ c, (r.totals.read c).toNat = min (2 ^ 64 - 1) (events.countP c.counts)) ∧
      (∀ op, (r.conditions.get? op.label).isSome ↔
        ∃ entity, .conditionAdded entity op ∈ events) ∧
      (∀ op n, r.conditions.get? op.label = some n →
        n.toNat = min (2 ^ 64 - 1) (events.countP (·.adds op))) ∧
      (∀ label, (r.conditions.get? label).isSome → ∃ op : EngineOp, op.label = label) ∧
      (∀ name, (r.entities.get? name).isSome ↔
        .builderOpened name ∈ events ∨ (∃ op, .conditionAdded name op ∈ events) ∨
          .queryCompiled name ∈ events ∨ ∃ op, .engineRejected name op ∈ events) ∧
      (∀ name t, r.entities.get? name = some t → ∀ c,
        (t.read c).toNat = min (2 ^ 64 - 1) (events.countP (c.counts name))) ∧
      (events.length < 2 ^ 64 →
        (r.totals.conditionsAdded).toNat =
          (r.conditions.entries.map fun entry => entry.2.toNat).sum ∧
        ∀ c : EntityCounter, (r.totals.read c.overall).toNat =
          (r.entities.entries.map fun entry => (entry.2.read c).toNat).sum)) ∧
    (∀ feeds feeds', (sinceReset feeds).Perm (sinceReset feeds') →
      ofFeeds feeds = ofFeeds feeds') ∧
    (∀ op op' : EngineOp, op.label = op'.label → op = op') ∧
    ∀ w : Workspace, w.report = ofFeeds w.feeds := by
  refine ⟨?counts, ?order, ?labels, Workspace.report_eq⟩
  case counts =>
    intro feeds r events
    have fed : r = ofEvents events := ofFeeds_eq feeds
    refine ⟨?totals, ?added, ?conditions, ?labelled, ?entries, ?entities, ?sums⟩
    case totals =>
      intro c
      rw [fed, read_ofEvents]
      exact toNat_tally c.counts events
    case added =>
      intro op
      rw [fed, isSome_conditions_iff]
      constructor
      · rintro ⟨entity, op', member, same⟩
        obtain rfl := EngineOp.label_injective same
        exact ⟨entity, member⟩
      · rintro ⟨entity, member⟩
        exact ⟨entity, op, member, rfl⟩
    case conditions =>
      intro op n entry
      have count := getD_conditions events op.label
      rw [fed] at entry
      rw [entry, Option.getD_some, funext (addsAt_label op)] at count
      rw [count]
      exact toNat_tally (·.adds op) events
    case labelled =>
      intro label present
      rw [fed, isSome_conditions_iff] at present
      obtain ⟨-, op, -, same⟩ := present
      exact ⟨op, same⟩
    case entries =>
      intro name
      rw [fed]
      exact isSome_entities_iff events name
    case entities =>
      intro name t entry c
      have count := read_entities events name c
      rw [fed] at entry
      rw [entry, Option.getD_some] at count
      rw [count]
      exact toNat_tally _ events
    case sums =>
      intro few
      constructor
      · rw [fed]
        calc ((ofEvents events).totals.read .conditionsAdded).toNat
            = events.countP Counter.conditionsAdded.counts := read_ofEvents_of_few few _
          _ = (ofEvents events).conditions.total UInt64.toNat := (total_conditions few).symm
      · intro c
        rw [fed]
        calc ((ofEvents events).totals.read c.overall).toNat
            = events.countP c.overall.counts := read_ofEvents_of_few few _
          _ = (ofEvents events).entities.total fun t => (t.read c).toNat :=
              (total_entities few c).symm
  case order =>
    intro feeds feeds' perm
    rw [ofFeeds_eq, ofFeeds_eq]
    exact ofEvents_perm perm
  case labels =>
    intro op op' same
    exact EngineOp.label_injective same

/-- A condition is counted, forgotten, and counted again; the rest of the events come in another
order. Of the entity `Parcel` nothing is known but that a builder was closed. -/
def reorderedFeeds : List Feed × List Feed :=
  ([.event (.conditionAdded "Note" .isNull), .reset, .event (.builderOpened "Order"),
    .event (.conditionAdded "Order" .isNull), .event (.conditionAdded "Note" .equalInt),
    .event (.engineRejected "Order" .compile), .event (.builderClosed "Parcel" true)],
  [.event (.builderClosed "Parcel" true), .event (.conditionAdded "Note" .equalInt),
    .event (.conditionAdded "Order" .isNull), .event (.engineRejected "Order" .compile),
    .event (.builderOpened "Order")])

theorem reorderedFeeds_report :
    ofFeeds reorderedFeeds.1 = ofFeeds reorderedFeeds.2 ∧
    ((ofFeeds reorderedFeeds.1).conditions.get? "is_null").isSome ∧
    (ofFeeds reorderedFeeds.1).entities.get? "Order" = some ⟨1, 1, 0, 1⟩ ∧
    (ofFeeds reorderedFeeds.1).entities.get? "Note" = some ⟨0, 1, 0, 0⟩ ∧
    (ofFeeds reorderedFeeds.1).entities.get? "Parcel" = none ∧
    ((ofFeeds reorderedFeeds.1).entities.entries.map fun entry =>
      (entry.2.read .conditionsAdded).toNat).sum = 2 := by
  obtain ⟨counts, order, -⟩ := report_tallies_events
  obtain ⟨totals, added, -, -, listed, entities, sums⟩ := counts reorderedFeeds.1
  have perm : (sinceReset reorderedFeeds.1).Perm (sinceReset reorderedFeeds.2) := by
    decide +kernel
  have few : (sinceReset reorderedFeeds.1).length < 2 ^ 64 := by decide +kernel
  have entry (name : String) (t : EntityTotals)
      (present : ((ofFeeds reorderedFeeds.1).entities.get? name).isSome)
      (same : ∀ c, (t.read c).toNat =
        min (2 ^ 64 - 1) ((sinceReset reorderedFeeds.1).countP (c.counts name))) :
      (ofFeeds reorderedFeeds.1).entities.get? name = some t := by
    obtain ⟨u, found⟩ := Option.isSome_iff_exists.mp present
    rw [found, Option.some_inj]
    apply EntityTotals.eq_of_read
    intro c
    rw [← UInt64.toNat_inj, entities name u found c, same c]
  refine ⟨order _ _ perm, ?is_null, ?order, ?note, ?parcel, ?sum⟩
  case is_null => exact (added .isNull).mpr ⟨"Order", by decide +kernel⟩
  case order =>
    refine entry _ _ ?_ ?_
    · exact (listed "Order").mpr (Or.inl (by decide +kernel))
    · intro c
      cases c <;> decide +kernel
  case note =>
    refine entry _ _ ?_ ?_
    · exact (listed "Note").mpr (Or.inr (Or.inl ⟨.equalInt, by decide +kernel⟩))
    · intro c
      cases c <;> decide +kernel
  case parcel =>
    rw [← Option.not_isSome_iff_eq_none, listed]
    simp [reorderedFeeds, sinceReset, Feed.event?]
  case sum =>
    rw [← (sums few).2 .conditionsAdded, totals]
    decide +kernel

end Report

end ObjectQuery
