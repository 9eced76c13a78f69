import DeclLint.Proofs.Code.Places

/-!
# What a visitor sees

A visitor threads a state of any kind, so it may as well keep a record of its own visits.
`Walk.recorded` adds such a record to a visitor and changes nothing else. The record says what a
walk shows, in which order, and how it goes on after each answer:

* **one visit** — `Walk.Records.halt` and `Walk.Records.next`: a visit that halts is the last one,
  and any other hands its state to the visits that follow;
* **a list of nodes** — `Walk.each_recorded`: by induction over the nodes that are left, whatever
  was recorded before;
* **a tree** — `Expr.walk` goes through the list of the sub-expressions (`Expr.walk_eq_each`), which
  are those at all places of the expression in the order of the source
  (`Expr.exists_lists_subterms`).
-/

namespace DeclLint

/-- One visit of a walk. -/
structure Visit (α σ : Type) where
  /-- the node that is shown -/
  node : α
  /-- the state of the visitor before the visit -/
  before : σ
  /-- whether the visitor goes on -/
  flow : Flow
  /-- the state of the visitor after the visit -/
  after : σ

namespace Walk

variable {σ α : Type}

/-- The same visitor, with a record of its visits. -/
def recorded (visit : α → Walk σ) (a : α) : Walk (List (Visit α σ) × σ) := fun record =>
  let answer := visit a record.2
  (answer.1, record.1 ++ [⟨a, record.2, answer.1, answer.2⟩], answer.2)

/-- `log` records a walk that shows `nodes` from left to right to a visitor in the state `start`,
answers `flow` and leaves the visitor in the state `final`. -/
structure Records (visit : α → Walk σ) (nodes : List α) (start : σ) (log : List (Visit α σ))
    (flow : Flow) (final : σ) : Prop where
  /-- the nodes are shown in order, from the first on, and none is left out -/
  shown : log.map (·.node) <+: nodes
  /-- the answers are those of the visitor -/
  answers : ∀ entry ∈ log, visit entry.node entry.before = (entry.flow, entry.after)
  /-- every visit finds the state that the one before it has left -/
  threads : start :: log.map (·.after) = log.map (·.before) ++ [final]
  /-- nothing is shown after a visit that halts -/
  stops : ∀ earlier entry later, log = earlier ++ entry :: later → entry.flow = .halt → later = []
  /-- the walk halts exactly when some visit does -/
  halts : flow = .halt ↔ ∃ entry ∈ log, entry.flow = .halt
  /-- a walk that does not halt shows all nodes -/
  complete : flow = .next → log.map (·.node) = nodes

namespace Records

variable {visit : α → Walk σ} {a : α} {rest : List α} {start state final : σ} {flow : Flow}
  {log : List (Visit α σ)}

theorem nil : Records visit [] start [] .next start where
  shown := List.prefix_refl []
  answers _ hentry := absurd hentry List.not_mem_nil
  threads := rfl
  stops earlier entry later heq := by
    have hnil := congrArg List.length heq
    simp at hnil
  halts := by simp
  complete _ := rfl

/-- **A visit that halts** is the last one: the nodes behind it are not on the record. -/
theorem halt (hvisit : visit a start = (.halt, state)) :
    Records visit (a :: rest) start [⟨a, start, .halt, state⟩] .halt state where
  shown := List.prefix_append [a] rest
  answers entry hentry := by
    obtain rfl := List.mem_singleton.1 hentry
    exact hvisit
  threads := rfl
  stops earlier entry later heq _ := by
    have hlength := congrArg List.length heq
    simp only [List.length_append, List.length_cons, List.length_nil] at hlength
    exact List.length_eq_zero_iff.1 (by omega)
  halts := by simp
  complete h := by cases h

/-- **A visit that goes on** hands its state to the visits that follow. -/
theorem next (hvisit : visit a start = (.next, state))
    (h : Records visit rest state log flow final) :
    Records visit (a :: rest) start (⟨a, start, .next, state⟩ :: log) flow final where
  shown := (List.prefix_cons_inj a).2 h.shown
  answers entry hentry := by
    rcases List.mem_cons.1 hentry with rfl | hentry
    · exact hvisit
    · exact h.answers entry hentry
  threads := congrArg (start :: ·) h.threads
  stops earlier entry later heq hhalt := by
    cases earlier with
    | nil =>
      -- the first visit went on
      obtain ⟨rfl, -⟩ := List.cons.inj heq
      cases hhalt
    | cons first earlier => exact h.stops earlier entry later (List.cons.inj heq).2 hhalt
  halts := by
    rw [h.halts]
    simp
  complete hnext := congrArg (a :: ·) (h.complete hnext)

end Records

/-- **The record of a walk through a list**: the visitor answers and ends as it does without a
record, and what the walk adds to the record is a record of it. -/
theorem each_recorded (visit : α → Walk σ) (nodes : List α) (start : σ)
    (earlier : List (Visit α σ)) :
    ∃ log flow final, each visit nodes start = (flow, final) ∧
      each (recorded visit) nodes (earlier, start) = (flow, earlier ++ log, final) ∧
      Records visit nodes start log flow final := by
  induction nodes generalizing start earlier with
  | nil =>
    refine ⟨[], .next, start, rfl, ?_, .nil⟩
    rw [List.append_nil]
    rfl
  | cons a rest ih =>
    rw [each, each, andThen, andThen, recorded]
    rcases hvisit : visit a start with ⟨_ | _, state⟩
    · obtain ⟨log, flow, final, heach, hrecorded, hrecords⟩ :=
        ih state (earlier ++ [⟨a, start, .next, state⟩])
      refine ⟨⟨a, start, .next, state⟩ :: log, flow, final, heach, ?_, hrecords.next hvisit⟩
      rw [List.append_assoc] at hrecorded
      exact hrecorded
    · exact ⟨[⟨a, start, .halt, state⟩], .halt, state, rfl, rfl, .halt hvisit⟩

end Walk

/-- The two ways to walk through the calls of a call are one. -/
theorem Call.walkCalls_eq {σ : Type} (visit : Call → Walk σ) (call : Call) :
    call.walkCalls visit = (Expr.call call).walkCalls visit := by
  rw [Call.walkCalls_eq_each, Expr.walkCalls_eq_each]
  rfl

/-- **A walk visits the sub-expressions in order.** The sub-expressions are those at all places of
the expression, each place once: those of the receiver, the expression itself, those of its parts.
Whatever the visitor does, a walk shows them from the first on, up to and including the first visit
that halts, and halts exactly if one does. A walk through the calls of a call makes the same visits
as one through the calls of the call as an expression, with the same answer and the same state at
the end. -/
theorem Expr.walk_visits_in_order {σ : Type} (start : σ) :
    (∀ (visit : Expr → Walk σ) (expr : Expr),
      (∃ places, Lists expr.at? places expr.subterms) ∧
      expr.subterms =
        expr.receiver?.toList.flatMap subterms ++ expr :: expr.parts.flatMap subterms ∧
      ∃ log flow final, expr.walk visit start = (flow, final) ∧
        expr.walk (Walk.recorded visit) ([], start) = (flow, log, final) ∧
        Walk.Records visit expr.subterms start log flow final) ∧
    ∀ (visit : Call → Walk σ) (c : Call),
      c.walkCalls visit start = (call c).walkCalls visit start ∧
      c.walkCalls (Walk.recorded visit) ([], start) =
        (call c).walkCalls (Walk.recorded visit) ([], start) := by
  refine ⟨?_, ?_⟩
  · intro visit expr
    refine ⟨expr.exists_lists_subterms, expr.subterms_eq, ?_⟩
    rw [walk_eq_each, walk_eq_each]
    exact Walk.each_recorded visit expr.subterms start []
  · intro visit c
    rw [Call.walkCalls_eq, Call.walkCalls_eq]
    exact ⟨rfl, rfl⟩

end DeclLint
