import DeclLint.Proofs.Code.Walk
import Mathlib.Data.List.Induction

/-!
# Places in code

Equal expressions may stand at different places of a tree, so what a walk visits is a matter of
places. A `Place` is a way down from an expression: at each step to what a call is made on, or to
one of the parts behind it (arguments, statements, both sides of an assignment, children).
`Expr.at?` looks up what stands at a place, and `Place.Before` is the order of the source: what a
call is made on stands before the call, everything else behind what it is a part of.

* `Expr.exists_lists_subterms` — the sub-expressions that a walk visits are those at all places of
  the expression, each place once, in the order of the source;
* `Declaration.listsCalls_calls` — so are the calls of a declaration, over all code that it holds
  (`Declaration.code`).
-/

namespace DeclLint

/-! ### Places -/

/-- A step from an expression down to one that it holds. -/
inductive Step where
  /-- to what a call is made on -/
  | receiver
  /-- to the part with the given number -/
  | part (index : Nat)
deriving DecidableEq, Repr

/-- A way down from an expression. -/
abbrev Place := List Step

namespace Place

/-- The order of the source. -/
def Before : Place → Place → Prop
  | [], [] => False
  | [], .receiver :: _ => False
  | [], .part _ :: _ => True
  | .receiver :: _, [] => True
  | .part _ :: _, [] => False
  | .receiver :: p, .receiver :: q => Before p q
  | .receiver :: _, .part _ :: _ => True
  | .part _ :: _, .receiver :: _ => False
  | .part i :: p, .part j :: q => i < j ∨ i = j ∧ Before p q

theorem before_cons {step : Step} {p q : Place} : Before (step :: p) (step :: q) ↔ Before p q := by
  cases step <;> simp [Before]

/-- No place stands before itself. The induction goes down the place, step by step. -/
theorem not_before_self (place : Place) : ¬ place.Before place := by
  induction place with
  | nil => exact id
  | cons step place ih => exact fun h => ih (before_cons.1 h)

end Place

namespace Expr

/-- What an expression is made on, if it is a call with a receiver. -/
def receiver? : Expr → Option Expr
  | call c => c.receiver
  | _ => none

/-- The parts of an expression that stand behind it, in the order of the source. -/
def parts : Expr → List Expr
  | call c => c.arguments.map (·.value)
  | lambda statements _ _ => statements
  | reference .. => []
  | assign target value _ => [target, value]
  | literal .. => []
  | other children _ _ => children

/-- The expression one step down. -/
def below? (expr : Expr) : Step → Option Expr
  | .receiver => expr.receiver?
  | .part index => expr.parts[index]?

/-- The expression at a place. -/
def at? : Expr → Place → Option Expr
  | expr, [] => some expr
  | expr, step :: place => (expr.below? step).bind (at? · place)

/-- The call at a place, if the expression there is one. -/
def callAt? (expr : Expr) (place : Place) : Option Call := (expr.at? place).bind asCall?

/-! ### Induction over places -/

/-- What stands one step down is smaller, so that induction over places is well-founded. This is the
step to the receiver, and the next one that to a part. -/
theorem sizeOf_receiver_lt {expr receiver : Expr} (h : expr.receiver? = some receiver) :
    sizeOf receiver < sizeOf expr := by
  cases expr with
  | call c =>
    obtain ⟨⟩ := c
    simp only [receiver?] at h
    subst h
    simp only [call.sizeOf_spec, Call.mk.sizeOf_spec, Option.some.sizeOf_spec]
    omega
  | _ => cases h

theorem sizeOf_part_lt {expr part : Expr} (h : part ∈ expr.parts) : sizeOf part < sizeOf expr := by
  cases expr with
  | call c =>
    obtain ⟨⟩ := c
    obtain ⟨⟨value, parameter⟩, hmem, rfl⟩ := List.mem_map.1 h
    have hlt := List.sizeOf_lt_of_mem hmem
    simp only [call.sizeOf_spec, Call.mk.sizeOf_spec, Argument.mk.sizeOf_spec] at hlt ⊢
    omega
  | lambda statements =>
    have hlt := List.sizeOf_lt_of_mem (show part ∈ statements from h)
    simp only [lambda.sizeOf_spec]
    omega
  | assign target value =>
    simp only [assign.sizeOf_spec]
    rcases List.mem_cons.1 h with rfl | h
    · omega
    · rw [List.mem_singleton.1 h]
      omega
  | other children =>
    have hlt := List.sizeOf_lt_of_mem (show part ∈ children from h)
    simp only [other.sizeOf_spec]
    omega
  | reference | literal => cases h

/-- **Induction over places**: what holds of an expression whenever it holds of everything one step
down, holds of all. -/
theorem parts_induction {motive : Expr → Prop}
    (step : ∀ expr, (∀ receiver, expr.receiver? = some receiver → motive receiver) →
      (∀ part ∈ expr.parts, motive part) → motive expr) (expr : Expr) : motive expr :=
  step expr (fun receiver _ => parts_induction step receiver)
    fun part _ => parts_induction step part
termination_by sizeOf expr
decreasing_by
  · rename_i h
    exact sizeOf_receiver_lt h
  · rename_i h
    exact sizeOf_part_lt h

theorem listSubterms_eq (exprs : List Expr) : listSubterms exprs = exprs.flatMap subterms := by
  induction exprs with
  | nil => rfl
  | cons expr rest ih => rw [listSubterms, List.flatMap_cons, ih]

/-- **Sub-expressions, one step down**: those of the receiver, the expression, those of its parts.
Here the kinds of expressions are taken together, so that what follows need not tell them apart. -/
theorem subterms_eq (expr : Expr) :
    expr.subterms =
      expr.receiver?.toList.flatMap subterms ++ expr :: expr.parts.flatMap subterms := by
  cases expr with
  | call c => rw [subterms, callSubterms_eq, receiver?, parts, List.flatMap_map]
  | lambda statements => rw [subterms, listSubterms_eq]; rfl
  | reference => rw [subterms]; rfl
  | assign target value => rw [subterms]; simp [receiver?, parts]
  | literal => rw [subterms]; rfl
  | other children => rw [subterms, listSubterms_eq]; rfl

end Expr

/-! ### Lists of what stands at places -/

/-- `found` lists what a look-up gives, each place once and in the order of the source; `places` are
the places of what is listed. -/
structure Lists {α : Type} (look : Place → Option α) (places : List Place) (found : List α) :
    Prop where
  /-- the places follow each other -/
  sorted : places.Pairwise Place.Before
  /-- at each place stands what is listed -/
  holds : places.map look = found.map some
  /-- there is something at no other place -/
  complete : ∀ place a, look place = some a → place ∈ places

namespace Lists

variable {α β : Type} {look look₁ look₂ : Place → Option α} {places places₁ places₂ : List Place}
  {found found₁ found₂ : List α}

/-- Something stands at each place that is listed. -/
theorem exists_of_mem (h : Lists look places found) {place : Place} (hmem : place ∈ places) :
    ∃ a, look place = some a := by
  have hmap : look place ∈ found.map some := h.holds ▸ List.mem_map_of_mem hmem
  obtain ⟨a, -, ha⟩ := List.mem_map.1 hmap
  exact ⟨a, ha.symm⟩

/-- **No place is listed twice**: a place does not come before itself. -/
theorem nodup (h : Lists look places found) : places.Nodup := by
  refine h.sorted.imp fun {p q} hbefore heq => ?_
  rw [heq] at hbefore
  exact q.not_before_self hbefore

theorem nil (hnone : ∀ place, look place = none) : Lists look [] [] where
  sorted := .nil
  holds := rfl
  complete place a h := by
    rw [hnone] at h
    cases h

/-- One list after the other, where all places of the first come before those of the second. The
look-up for both is the one for the first, and where that gives nothing the one for the second. -/
theorem append (h₁ : Lists look₁ places₁ found₁) (h₂ : Lists look₂ places₂ found₂)
    (hbefore : ∀ p ∈ places₁, ∀ q ∈ places₂, p.Before q)
    (hlook : ∀ place, look place = (look₁ place).or (look₂ place)) :
    Lists look (places₁ ++ places₂) (found₁ ++ found₂) where
  sorted := List.pairwise_append.2 ⟨h₁.sorted, h₂.sorted, hbefore⟩
  holds := by
    have hfirst : places₁.map look = places₁.map look₁ := by
      refine List.map_congr_left fun place hmem => ?_
      obtain ⟨a, ha⟩ := h₁.exists_of_mem hmem
      rw [hlook, ha, Option.some_or]
    have hsecond : places₂.map look = places₂.map look₂ := by
      refine List.map_congr_left fun place hmem => ?_
      rcases hplace : look₁ place with _ | a
      · rw [hlook, hplace, Option.none_or]
      · exact (place.not_before_self (hbefore place (h₁.complete place a hplace) place hmem)).elim
    rw [List.map_append, List.map_append, hfirst, hsecond, h₁.holds, h₂.holds]
  complete place a h := by
    rw [hlook, Option.or_eq_some_iff] at h
    rcases h with h | ⟨-, h⟩
    · exact List.mem_append_left places₂ (h₁.complete place a h)
    · exact List.mem_append_right places₁ (h₂.complete place a h)

/-- A look-up one step further up. -/
def under (step : Step) (look : Place → Option α) : Place → Option α
  | [] => none
  | first :: place => if first = step then look place else none

theorem under_eq_some {step : Step} {place : Place} {a : α} (h : under step look place = some a) :
    ∃ rest, place = step :: rest ∧ look rest = some a := by
  cases place with
  | nil => cases h
  | cons first rest =>
    rw [under] at h
    split at h
    · rename_i hfirst
      exact ⟨rest, by rw [hfirst], h⟩
    · cases h

/-- **Everything one step down**: a list for an expression is one for the larger expression, with
the step put in front of each place. -/
theorem down (h : Lists look places found) (step : Step) :
    Lists (under step look) (places.map (step :: ·)) found where
  sorted := List.pairwise_map.2 (h.sorted.imp Place.before_cons.2)
  holds := by
    rw [List.map_map, ← h.holds]
    exact List.map_congr_left fun place _ => if_pos rfl
  complete place a hlook := by
    obtain ⟨rest, rfl, hrest⟩ := under_eq_some hlook
    exact List.mem_map_of_mem (h.complete rest a hrest)

/-- Of what is listed, what passes a partial function is listed too. Places at which nothing passes
drop out. -/
theorem filterMap (h : Lists look places found) (f : α → Option β) :
    ∃ places', Lists (fun place => (look place).bind f) places' (found.filterMap f) := by
  refine ⟨places.filter fun place => ((look place).bind f).isSome, ?_, ?_, ?_⟩
  · exact h.sorted.filter _
  · have hsome : ∀ (g : Place → Option β) (places : List Place),
        (places.filter fun place => (g place).isSome).map g = (places.filterMap g).map some := by
      intro g places
      induction places with
      | nil => rfl
      | cons place rest ih =>
        rcases hplace : g place with _ | b
        · simp [hplace, ih]
        · simp [hplace, ih]
    have hfilterMap : places.filterMap (fun place => (look place).bind f) = found.filterMap f := by
      calc places.filterMap (fun place => (look place).bind f)
          = (places.map look).filterMap (·.bind f) := by rw [List.filterMap_map]; rfl
        _ = (found.map some).filterMap (·.bind f) := by rw [h.holds]
        _ = found.filterMap f := by rw [List.filterMap_map]; rfl
    rw [hsome, hfilterMap]
  · intro place b hb
    obtain ⟨a, ha, -⟩ := Option.bind_eq_some_iff.1 hb
    exact List.mem_filter.2 ⟨h.complete place a ha, by rw [hb]; rfl⟩

end Lists

/-! ### Sub-expressions -/

namespace Expr

/-- The expression at a place among parts. -/
def amongParts? (parts : List Expr) : Place → Option Expr
  | .part index :: place => parts[index]?.bind (at? · place)
  | _ => none

/-- Looking among parts, with one more at the end. -/
theorem amongParts?_append (parts : List Expr) (last : Expr) (place : Place) :
    amongParts? (parts ++ [last]) place =
      (amongParts? parts place).or (Lists.under (.part parts.length) last.at? place) := by
  rcases place with _ | ⟨_ | index, place⟩
  · rfl
  · rfl
  · rw [amongParts?, amongParts?, Lists.under]
    rcases Nat.lt_trichotomy index parts.length with hlt | rfl | hgt
    · have hne : Step.part index ≠ .part parts.length := fun h => by cases h; omega
      rw [List.getElem?_append_left hlt, if_neg hne, Option.or_none]
    · simp
    · have hne : Step.part index ≠ .part parts.length := fun h => by cases h; omega
      rw [List.getElem?_eq_none (by simp; omega), List.getElem?_eq_none (by omega), if_neg hne]
      rfl

theorem index_lt_of_amongParts? {parts : List Expr} {place : Place} {expr : Expr}
    (h : amongParts? parts place = some expr) :
    ∃ index rest, place = .part index :: rest ∧ index < parts.length := by
  rcases place with _ | ⟨_ | index, rest⟩
  · cases h
  · cases h
  · obtain ⟨part, hpart, -⟩ := Option.bind_eq_some_iff.1 h
    exact ⟨index, rest, rfl, (List.getElem?_eq_some_iff.1 hpart).1⟩

/-- The parts are listed one after the other when each of them is. The induction takes the parts
from the last one on, since the number of a part is the number of those before it. -/
theorem exists_lists_parts (parts : List Expr)
    (h : ∀ part ∈ parts, ∃ places, Lists part.at? places part.subterms) :
    ∃ places, Lists (amongParts? parts) places (parts.flatMap subterms) := by
  induction parts using List.reverseRecOn with
  | nil =>
    refine ⟨[], .nil fun place => ?_⟩
    rcases place with _ | ⟨_ | index, place⟩ <;> rfl
  | append_singleton parts last ih =>
    obtain ⟨places, hplaces⟩ := ih fun part hmem => h part (List.mem_append_left [last] hmem)
    obtain ⟨lastPlaces, hlast⟩ := h last (List.mem_append_right parts List.mem_cons_self)
    rw [List.flatMap_append, List.flatMap_singleton]
    refine ⟨_, hplaces.append (hlast.down (.part parts.length)) ?_ (amongParts?_append parts last)⟩
    intro p hp q hq
    obtain ⟨rest, -, rfl⟩ := List.mem_map.1 hq
    obtain ⟨expr, hexpr⟩ := hplaces.exists_of_mem hp
    obtain ⟨index, rest', rfl, hindex⟩ := index_lt_of_amongParts? hexpr
    exact .inl hindex

/-- A look-up that knows the top only. -/
def atTop? (expr : Expr) : Place → Option Expr
  | [] => some expr
  | _ => none

theorem lists_atTop (expr : Expr) : Lists expr.atTop? [[]] [expr] where
  sorted := List.pairwise_singleton _ _
  holds := rfl
  complete place a h := by
    cases place with
    | nil => exact List.mem_cons_self
    | cons => cases h

/-- **Looking at a place**: it is in the receiver, it is the expression itself, or it is among the
parts. -/
theorem at?_eq (expr : Expr) (place : Place) :
    expr.at? place =
      (Lists.under .receiver (fun rest => expr.receiver?.bind (at? · rest)) place).or
        ((expr.atTop? place).or (amongParts? expr.parts place)) := by
  rcases place with _ | ⟨_ | index, place⟩
  · rfl
  · simp [at?, below?, Lists.under, atTop?, amongParts?]
  · simp [at?, below?, Lists.under, atTop?, amongParts?]

theorem exists_lists_receiver {expr : Expr}
    (h : ∀ receiver, expr.receiver? = some receiver →
      ∃ places, Lists receiver.at? places receiver.subterms) :
    ∃ places, Lists (fun rest => expr.receiver?.bind (at? · rest)) places
      (expr.receiver?.toList.flatMap subterms) := by
  rcases hreceiver : expr.receiver? with _ | receiver
  · exact ⟨[], .nil fun _ => rfl⟩
  · obtain ⟨places, hplaces⟩ := h receiver hreceiver
    rw [Option.toList_some, List.flatMap_singleton]
    exact ⟨places, hplaces⟩

/-- **A walk visits every place once**, in the order of the source: the receiver, then the
expression, then its parts, each of which comes with all that stands below. -/
theorem exists_lists_subterms (expr : Expr) : ∃ places, Lists expr.at? places expr.subterms := by
  induction expr using parts_induction with
  | step expr hreceiver hparts =>
    obtain ⟨before, hbefore⟩ := exists_lists_receiver hreceiver
    obtain ⟨behind, hbehind⟩ := exists_lists_parts expr.parts hparts
    have htop : Lists (fun place => (expr.atTop? place).or (amongParts? expr.parts place))
        ([[]] ++ behind) ([expr] ++ expr.parts.flatMap subterms) := by
      refine expr.lists_atTop.append hbehind (fun p hp q hq => ?_) fun _ => rfl
      obtain ⟨part, hpart⟩ := hbehind.exists_of_mem hq
      obtain ⟨index, rest, rfl, -⟩ := index_lt_of_amongParts? hpart
      rw [List.mem_singleton.1 hp]
      trivial
    rw [subterms_eq]
    refine ⟨_, (hbefore.down .receiver).append htop (fun p hp q hq => ?_) expr.at?_eq⟩
    obtain ⟨rest, -, rfl⟩ := List.mem_map.1 hp
    rcases List.mem_cons.1 hq with rfl | hq
    · trivial
    · obtain ⟨part, hpart⟩ := hbehind.exists_of_mem hq
      obtain ⟨index, rest', rfl, -⟩ := index_lt_of_amongParts? hpart
      trivial

/-! ### Calls -/

/-- `calls` lists the calls in an expression: for each place that holds a call, the call there, once
(`Lists.nodup`) and in the order of the source. -/
def ListsCalls (expr : Expr) (calls : List Call) : Prop := ∃ places, Lists expr.callAt? places calls

/-- **The calls of an expression** are those at all its places, for a call is a sub-expression like
others. -/
theorem listsCalls_calls (expr : Expr) : expr.ListsCalls expr.calls := by
  obtain ⟨places, hplaces⟩ := expr.exists_lists_subterms
  exact hplaces.filterMap asCall?

end Expr

/-- The code of a member: its delegation, the default values of its parameters and its body. -/
def Member.code (member : Member) : List Expr :=
  member.delegation.toList.map .call ++ member.parameters.filterMap (·.defaultValue) ++
    member.body.getD []

/-- The code of a declaration as one expression: the constructor calls of the supertype list, then
the code of each member, whatever its kind. -/
def Declaration.code (declaration : Declaration) : Expr :=
  .other ((declaration.supertypes.filterMap (·.call)).map .call ++
    declaration.members.flatMap Member.code) none none

theorem Expr.calls_other (children : List Expr) (type : Option TypeRef) (range : Option Range) :
    (Expr.other children type range).calls = children.flatMap Expr.calls := by
  have hself : asCall? (other children type range) = none := rfl
  rw [calls, subterms, List.filterMap_cons_none hself, listSubterms_eq, List.filterMap_flatMap]
  rfl

/-- The calls of a member are those of its code, wherever in the member that stands. -/
theorem Member.calls_eq_code (member : Member) : member.calls = member.code.flatMap Expr.calls := by
  rw [calls, code, List.flatMap_append, List.flatMap_append, List.flatMap_map]
  rfl

/-- The calls of a declaration are those of its code, taken as one expression. -/
theorem Declaration.calls_eq_code (declaration : Declaration) :
    declaration.calls = declaration.code.calls := by
  rw [calls, code, Expr.calls_other, List.flatMap_append, List.flatMap_map, List.flatMap_assoc]
  rw [funext Member.calls_eq_code]
  rfl

/-- **The calls of a declaration** are those at all places of its code, each place once, in the
order of the source. -/
theorem Declaration.listsCalls_calls (declaration : Declaration) :
    declaration.code.ListsCalls declaration.calls := by
  rw [calls_eq_code]
  exact declaration.code.listsCalls_calls

end DeclLint
