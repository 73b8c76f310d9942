import Conformance.Proofs.Check.FailFast

/-!
# What a depth limit does

A limit ends a check exactly when the check would go deeper than the limit allows, and otherwise
changes nothing.  How deep a check goes is a fact about the check without a limit: a node enters its
demands one after the other (`Schema.visits`) until it is done, and **where it is done depends on
the mode and on the verdicts so far**.

* `Schema.visitedDepth` counts the schemas that are entered inside each other.
* `Schema.check_maxDepth`: under a limit, from any depth, there is a result if and only if the
  visited depth fits, and then it is the result without a limit.
* `Schema.visitedDepth_le_height`: no check goes deeper than schemas are nested.
-/

namespace Conformance

/-! ## The visited depth -/

/-- Whether a demand is met, as far as a check without a limit can say. -/
def Demand.met : Demand → Bool
  | part _ schema value => schema.accepts value
  | presence _ => false

/-- The schema and the value that are entered for a demand.  A missing key is no visit. -/
def Demand.entered? : Demand → Option (Schema × Value)
  | part _ schema value => some (schema, value)
  | presence _ => none

/-- The demands that are looked at, up to and including the first one at which the check stops. -/
def reached (stops : Demand → Bool) : List Demand → List Demand
  | [] => []
  | demand :: rest => demand :: if stops demand then [] else reached stops rest

/-- Where all demands are wanted, the mode that stops does so at the first one that is not met. -/
def Mode.stopsAt : Mode → Demand → Bool
  | .failFast, demand => !demand.met
  | .exhaustive, _ => false

namespace Schema

/-- Whether a check of the schema is done after a demand.  A choice is done in both modes as soon as
a demand is met. -/
def stopsAt (mode : Mode) (schema : Schema) : Demand → Bool :=
  if schema.isChoice then Demand.met else mode.stopsAt

/-- The schemas that a check of a value enters next, each with the value that it is entered for. -/
def visits (mode : Mode) (schema : Schema) (value : Value) : List (Schema × Value) :=
  (reached (schema.stopsAt mode) (schema.demands value)).filterMap Demand.entered?

end Schema

lemma mem_of_mem_reached {stops : Demand → Bool} {demand : Demand} {demands : List Demand}
    (mem : demand ∈ reached stops demands) : demand ∈ demands := by
  induction demands with
  | nil => cases mem
  | cons head rest ih =>
    rw [reached] at mem
    rcases List.mem_cons.1 mem with rfl | later
    · exact List.mem_cons_self
    · split at later
      · cases later
      · exact List.mem_cons_of_mem _ (ih later)

lemma reached_of_stops {stops : Demand → Bool} {demand : Demand} {rest : List Demand}
    (done : stops demand = true) : reached stops (demand :: rest) = [demand] := by
  rw [reached, if_pos done]

lemma reached_of_goes_on {stops : Demand → Bool} {demand : Demand} {rest : List Demand}
    (notDone : stops demand = false) :
    reached stops (demand :: rest) = demand :: reached stops rest := by
  rw [reached, if_neg (Bool.eq_false_iff.1 notDone)]

namespace Schema

lemma height_lt_of_mem_visits {mode : Mode} {schema : Schema} {value : Value}
    {visit : Schema × Value} (mem : visit ∈ schema.visits mode value) :
    visit.1.height < schema.height := by
  obtain ⟨demand, demand_mem, entered⟩ := List.mem_filterMap.1 mem
  cases demand with
  | part step inner part =>
    cases entered
    exact height_lt_of_mem_demands (mem_of_mem_reached demand_mem)
  | presence key => cases entered

/-- How many schemas a check of a value enters inside each other at most, the outermost one
included. -/
def visitedDepth (mode : Mode) (schema : Schema) (value : Value) : Nat :=
  let depths := (schema.visits mode value).attach.map fun visit =>
    have := height_lt_of_mem_visits visit.2
    visit.1.1.visitedDepth mode visit.1.2
  1 + depths.foldr max 0
termination_by schema.height

end Schema

/-- How deep the check of a demand goes; a missing key is looked for without entering anything. -/
def Demand.visitedDepth (mode : Mode) : Demand → Nat
  | part _ schema value => schema.visitedDepth mode value
  | presence _ => 0

/-- How deep the checks of some demands go. -/
def deepest (mode : Mode) (demands : List Demand) : Nat :=
  (demands.map (Demand.visitedDepth mode)).foldr max 0

@[simp] lemma deepest_nil (mode : Mode) : deepest mode [] = 0 := rfl

@[simp] lemma deepest_cons (mode : Mode) (demand : Demand) (rest : List Demand) :
    deepest mode (demand :: rest) = max (demand.visitedDepth mode) (deepest mode rest) := rfl

lemma deepest_singleton (mode : Mode) (demand : Demand) :
    deepest mode [demand] = demand.visitedDepth mode := by
  rw [deepest_cons, deepest_nil, Nat.max_zero]

lemma deepest_le {mode : Mode} {demands : List Demand} {n : Nat}
    (each : ∀ demand ∈ demands, demand.visitedDepth mode ≤ n) : deepest mode demands ≤ n := by
  induction demands with
  | nil => exact Nat.zero_le n
  | cons demand rest ih =>
    have := each demand (by simp)
    have := ih fun other mem => each other (List.mem_cons_of_mem _ mem)
    rw [deepest_cons]
    omega

lemma deepest_eq_of_entered (mode : Mode) (demands : List Demand) :
    deepest mode demands = ((demands.filterMap Demand.entered?).map fun visit =>
      visit.1.visitedDepth mode visit.2).foldr max 0 := by
  induction demands with
  | nil => rfl
  | cons demand rest ih =>
    rw [deepest_cons, ih]
    cases demand with
    | part step schema value => rfl
    | presence key => exact Nat.zero_max _

/-- A check goes one deeper than the demands that it reaches. -/
lemma Schema.visitedDepth_eq (mode : Mode) (schema : Schema) (value : Value) :
    schema.visitedDepth mode value =
      1 + deepest mode (reached (schema.stopsAt mode) (schema.demands value)) := by
  rw [visitedDepth, deepest_eq_of_entered]
  simp only [List.map_attach_eq_pmap, List.pmap_eq_map]
  rfl

/-- **No check goes deeper than schemas are nested.** -/
theorem Schema.visitedDepth_le_height (mode : Mode) (schema : Schema) (value : Value) :
    schema.visitedDepth mode value ≤ schema.height := by
  induction schema, value using demand_induction with
  | weigh schema value ih =>
    have height_pos : 1 ≤ schema.height := by cases schema <;> simp [height]
    have inside : deepest mode (reached (schema.stopsAt mode) (schema.demands value)) ≤
        schema.height - 1 := by
      refine deepest_le fun demand mem => ?_
      cases demand with
      | part step inner part =>
        have wanted := mem_of_mem_reached mem
        have := ih step inner part wanted
        have := height_lt_of_mem_demands wanted
        rw [Demand.visitedDepth]
        omega
      | presence key => exact Nat.zero_le _
    rw [visitedDepth_eq]
    omega

/-! ## Results within a limit -/

section Within

variable {α β : Type}

/-- A result that is given only if the depth it takes is at most `n`. -/
def within (n depth : Nat) (a : α) : Except CheckError α :=
  if depth ≤ n then .ok a else .error .maxDepthExceeded

lemma within_of_le {n depth : Nat} (fits : depth ≤ n) (a : α) : within n depth a = .ok a :=
  if_pos fits

lemma within_of_lt {n depth : Nat} (tooDeep : n < depth) (a : α) :
    within n depth a = .error .maxDepthExceeded :=
  if_neg (Nat.not_le.2 tooDeep)

/-- Two results one after the other take the greater depth of the two. -/
lemma within_bind {n depth depth' : Nat} {a : α} {b : β} {next : α → Except CheckError β}
    (after : next a = within n depth' b) :
    within n depth a >>= next = within n (max depth depth') b := by
  simp only [within] at after ⊢
  split
  · rw [ok_bind, after]
    split
    · rw [if_pos (by omega)]
    · rw [if_neg (by omega)]
  · rw [error_bind, if_neg (by omega)]

lemma within_map (n depth : Nat) (a : α) (f : α → β) :
    (within n depth a).map f = within n depth (f a) := by
  simp only [within]
  split <;> rfl

end Within

/-! ## Checks under a limit

A limited check of a node runs the same loop as the check without a limit.  As long as the demands
that it reaches fit, the two go side by side; a demand that is not reached may be of any depth.
-/

section Limited

variable {n depth : Nat} {mode : Mode} {judge : Demand → Except CheckError (Option Cause)}

/-- Judgements that are those without a limit wherever the depth fits, and errors elsewhere. -/
def Limited (n depth : Nat) (mode : Mode) (judge : Demand → Except CheckError (Option Cause))
    (demands : List Demand) : Prop :=
  ∀ demand ∈ demands,
    judge demand = within n (depth + demand.visitedDepth mode) (demand.cause? mode)

lemma Limited.tail {demand : Demand} {rest : List Demand}
    (limited : Limited n depth mode judge (demand :: rest)) : Limited n depth mode judge rest :=
  fun other mem => limited other (List.mem_cons_of_mem _ mem)

/-- A demand is met when it gives rise to no cause, in either mode. -/
lemma Demand.met_eq_isNone_cause? (mode : Mode) (demand : Demand) :
    demand.met = (demand.cause? mode).isNone := by
  cases demand with
  | part step schema value =>
    rw [met, cause?, Option.isNone_map]
    cases mode with
    | failFast => exact schema.accepts_eq_isNone_rejection? value
    | exhaustive => exact schema.accepts_eq_isNone_explain value
  | presence key => rfl

lemma gather_maxDepth {demands : List Demand} (entered : depth ≤ n)
    (limited : Limited n depth mode judge demands) :
    mode.gather judge demands = within n (depth + deepest mode (reached mode.stopsAt demands))
      (mode.keep (demands.filterMap (Demand.cause? mode))) := by
  induction demands with
  | nil =>
    rw [reached, deepest_nil, Nat.add_zero, within_of_le entered]
    cases mode <;> rfl
  | cons demand rest ih =>
    have met := demand.met_eq_isNone_cause? mode
    rw [Mode.gather, limited demand (by simp), List.filterMap_cons]
    cases found : demand.cause? mode with
    | none =>
      have goes_on : mode.stopsAt demand = false := by
        cases mode with
        | failFast => simp [Mode.stopsAt, met, found]
        | exhaustive => rfl
      refine Eq.trans (within_bind (ih limited.tail)) ?_
      rw [reached_of_goes_on goes_on, deepest_cons, Nat.add_max_add_left]
    | some cause =>
      cases mode with
      | failFast =>
        -- The rest is not reached, so that its depth does not count.
        have stops : Mode.failFast.stopsAt demand = true := by simp [Mode.stopsAt, met, found]
        refine Eq.trans (within_bind (within_of_le entered [cause]).symm) ?_
        rw [reached_of_stops stops, deepest_singleton, Nat.max_eq_left (Nat.le_add_right ..)]
        rfl
      | exhaustive =>
        have others := congrArg (Except.map (cause :: ·)) (ih limited.tail)
        rw [within_map] at others
        refine Eq.trans (within_bind others) ?_
        rw [reached_of_goes_on rfl, deepest_cons, Nat.add_max_add_left]
        rfl

lemma gatherChoice_maxDepth {demands : List Demand} (entered : depth ≤ n)
    (limited : Limited n depth mode judge demands) :
    gatherChoice judge demands = within n (depth + deepest mode (reached Demand.met demands))
      (if demands.all fun demand => (demand.cause? mode).isSome then
        some (demands.filterMap (Demand.cause? mode)) else none) := by
  induction demands with
  | nil => exact (within_of_le entered _).symm
  | cons demand rest ih =>
    have met := demand.met_eq_isNone_cause? mode
    rw [gatherChoice, limited demand (by simp), List.filterMap_cons, List.all_cons]
    cases found : demand.cause? mode with
    | none =>
      rw [found] at met
      refine Eq.trans (within_bind (within_of_le entered none).symm) ?_
      rw [reached_of_stops met, deepest_singleton, Nat.max_eq_left (Nat.le_add_right ..)]
      rfl
    | some cause =>
      rw [found] at met
      have others := congrArg (Except.map (Option.map (cause :: ·))) (ih limited.tail)
      rw [within_map, map_eq_bind] at others
      refine Eq.trans (within_bind others) ?_
      rw [reached_of_goes_on met, deepest_cons, Nat.add_max_add_left, Option.isSome_some,
        Bool.true_and]
      split <;> rfl

/-- Under a limit a node has its result if the demands that it reaches fit. -/
lemma Schema.weigh_maxDepth {schema : Schema} {value : Value} (entered : depth ≤ n)
    (limited : Limited n depth mode judge (schema.demands value)) :
    schema.weigh mode judge value =
      within n (depth + deepest mode (reached (schema.stopsAt mode) (schema.demands value)))
        (schema.rejection? mode value) := by
  rw [rejection?_eq, weigh, conclusion, stopsAt]
  split
  · split
    · rw [gatherChoice_maxDepth entered limited, ← map_eq_bind, within_map]
      congr 1
      split <;> rfl
    · rw [gather_maxDepth entered limited, ← map_eq_bind, within_map]
  · rename_i outright
    rw [demands_of_not_looksInto (Bool.eq_false_iff.2 outright), reached, deepest_nil, Nat.add_zero,
      within_of_le entered]

/-- **Under a limit, a check that starts at some depth has a result exactly when the visited depth
fits**, and then it is the result without a limit. -/
theorem Schema.check_maxDepth (n : Nat) (mode : Mode) (schema : Schema) (value : Value) :
    ∀ depth, schema.check (.maxDepth n) mode depth value =
      within n (depth + schema.visitedDepth mode value) (schema.rejection? mode value) := by
  induction schema, value using demand_induction with
  | weigh schema value ih =>
    intro depth
    -- The limit is tested on the way in, where the demands start one deeper.
    rw [check_eq, visitedDepth_eq, ← Nat.add_assoc]
    by_cases entered : depth + 1 ≤ n
    · have enters : (Limit.maxDepth n).enter depth = .ok () := if_pos entered
      have limited : Limited n (depth + 1) mode (Demand.check (.maxDepth n) mode (depth + 1))
          (schema.demands value) := by
        intro demand mem
        cases demand with
        | part step inner part =>
          rw [Demand.check, ih step inner part mem, ← map_eq_bind, within_map]
          rfl
        | presence key => exact (within_of_le entered _).symm
      rw [enters, ok_bind, weigh_maxDepth entered limited]
    · have enters : (Limit.maxDepth n).enter depth = .error .maxDepthExceeded := if_neg entered
      rw [enters, error_bind, within_of_lt (by omega)]

end Limited

/-- **A limit ends a check exactly when the check visits more than the limit allows, and changes
nothing otherwise.**  The visited depth is never more than the height of the schema, so that a limit
of at least that height never changes an answer. -/
theorem maxDepth_exact :
    (∀ (mode : Mode) (n : Nat) (schema : Schema) (value : Value),
      schema.check (.maxDepth n) mode 0 value =
        if schema.visitedDepth mode value ≤ n then
          .ok (certain (schema.check .unbounded mode 0 value))
        else
          .error .maxDepthExceeded) ∧
    (∀ (mode : Mode) (schema : Schema) (value : Value),
      schema.visitedDepth mode value ≤ schema.height) ∧
    (∀ (mode : Mode) (n : Nat) (schema : Schema) (value : Value), schema.height ≤ n →
      schema.check (.maxDepth n) mode 0 value =
        .ok (certain (schema.check .unbounded mode 0 value))) := by
  refine ⟨fun mode n schema value => ?_, Schema.visitedDepth_le_height,
    fun mode n schema value high => ?_⟩
  · rw [schema.check_maxDepth, Nat.zero_add]
    rfl
  · have fits := Nat.le_trans (schema.visitedDepth_le_height mode value) high
    rw [schema.check_maxDepth, Nat.zero_add, within_of_le fits]
    rfl

/-- A limit of three is enough for arrays of choices. -/
theorem maxDepth_exact_array_of_choices :
    (Schema.arrayOf (.oneOf [.primitive .null, .primitive .string])).height ≤ 3 ∧
      (Schema.arrayOf (.oneOf [.primitive .null, .primitive .string])).check
          (.maxDepth 3) .exhaustive 0 (.array [.null, .undefined]) =
        .ok (certain ((Schema.arrayOf (.oneOf [.primitive .null, .primitive .string])).check
          .unbounded .exhaustive 0 (.array [.null, .undefined]))) :=
  ⟨by decide, maxDepth_exact.2.2 .exhaustive 3 _ _ (by decide)⟩

end Conformance
