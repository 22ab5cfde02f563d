import PoolDashboard.Basic
import Mathlib.Algebra.Order.Ring.Rat

/-
The pools overview (`PoolsOverview`): the pool table sorted by hashrate, one
selected pool shown in the detail panel, and the effect that keeps the
selection on a listed pool.  The pools come from `usePoolsData`: a settled
load replaces them, a failed one keeps them.  The effect depends on the pools
and on the selection, so it runs after every event and again after its own
update; `selectionEffect_idem` says that second run changes nothing, and every
state the overview reaches is a fixed point of the effect.
-/

namespace PoolDashboard

/-- The part of `Pool` the overview's logic reads: its `id` and
`poolStats?.poolHashrate`. -/
structure OverviewPool where
  id : String
  poolHashrate : Option ℚ
deriving Repr, DecidableEq

/-- `pool.poolStats?.poolHashrate ?? 0`. -/
def hashrateOrZero (pool : OverviewPool) : ℚ :=
  pool.poolHashrate.getD 0

/-- The comparator `(b.poolStats?.poolHashrate ?? 0) - (a.poolStats?.poolHashrate ?? 0)`,
read as "`a` may stay before `b`". -/
def hashrateOrder (a b : OverviewPool) : Prop :=
  hashrateOrZero b ≤ hashrateOrZero a

instance : DecidableRel hashrateOrder := fun a b =>
  inferInstanceAs (Decidable (hashrateOrZero b ≤ hashrateOrZero a))

theorem hashrateOrder_total (a b : OverviewPool) : hashrateOrder a b ∨ hashrateOrder b a :=
  le_total _ _

theorem hashrateOrder_trans {a b c : OverviewPool} (hab : hashrateOrder a b)
    (hbc : hashrateOrder b c) : hashrateOrder a c :=
  le_trans hbc hab

instance : IsTotal OverviewPool hashrateOrder := ⟨hashrateOrder_total⟩

instance : IsTrans OverviewPool hashrateOrder := ⟨fun _ _ _ => hashrateOrder_trans⟩

/-- `sortedPools`: a stable sort with the highest hashrate first. -/
def sortedPools (pools : List OverviewPool) : List OverviewPool :=
  pools.insertionSort hashrateOrder

/-- The table's first row is the response's first pool exactly when no pool
has a higher hashrate: the sort is stable, so ties keep that pool on top. -/
theorem sortedPools_head?_eq_iff (first : OverviewPool) (rest : List OverviewPool) :
    (sortedPools (first :: rest)).head? = some first ↔
      ∀ pool ∈ rest, hashrateOrZero pool ≤ hashrateOrZero first := by
  constructor
  · intro hhead pool hpool
    obtain ⟨tail, htail⟩ := List.head?_eq_some_iff.mp hhead
    have hsorted := List.sorted_insertionSort hashrateOrder (first :: rest)
    have hmem : pool ∈ first :: tail := by
      rw [← htail]
      exact (List.perm_insertionSort _ _).mem_iff.mpr (List.mem_cons_of_mem _ hpool)
    rw [sortedPools] at htail
    rw [htail] at hsorted
    rcases List.mem_cons.mp hmem with rfl | htl
    · exact le_rfl
    · exact List.rel_of_sorted_cons hsorted pool htl
  · intro hmax
    rw [sortedPools, List.insertionSort_cons hashrateOrder hmax]
    rfl

/-- The overview's state: `usePoolsData`'s pools and `selectedPoolId`. -/
structure OverviewState where
  pools : List OverviewPool
  selectedPoolId : Option String
deriving Repr, DecidableEq

def initialOverview : OverviewState := ⟨[], none⟩

namespace OverviewState

/-- `selectedPool`: `pools.find((pool) => pool.id === selectedPoolId) ?? null`. -/
def selectedPool (s : OverviewState) : Option OverviewPool :=
  s.pools.find? fun pool => some pool.id = s.selectedPoolId

end OverviewState

/-- The selection effect: no pools clear the selection, and a selection that
names no listed pool moves to the first pool of the response. -/
def selectionEffect (s : OverviewState) : OverviewState :=
  match s.pools with
  | [] => { s with selectedPoolId := none }
  | first :: _ => if s.selectedPool.isSome then s else { s with selectedPoolId := some first.id }

/-- What the overview reacts to: a settled `load` of `usePoolsData` (`none`
when `fetchPools` threw, which keeps the pools) and a click on a table row. -/
inductive OverviewEvent where
  | poll (response : Option (List OverviewPool))
  | choose (id : String)
deriving Repr, DecidableEq

namespace OverviewState

def applyEvent (s : OverviewState) : OverviewEvent → OverviewState
  | .poll (some pools) => { s with pools }
  | .poll none => s
  | .choose id => { s with selectedPoolId := some id }

end OverviewState

/-- One event and the effect run of the commit it causes. -/
def overviewStep (s : OverviewState) (event : OverviewEvent) : OverviewState :=
  selectionEffect (s.applyEvent event)

/-- A row's `onClick` sets the id of a row the table renders. -/
def overviewEnabled (s : OverviewState) : OverviewEvent → Bool
  | .choose id => (sortedPools s.pools).any (·.id = id)
  | .poll _ => true

inductive OverviewReachable : OverviewState → Prop where
  | initial : OverviewReachable initialOverview
  | step {s : OverviewState} (event : OverviewEvent) (henabled : overviewEnabled s event = true) :
      OverviewReachable s → OverviewReachable (overviewStep s event)

/-- Every event of `events` is enabled where it happens. -/
def overviewAllowed : OverviewState → List OverviewEvent → Bool
  | _, [] => true
  | s, event :: events => overviewEnabled s event && overviewAllowed (overviewStep s event) events

theorem OverviewReachable.foldl {s : OverviewState} (hs : OverviewReachable s)
    {events : List OverviewEvent} (hallowed : overviewAllowed s events = true) :
    OverviewReachable (events.foldl overviewStep s) := by
  induction events generalizing s with
  | nil => exact hs
  | cons event events ih =>
      simp only [overviewAllowed, Bool.and_eq_true] at hallowed
      exact ih (hs.step event hallowed.1) hallowed.2

/-! ### The effect -/

@[simp] theorem selectionEffect_pools (s : OverviewState) : (selectionEffect s).pools = s.pools := by
  unfold selectionEffect
  split
  · rfl
  · split_ifs <;> rfl

theorem selectedPool_isSome_iff (s : OverviewState) :
    s.selectedPool.isSome ↔ ∃ pool ∈ s.pools, some pool.id = s.selectedPoolId := by
  rw [OverviewState.selectedPool, List.find?_isSome]
  simp only [decide_eq_true_eq]

/-- After the effect the selection names a listed pool, or there is none. -/
theorem selectionEffect_settles (s : OverviewState) :
    if s.pools = [] then (selectionEffect s).selectedPoolId = none
    else (selectionEffect s).selectedPool.isSome := by
  unfold selectionEffect
  cases hpools : s.pools with
  | nil => rfl
  | cons first rest =>
      rw [if_neg (List.cons_ne_nil _ _)]
      split_ifs with hsome
      · exact hsome
      · rw [selectedPool_isSome_iff]
        exact ⟨first, by simp [hpools], rfl⟩

/-- A second run of the effect, after the render its own update causes,
changes nothing. -/
theorem selectionEffect_idem (s : OverviewState) :
    selectionEffect (selectionEffect s) = selectionEffect s := by
  have hsettled := selectionEffect_settles s
  rw [← selectionEffect_pools s] at hsettled
  generalize selectionEffect s = t at hsettled
  unfold selectionEffect
  split
  · rename_i hnil
    rw [if_pos hnil] at hsettled
    rw [← hsettled]
  · rename_i first rest hcons
    rw [if_neg (by simp [hcons])] at hsettled
    rw [if_pos hsettled]

theorem OverviewReachable.fixed {s : OverviewState} (hs : OverviewReachable s) :
    selectionEffect s = s := by
  cases hs with
  | initial => rfl
  | step event _ _ => exact selectionEffect_idem _

theorem selectedPoolId_eq_none_iff_of_fixed {s : OverviewState} (hfixed : selectionEffect s = s) :
    s.selectedPoolId = none ↔ s.pools = [] := by
  have hsettled := selectionEffect_settles s
  rw [hfixed] at hsettled
  split_ifs at hsettled with hnil
  · exact ⟨fun _ => hnil, fun _ => hsettled⟩
  · refine ⟨fun hnone => ?_, fun h => absurd h hnil⟩
    obtain ⟨pool, -, hid⟩ := (selectedPool_isSome_iff s).mp hsettled
    rw [hnone] at hid
    cases hid

theorem selectedPool_isSome_iff_of_fixed {s : OverviewState} (hfixed : selectionEffect s = s) :
    s.selectedPool.isSome ↔ s.pools ≠ [] := by
  have hsettled := selectionEffect_settles s
  rw [hfixed] at hsettled
  split_ifs at hsettled with hnil
  · simp [OverviewState.selectedPool, hnil]
  · exact ⟨fun _ => hnil, fun _ => hsettled⟩

/-! ### What the overview guarantees -/

/-- In every state the overview reaches, a pool is selected exactly when
pools are listed; then the detail panel shows a listed pool and the table
highlights a row of it. -/
theorem overview_selection_listed (s : OverviewState) (hs : OverviewReachable s) :
    (s.selectedPoolId = none ↔ s.pools = []) ∧ (s.selectedPool.isSome ↔ s.pools ≠ []) ∧
      (s.pools ≠ [] → ∃ pool ∈ sortedPools s.pools, some pool.id = s.selectedPoolId) := by
  have hfixed := hs.fixed
  refine ⟨selectedPoolId_eq_none_iff_of_fixed hfixed, selectedPool_isSome_iff_of_fixed hfixed,
    fun hpools => ?_⟩
  obtain ⟨pool, hmem, hid⟩ :=
    (selectedPool_isSome_iff s).mp ((selectedPool_isSome_iff_of_fixed hfixed).mpr hpools)
  exact ⟨pool, (List.perm_insertionSort _ _).mem_iff.mpr hmem, hid⟩

theorem overview_selection_listed_after_polls :
    let s := [OverviewEvent.poll (some [⟨"ltc", some 5⟩, ⟨"btc", some 9⟩]), .choose "ltc",
      .poll none].foldl overviewStep initialOverview
    s.selectedPoolId = some "ltc" ∧
      ((s.selectedPoolId = none ↔ s.pools = []) ∧ (s.selectedPool.isSome ↔ s.pools ≠ []) ∧
        (s.pools ≠ [] → ∃ pool ∈ sortedPools s.pools, some pool.id = s.selectedPoolId)) := by
  intro s
  exact ⟨by decide, overview_selection_listed s (OverviewReachable.initial.foldl (by decide))⟩

/-- The effect leaves a state whose selection names a listed pool alone. -/
theorem selectionEffect_of_isSome {s : OverviewState} (h : s.selectedPool.isSome) :
    selectionEffect s = s := by
  unfold selectionEffect
  split
  · rename_i hnil
    obtain ⟨_, hmem, -⟩ := (selectedPool_isSome_iff s).mp h
    rw [hnil] at hmem
    cases hmem
  · rw [if_pos h]

/-- A poll that lists the selected pool keeps it selected. -/
theorem overviewStep_poll_keeps {s : OverviewState} {id : String} (hsel : s.selectedPoolId = some id)
    (hlisted : ∃ pool ∈ s.pools, pool.id = id) (response : Option (List OverviewPool))
    (hresponse : ∀ pools, response = some pools → ∃ pool ∈ pools, pool.id = id) :
    overviewStep s (.poll response) = s.applyEvent (.poll response) := by
  apply selectionEffect_of_isSome
  rw [selectedPool_isSome_iff]
  cases response with
  | none =>
      obtain ⟨pool, hmem, hid⟩ := hlisted
      exact ⟨pool, hmem, by rw [hid, ← hsel]; rfl⟩
  | some pools =>
      obtain ⟨pool, hmem, hid⟩ := hresponse pools rfl
      exact ⟨pool, hmem, by rw [hid, ← hsel]; rfl⟩

/-- A pool the user selected stays selected through every later poll, failed
or settled, as long as each settled poll still lists it. -/
theorem overview_choice_sticks (s : OverviewState) (hs : OverviewReachable s) (id : String)
    (hsel : s.selectedPoolId = some id) (responses : List (Option (List OverviewPool)))
    (hlisted : ∀ pools, some pools ∈ responses → ∃ pool ∈ pools, pool.id = id) :
    ((responses.map OverviewEvent.poll).foldl overviewStep s).selectedPoolId = some id := by
  induction responses generalizing s with
  | nil => exact hsel
  | cons response responses ih =>
      have hcurrent : ∃ pool ∈ s.pools, pool.id = id := by
        obtain ⟨pool, hmem, hid⟩ := (selectedPool_isSome_iff s).mp
          ((selectedPool_isSome_iff_of_fixed hs.fixed).mpr
            (fun hnil => by simp [(selectedPoolId_eq_none_iff_of_fixed hs.fixed).mpr hnil] at hsel))
        exact ⟨pool, hmem, Option.some.inj (hid.trans hsel)⟩
      have hstep := overviewStep_poll_keeps hsel hcurrent response
        (fun pools hresponse => hlisted pools (hresponse ▸ List.mem_cons_self _ _))
      refine ih _ (hs.step _ rfl) ?_ (fun pools hmem => hlisted pools (List.mem_cons_of_mem _ hmem))
      rw [hstep]
      cases response <;> exact hsel

theorem overview_choice_sticks_through_polls :
    let s := [OverviewEvent.poll (some [⟨"ltc", some 5⟩, ⟨"btc", some 9⟩]), .choose "ltc"].foldl
      overviewStep initialOverview
    s.selectedPoolId = some "ltc" ∧
      (([some [⟨"btc", some 9⟩, ⟨"ltc", none⟩], none].map OverviewEvent.poll).foldl overviewStep
        s).selectedPoolId = some "ltc" := by
  intro s
  have hs : OverviewReachable s := OverviewReachable.initial.foldl (by decide)
  refine ⟨by decide, overview_choice_sticks s hs "ltc" (by decide) _ fun pools hmem => ?_⟩
  simp only [List.mem_cons, Option.some.injEq, reduceCtorEq, List.mem_nil_iff, or_false] at hmem
  subst hmem
  decide

/-- A poll that no longer lists the selection, the first poll included,
selects the response's first pool. -/
theorem overviewStep_poll_unlisted (s : OverviewState) (first : OverviewPool)
    (rest : List OverviewPool) (hgone : ∀ pool ∈ first :: rest, some pool.id ≠ s.selectedPoolId) :
    overviewStep s (.poll (some (first :: rest))) = ⟨first :: rest, some first.id⟩ := by
  have hnone : ¬ ({ s with pools := first :: rest } : OverviewState).selectedPool.isSome :=
    fun h => let ⟨pool, hmem, hid⟩ := (selectedPool_isSome_iff _).mp h; hgone pool hmem hid
  change selectionEffect { s with pools := first :: rest } = _
  exact if_neg hnone

/-- The pool the overview selects by itself, on the first poll or when the
selected pool leaves the list, is the first pool of the response, in the API's
order; the table sorts by hashrate, and it shows that pool on top only when no
pool of the response has a higher hashrate. -/
theorem overview_default_is_response_head (s : OverviewState) (first : OverviewPool)
    (rest : List OverviewPool) (hgone : ∀ pool ∈ first :: rest, some pool.id ≠ s.selectedPoolId) :
    let s' := overviewStep s (.poll (some (first :: rest)))
    s'.selectedPool = some first ∧
      ((sortedPools s'.pools).head? = some first ↔
        ∀ pool ∈ rest, hashrateOrZero pool ≤ hashrateOrZero first) := by
  dsimp only
  rw [overviewStep_poll_unlisted s first rest hgone]
  exact ⟨List.find?_cons_of_pos _ (decide_eq_true rfl), sortedPools_head?_eq_iff first rest⟩

theorem overview_default_is_response_head_on_first_poll :
    let s' := overviewStep initialOverview (.poll (some [⟨"ltc", some 5⟩, ⟨"btc", some 9⟩]))
    (sortedPools s'.pools).head? ≠ some ⟨"ltc", some 5⟩ ∧
      (s'.selectedPool = some ⟨"ltc", some 5⟩ ∧
        ((sortedPools s'.pools).head? = some ⟨"ltc", some 5⟩ ↔
          ∀ pool ∈ [(⟨"btc", some 9⟩ : OverviewPool)], hashrateOrZero pool ≤ hashrateOrZero ⟨"ltc", some 5⟩)) :=
  ⟨by decide, overview_default_is_response_head initialOverview ⟨"ltc", some 5⟩ [⟨"btc", some 9⟩]
    (by decide)⟩

end PoolDashboard
