import PoolDashboard.Basic
import Mathlib.Algebra.Order.Ring.Rat
import Mathlib.Data.Prod.Lex

/-
The connect page (`ConnectContent`): pool badges ordered by `sortPools`, the
active pool chosen from the `?pool=` parameter, the last active pool or the
first badge, and the port rows of the active pool with one selected port.
The page's two effects run on different dependencies.  The active-pool effect
runs on a new pool list or a new query string; the port effect runs on a new
`portEntries`, which follows the active pool object.  A badge click therefore
runs only the port effect, and the next poll runs the active-pool effect again.
-/

namespace PoolDashboard

/-- The part of `Pool` the connect page reads: its id, `coin?.symbol`, and
`Object.entries(pool.ports ?? {})` with the port keys read as numbers. -/
structure ConnectPool where
  id : String
  symbol : Option String
  ports : List (Nat × PortConfig)
deriving Repr, DecidableEq

/-- The UTF-16 code units of a string, which JavaScript's `<` on strings
compares in order: a character from U+10000 on is a surrogate pair. -/
def utf16Units (value : String) : List Nat :=
  value.toList.flatMap fun c =>
    if c.toNat < 0x10000 then [c.toNat]
    else [0xD800 + (c.toNat - 0x10000) / 0x400, 0xDC00 + (c.toNat - 0x10000) % 0x400]

section

/- `String.prototype.toLowerCase`, Unicode's full lower-case mapping with its
final-sigma rule; the page compares whole lowered names, and no result here
depends on which mapping it is. -/
variable (toLowerCase : String → String)

/-- `${pool.coin?.symbol ?? pool.id}`.toLowerCase(), as the code units the
comparison reads. -/
def sortName (pool : ConnectPool) : List Nat :=
  utf16Units (toLowerCase (pool.symbol.getD pool.id))

/-- `sortPools`: a stable sort by `sortName`, so two pools of one name keep
their order.  The names are compared by core's lexicographic order on their
code units, the order of JavaScript's string comparison. -/
def sortPools (pools : List ConnectPool) : List ConnectPool :=
  pools.insertionSort fun a b =>
    ¬ @LT.lt (List Nat) List.instLT (sortName toLowerCase b) (sortName toLowerCase a)

/-- `cfg?.minDiff ?? Number.MAX_SAFE_INTEGER`. -/
def minDiffOrMax (config : PortConfig) : ℚ :=
  (config.varDiff.bind (·.minDiff)).getD 9007199254740991

/-- The comparator of `portEntries`, read as "`a` may stay before `b`": it
returns `da - db` when the minimum difficulties differ and the difference of
the ports otherwise. -/
def portOrder (a b : Nat × PortConfig) : Prop :=
  if minDiffOrMax a.2 ≠ minDiffOrMax b.2 then minDiffOrMax a.2 < minDiffOrMax b.2 else a.1 ≤ b.1

instance : DecidableRel portOrder := fun a b =>
  inferInstanceAs (Decidable (if minDiffOrMax a.2 ≠ minDiffOrMax b.2 then
    minDiffOrMax a.2 < minDiffOrMax b.2 else a.1 ≤ b.1))

/-- `portEntries`: no rows without an active pool, else its port entries sorted
by minimum difficulty and then by port. -/
def portEntries : Option ConnectPool → List (Nat × PortConfig)
  | none => []
  | some pool => pool.ports.insertionSort portOrder

/-- `x && orderedPools.some((pool) => pool.id === x)`: an empty or missing id
is falsy. -/
def listed (orderedPools : List ConnectPool) : Option String → Bool
  | some id => id ≠ "" && orderedPools.any (·.id = id)
  | none => false

/-- The updater of the active-pool effect: the requested pool when listed, else
the previous one when listed, else the first badge; an empty list returns
before the update. -/
def nextActivePoolId (orderedPools : List ConnectPool) (requested prev : Option String) :
    Option String :=
  match orderedPools with
  | [] => prev
  | first :: _ =>
      if listed orderedPools requested then requested
      else if listed orderedPools prev then prev
      else some first.id

/-- The updater of the port effect: no rows clear the selection, a listed port
stays, and otherwise the middle row is chosen. -/
def nextSelectedPort (entries : List (Nat × PortConfig)) (prev : Option Nat) : Option Nat :=
  if entries = [] then none
  else if prev.any fun port => entries.any (·.1 = port) then prev
  else (entries[min (entries.length / 2) (entries.length - 1)]?).map (·.1)

/-- The page's state: `usePoolsData`'s pools, the `pool` query parameter, and
the two `useState`s. -/
structure ConnectState where
  pools : List ConnectPool
  query : Option String
  activePoolId : Option String
  selectedPort : Option Nat
deriving Repr, DecidableEq

namespace ConnectState

def orderedPools (s : ConnectState) : List ConnectPool :=
  sortPools toLowerCase s.pools

/-- `orderedPools.find((pool) => pool.id === activePoolId) ?? null`. -/
def activePool (s : ConnectState) : Option ConnectPool :=
  (s.orderedPools toLowerCase).find? fun pool => some pool.id = s.activePoolId

def portEntries (s : ConnectState) : List (Nat × PortConfig) :=
  PoolDashboard.portEntries (s.activePool toLowerCase)

/-- `searchParams?.get('pool')?.toLowerCase()`. -/
def requested (s : ConnectState) : Option String :=
  s.query.map toLowerCase

/-- The port effect, run in a commit whose `portEntries` is new. -/
def runPortEffect (s : ConnectState) : ConnectState :=
  { s with selectedPort := nextSelectedPort (s.portEntries toLowerCase) s.selectedPort }

/-- `setActivePoolId(next)`: React skips the render when the id is unchanged;
otherwise the new active pool brings new `portEntries` and the port effect. -/
def setActivePoolId (s : ConnectState) (next : Option String) : ConnectState :=
  if next = s.activePoolId then s
  else ({ s with activePoolId := next } : ConnectState).runPortEffect toLowerCase

/-- The active-pool effect, run in a render after a new list or query string. -/
def runActivePoolEffect (s : ConnectState) : ConnectState :=
  s.setActivePoolId toLowerCase
    (nextActivePoolId (s.orderedPools toLowerCase) (s.requested toLowerCase) s.activePoolId)

/-- The first render after `setPools`: the new list, with the port effect run
against the old active id in it.  A new list brings new pool objects, so
`portEntries` is recomputed unless `activePool` was and stays `null`. -/
def replacePools (s : ConnectState) (pools : List ConnectPool) : ConnectState :=
  let next := { s with pools }
  if (s.activePool toLowerCase).isNone && (next.activePool toLowerCase).isNone then next
  else next.runPortEffect toLowerCase

@[simp] theorem runPortEffect_activePool (s : ConnectState) :
    (s.runPortEffect toLowerCase).activePool toLowerCase = s.activePool toLowerCase := rfl

@[simp] theorem runPortEffect_portEntries (s : ConnectState) :
    (s.runPortEffect toLowerCase).portEntries toLowerCase = s.portEntries toLowerCase := rfl

@[simp] theorem runPortEffect_selectedPort (s : ConnectState) :
    (s.runPortEffect toLowerCase).selectedPort =
      nextSelectedPort (s.portEntries toLowerCase) s.selectedPort := rfl

@[simp] theorem runPortEffect_activePoolId (s : ConnectState) :
    (s.runPortEffect toLowerCase).activePoolId = s.activePoolId := rfl

@[simp] theorem runPortEffect_pools (s : ConnectState) :
    (s.runPortEffect toLowerCase).pools = s.pools := rfl

/-- Whichever way React takes, the id handed to `setActivePoolId` is the one
the page ends with. -/
@[simp] theorem setActivePoolId_activePoolId (s : ConnectState) (next : Option String) :
    (s.setActivePoolId toLowerCase next).activePoolId = next := by
  unfold setActivePoolId
  split
  · exact ‹next = s.activePoolId›.symm
  · rfl

@[simp] theorem setActivePoolId_pools (s : ConnectState) (next : Option String) :
    (s.setActivePoolId toLowerCase next).pools = s.pools := by
  unfold setActivePoolId
  split <;> rfl

theorem runActivePoolEffect_activePoolId (s : ConnectState) :
    (s.runActivePoolEffect toLowerCase).activePoolId =
      nextActivePoolId (s.orderedPools toLowerCase) (s.requested toLowerCase) s.activePoolId :=
  setActivePoolId_activePoolId _ _ _

theorem setActivePoolId_self (s : ConnectState) :
    s.setActivePoolId toLowerCase s.activePoolId = s :=
  if_pos rfl

/-- When the old active id names a pool of the new list, the port effect runs
in the poll's first render. -/
theorem replacePools_of_shown {s : ConnectState} {pools : List ConnectPool}
    (hshown : (({ s with pools } : ConnectState).activePool toLowerCase).isSome) :
    s.replacePools toLowerCase pools =
      ({ s with pools } : ConnectState).runPortEffect toLowerCase := by
  have hnone : (({ s with pools } : ConnectState).activePool toLowerCase).isNone = false := by
    simpa [Option.isNone_iff_eq_none, ← Option.isSome_iff_ne_none] using hshown
  simp only [replacePools, hnone, Bool.and_false, Bool.false_eq_true, ↓reduceIte]

@[simp] theorem replacePools_pools (s : ConnectState) (pools : List ConnectPool) :
    (s.replacePools toLowerCase pools).pools = pools := by
  dsimp only [replacePools]
  split <;> rfl

@[simp] theorem replacePools_activePoolId (s : ConnectState) (pools : List ConnectPool) :
    (s.replacePools toLowerCase pools).activePoolId = s.activePoolId := by
  dsimp only [replacePools]
  split <;> rfl

@[simp] theorem replacePools_requested (s : ConnectState) (pools : List ConnectPool) :
    (s.replacePools toLowerCase pools).requested toLowerCase = s.requested toLowerCase := by
  dsimp only [replacePools]
  split <;> rfl

end ConnectState

/-- What the page can be sent: a poll's result (`none` when `fetchPools`
threw and the pools stay), a navigation to another query string, and clicks
on a pool badge or a port row. -/
inductive ConnectEvent where
  | poll (pools : Option (List ConnectPool))
  | navigate (query : Option String)
  | clickPool (id : String)
  | clickPort (port : Nat)
deriving Repr, DecidableEq

/-- One event and the renders it causes. -/
def connectStep (s : ConnectState) : ConnectEvent → ConnectState
  | .poll none => s
  | .poll (some pools) => (s.replacePools toLowerCase pools).runActivePoolEffect toLowerCase
  | .navigate query => ({ s with query } : ConnectState).runActivePoolEffect toLowerCase
  | .clickPool id => s.setActivePoolId toLowerCase (some id)
  | .clickPort port => { s with selectedPort := some port }

/-- The clicks a render offers: a badge per ordered pool and a row per port
entry. -/
def connectClickable (s : ConnectState) : ConnectEvent → Bool
  | .clickPool id => (s.orderedPools toLowerCase).any (·.id = id)
  | .clickPort port => (s.portEntries toLowerCase).any (·.1 = port)
  | _ => true

/-- The mount: no pools yet, so the active-pool effect returns early and the
port effect clears the selection. -/
def initialConnect (query : Option String) : ConnectState :=
  ⟨[], query, none, none⟩

/-- The states the page reaches from a mount through events, clicking only
what the render offers. -/
inductive ConnectReachable : ConnectState → Prop
  | initial (query : Option String) : ConnectReachable (initialConnect query)
  | step {s : ConnectState} (event : ConnectEvent) :
      ConnectReachable s → connectClickable toLowerCase s event = true →
        ConnectReachable (connectStep toLowerCase s event)

/-! ### Badges and the active pool -/

theorem mem_sortPools {pools : List ConnectPool} {pool : ConnectPool} :
    pool ∈ sortPools toLowerCase pools ↔ pool ∈ pools :=
  (List.perm_insertionSort _ pools).mem_iff

theorem sortPools_eq_nil {pools : List ConnectPool} :
    sortPools toLowerCase pools = [] ↔ pools = [] := by
  rw [← List.length_eq_zero, sortPools, (List.perm_insertionSort _ pools).length_eq,
    List.length_eq_zero]

theorem listed_iff {orderedPools : List ConnectPool} {x : Option String} :
    listed orderedPools x = true ↔
      ∃ id, x = some id ∧ id ≠ "" ∧ ∃ pool ∈ orderedPools, pool.id = id := by
  cases x with
  | none => simp only [listed, Bool.false_eq_true, reduceCtorEq, false_and, exists_const]
  | some id =>
      simp only [listed, ne_eq, decide_not, Bool.and_eq_true, Bool.not_eq_eq_eq_not, Bool.not_true,
        decide_eq_false_iff_not, List.any_eq_true, decide_eq_true_eq, Option.some.injEq,
        exists_eq_left']

theorem ConnectState.activePool_isSome_iff (s : ConnectState) :
    (s.activePool toLowerCase).isSome ↔ ∃ pool ∈ s.pools, s.activePoolId = some pool.id := by
  simp only [ConnectState.activePool, List.find?_isSome, decide_eq_true_eq,
    ConnectState.orderedPools, mem_sortPools, @eq_comm _ s.activePoolId]

/-- The active-pool effect always lands on a listed pool. -/
theorem nextActivePoolId_listed {orderedPools : List ConnectPool} (requested prev : Option String)
    (hpools : orderedPools ≠ []) :
    ∃ pool ∈ orderedPools, nextActivePoolId orderedPools requested prev = some pool.id := by
  obtain ⟨first, rest, rfl⟩ := List.exists_cons_of_ne_nil hpools
  simp only [nextActivePoolId]
  split_ifs with hreq hprev
  · obtain ⟨id, rfl, -, pool, hpool, rfl⟩ := listed_iff.mp hreq
    exact ⟨pool, hpool, rfl⟩
  · obtain ⟨id, rfl, -, pool, hpool, rfl⟩ := listed_iff.mp hprev
    exact ⟨pool, hpool, rfl⟩
  · exact ⟨first, List.mem_cons_self _ _, rfl⟩

theorem nextActivePoolId_of_requested {orderedPools : List ConnectPool} {requested : Option String}
    (prev : Option String) (hreq : listed orderedPools requested = true) :
    nextActivePoolId orderedPools requested prev = requested := by
  cases orderedPools with
  | nil =>
      obtain ⟨_, _, _, _, hpool, _⟩ := listed_iff.mp hreq
      cases hpool
  | cons first rest => simp only [nextActivePoolId, hreq, ↓reduceIte]

theorem nextActivePoolId_of_prev {orderedPools : List ConnectPool} {requested prev : Option String}
    (hreq : listed orderedPools requested = false) (hprev : listed orderedPools prev = true) :
    nextActivePoolId orderedPools requested prev = prev := by
  cases orderedPools with
  | nil => rfl
  | cons first rest => simp only [nextActivePoolId, hreq, hprev, Bool.false_eq_true, ↓reduceIte]

/-! ### Port rows and the selected port -/

/-- The selected port is one of the rows, and there is none only when there
are no rows. -/
def PortRendered (entries : List (Nat × PortConfig)) : Option Nat → Prop
  | none => entries = []
  | some port => port ∈ entries.map (·.1)

theorem portRendered_some {entries : List (Nat × PortConfig)} {port : Nat} :
    PortRendered entries (some port) ↔ ∃ entry ∈ entries, entry.1 = port :=
  List.mem_map

theorem nextSelectedPort_of_mem {entries : List (Nat × PortConfig)} {port : Nat}
    (hport : port ∈ entries.map (·.1)) : nextSelectedPort entries (some port) = some port := by
  obtain ⟨entry, hentry, rfl⟩ := List.mem_map.mp hport
  simp only [nextSelectedPort, List.ne_nil_of_mem hentry, ↓reduceIte, Option.any_some,
    List.any_eq_true, decide_eq_true_eq]
  rw [if_pos ⟨entry, hentry, rfl⟩]

/-- Whatever it was before, the port effect leaves a rendered selection. -/
theorem nextSelectedPort_rendered (entries : List (Nat × PortConfig)) (prev : Option Nat) :
    PortRendered entries (nextSelectedPort entries prev) := by
  unfold nextSelectedPort
  split_ifs with hnil hprev
  · exact hnil
  · cases prev with
    | none => exact absurd hprev Bool.false_ne_true
    | some port =>
        obtain ⟨entry, hentry, hport⟩ := List.any_eq_true.mp hprev
        exact portRendered_some.mpr ⟨entry, hentry, of_decide_eq_true hport⟩
  · have hlen : min (entries.length / 2) (entries.length - 1) < entries.length :=
      (min_le_right _ _).trans_lt (Nat.sub_lt (List.length_pos.mpr hnil) Nat.one_pos)
    rw [List.getElem?_eq_getElem hlen, Option.map_some']
    exact List.mem_map_of_mem _ (List.getElem_mem hlen)

/-! ### The invariant of every reachable state -/

/-- Once pools are listed an active pool is shown, and the selected port is a
rendered row of it. -/
structure ConnectCoherent (s : ConnectState) : Prop where
  active_shown : s.pools ≠ [] → (s.activePool toLowerCase).isSome
  port_rendered : PortRendered (s.portEntries toLowerCase) s.selectedPort

theorem ConnectState.runPortEffect_rendered (s : ConnectState) :
    PortRendered ((s.runPortEffect toLowerCase).portEntries toLowerCase)
      (s.runPortEffect toLowerCase).selectedPort :=
  nextSelectedPort_rendered _ _

/-- A render that sets a listed id keeps the invariant, whether React skips it
or runs the port effect. -/
theorem ConnectState.setActivePoolId_coherent {s : ConnectState} {next : Option String}
    (hport : PortRendered (s.portEntries toLowerCase) s.selectedPort)
    (hnext : s.pools ≠ [] → ∃ pool ∈ s.pools, next = some pool.id) :
    ConnectCoherent toLowerCase (s.setActivePoolId toLowerCase next) := by
  have hshown : s.pools ≠ [] → ((s.setActivePoolId toLowerCase next).activePool toLowerCase).isSome :=
    fun hpools => by
      obtain ⟨pool, hpool, hid⟩ := hnext hpools
      rw [ConnectState.activePool_isSome_iff]
      exact ⟨pool, by simpa using hpool, by simpa using hid⟩
  unfold ConnectState.setActivePoolId at hshown ⊢
  split
  · exact ⟨by simpa [*] using hshown, hport⟩
  · exact ⟨by simpa [*] using hshown, ConnectState.runPortEffect_rendered _ _⟩

theorem ConnectState.runActivePoolEffect_coherent {s : ConnectState}
    (hport : PortRendered (s.portEntries toLowerCase) s.selectedPort) :
    ConnectCoherent toLowerCase (s.runActivePoolEffect toLowerCase) :=
  ConnectState.setActivePoolId_coherent toLowerCase hport fun hpools => by
    obtain ⟨pool, hpool, hid⟩ := nextActivePoolId_listed (s.requested toLowerCase) s.activePoolId
      (mt (sortPools_eq_nil toLowerCase).mp hpools)
    exact ⟨pool, (mem_sortPools toLowerCase).mp hpool, hid⟩

theorem ConnectState.replacePools_rendered {s : ConnectState} (hs : ConnectCoherent toLowerCase s)
    (pools : List ConnectPool) :
    PortRendered ((s.replacePools toLowerCase pools).portEntries toLowerCase)
      (s.replacePools toLowerCase pools).selectedPort := by
  dsimp only [ConnectState.replacePools]
  split
  · rename_i hnone
    simp only [Bool.and_eq_true, Option.isNone_iff_eq_none] at hnone
    have hold := hs.port_rendered
    simp only [ConnectState.portEntries, hnone.1, hnone.2] at hold ⊢
    exact hold
  · exact ConnectState.runPortEffect_rendered _ _

theorem ConnectCoherent.initial (query : Option String) :
    ConnectCoherent toLowerCase (initialConnect query) :=
  ⟨fun h => absurd rfl h, rfl⟩

theorem ConnectCoherent.connectStep {s : ConnectState} (hs : ConnectCoherent toLowerCase s)
    {event : ConnectEvent} (hclick : connectClickable toLowerCase s event = true) :
    ConnectCoherent toLowerCase (connectStep toLowerCase s event) := by
  cases event with
  | poll pools =>
      cases pools with
      | none => exact hs
      | some pools =>
          exact ConnectState.runActivePoolEffect_coherent toLowerCase
            (ConnectState.replacePools_rendered toLowerCase hs pools)
  | navigate query => exact ConnectState.runActivePoolEffect_coherent toLowerCase hs.port_rendered
  | clickPool id =>
      obtain ⟨pool, hpool, hid⟩ := List.any_eq_true.mp hclick
      exact ConnectState.setActivePoolId_coherent toLowerCase hs.port_rendered fun _ =>
        ⟨pool, (mem_sortPools toLowerCase).mp hpool, by rw [of_decide_eq_true hid]⟩
  | clickPort port =>
      obtain ⟨entry, hentry, hport⟩ := List.any_eq_true.mp hclick
      exact ⟨hs.active_shown, portRendered_some.mpr ⟨entry, hentry, by simpa using hport⟩⟩

theorem ConnectReachable.coherent {s : ConnectState} (hs : ConnectReachable toLowerCase s) :
    ConnectCoherent toLowerCase s := by
  induction hs with
  | initial query => exact ConnectCoherent.initial toLowerCase query
  | step event _ hclick ih => exact ih.connectStep toLowerCase hclick

/-- In every state the connect page reaches, an active pool is shown as soon as
any pool is listed, and the selected port is one of the active pool's port
rows, with no selection only when it has no rows. -/
theorem connect_selection_rendered (s : ConnectState) (hs : ConnectReachable toLowerCase s) :
    (s.pools ≠ [] → ∃ pool ∈ s.pools, s.activePoolId = some pool.id) ∧
      (s.selectedPort = none ↔ s.portEntries toLowerCase = []) ∧
      ∀ port, s.selectedPort = some port → ∃ entry ∈ s.portEntries toLowerCase, entry.1 = port := by
  have hcoh := hs.coherent
  refine ⟨fun hpools => (s.activePool_isSome_iff toLowerCase).mp (hcoh.active_shown hpools), ?_, ?_⟩
  · have hport := hcoh.port_rendered
    cases hsel : s.selectedPort with
    | none => simpa [hsel, PortRendered] using hport
    | some port =>
        rw [hsel, portRendered_some] at hport
        obtain ⟨entry, hentry, -⟩ := hport
        simp only [reduceCtorEq, false_iff]
        exact List.ne_nil_of_mem hentry
  · intro port hsel
    have hport := hcoh.port_rendered
    rwa [hsel, portRendered_some] at hport

end

/-- JavaScript's lower-case mapping on ASCII names, where Unicode's mapping is
core's `Char.toLower`. -/
def asciiLowerCase (value : String) : String :=
  ⟨value.toList.map Char.toLower⟩

theorem connect_selection_rendered_after_poll :
    let s := connectStep asciiLowerCase (initialConnect (some "BTC"))
      (.poll (some [⟨"ltc", some "LTC", []⟩, ⟨"btc", some "BTC", []⟩]))
    ConnectReachable asciiLowerCase s ∧ s.activePoolId = some "btc" ∧
      ((s.pools ≠ [] → ∃ pool ∈ s.pools, s.activePoolId = some pool.id) ∧
        (s.selectedPort = none ↔ s.portEntries asciiLowerCase = []) ∧
        ∀ port, s.selectedPort = some port →
          ∃ entry ∈ s.portEntries asciiLowerCase, entry.1 = port) := by
  intro s
  have hs : ConnectReachable asciiLowerCase s := .step _ (.initial (some "BTC")) rfl
  exact ⟨hs, by decide, connect_selection_rendered asciiLowerCase _ hs⟩

/-! ### Polls against the query string and the last choice -/

section

variable (toLowerCase : String → String)

/-- A poll whose list holds the pool named by the query string makes that pool
active, whatever badge was clicked before it. -/
theorem poll_activates_requested (s : ConnectState) (pools : List ConnectPool) (id : String)
    (hreq : s.requested toLowerCase = some id) (hid : id ≠ "")
    (hlisted : ∃ pool ∈ pools, pool.id = id) :
    (connectStep toLowerCase s (.poll (some pools))).activePoolId = some id := by
  obtain ⟨pool, hpool, hpoolId⟩ := hlisted
  have hlist : listed (sortPools toLowerCase pools) (some id) = true :=
    listed_iff.mpr ⟨id, rfl, hid, pool, (mem_sortPools toLowerCase).mpr hpool, hpoolId⟩
  rw [connectStep, ConnectState.runActivePoolEffect_activePoolId, ConnectState.orderedPools,
    ConnectState.replacePools_pools, ConnectState.replacePools_requested, hreq]
  exact nextActivePoolId_of_requested _ hlist

/-- With no listed pool requested, a poll that still lists the active pool keeps
it, and keeps the selected port while that pool still has it. -/
theorem poll_keeps_selection (s : ConnectState) (pools : List ConnectPool)
    (hreq : listed (sortPools toLowerCase pools) (s.requested toLowerCase) = false)
    (hactive : listed (sortPools toLowerCase pools) s.activePoolId = true) :
    let s' := connectStep toLowerCase s (.poll (some pools))
    s'.activePoolId = s.activePoolId ∧
      ∀ port, s.selectedPort = some port → port ∈ (s'.portEntries toLowerCase).map (·.1) →
        s'.selectedPort = some port := by
  have hnext : nextActivePoolId (sortPools toLowerCase pools) (s.requested toLowerCase)
      s.activePoolId = s.activePoolId :=
    nextActivePoolId_of_prev hreq hactive
  have hshown : (({ s with pools } : ConnectState).activePool toLowerCase).isSome := by
    obtain ⟨id, hid, -, pool, hpool, rfl⟩ := listed_iff.mp hactive
    exact (ConnectState.activePool_isSome_iff toLowerCase _).mpr
      ⟨pool, (mem_sortPools toLowerCase).mp hpool, hid⟩
  have hstep : connectStep toLowerCase s (.poll (some pools)) =
      ({ s with pools } : ConnectState).runPortEffect toLowerCase := by
    rw [connectStep, ConnectState.replacePools_of_shown toLowerCase hshown]
    show ConnectState.setActivePoolId toLowerCase _
      (nextActivePoolId (sortPools toLowerCase pools) (s.requested toLowerCase) s.activePoolId) = _
    rw [hnext]
    exact ConnectState.setActivePoolId_self _ _
  intro s'
  rw [show s' = _ from hstep]
  refine ⟨rfl, fun port hsel hport => ?_⟩
  show nextSelectedPort _ s.selectedPort = _
  rw [hsel]
  exact nextSelectedPort_of_mem hport

end

theorem poll_keeps_selection_after_port_click :
    let pools : List ConnectPool :=
      [⟨"btc", some "BTC", [(3333, ⟨none, none, none⟩), (4444, ⟨none, none, none⟩)]⟩]
    let s := connectStep asciiLowerCase
      (connectStep asciiLowerCase (initialConnect none) (.poll (some pools))) (.clickPort 3333)
    s.selectedPort = some 3333 ∧
      (connectStep asciiLowerCase s (.poll (some pools))).selectedPort = some 3333 := by
  intro pools s
  exact ⟨by decide, (poll_keeps_selection asciiLowerCase s pools (by decide) (by decide)).2 3333
    (by decide) (by decide)⟩
/-! ### The default port -/

theorem portOrder_iff (a b : Nat × PortConfig) :
    portOrder a b ↔ toLex (minDiffOrMax a.2, a.1) ≤ toLex (minDiffOrMax b.2, b.1) := by
  rw [Prod.Lex.le_iff, portOrder]
  by_cases hd : minDiffOrMax a.2 = minDiffOrMax b.2
  · simp only [hd, ne_eq, not_true_eq_false, ↓reduceIte, lt_self_iff_false, true_and, false_or]
  · simp only [ne_eq, hd, not_false_eq_true, ↓reduceIte, false_and, or_false]

theorem portOrder_total (a b : Nat × PortConfig) : portOrder a b ∨ portOrder b a := by
  simp only [portOrder_iff]
  exact le_total _ _

theorem portOrder_trans {a b c : Nat × PortConfig} :
    portOrder a b → portOrder b c → portOrder a c := by
  simp only [portOrder_iff]
  exact le_trans

instance : IsTotal (Nat × PortConfig) portOrder := ⟨portOrder_total⟩

instance : IsTrans (Nat × PortConfig) portOrder := ⟨fun _ _ _ => portOrder_trans⟩

/-- With no listed port to keep, the port effect picks the median row of the
pool's ports in the order the page sorts them: the `n / 2` rows before it sort
no later than it, and the rows after it no earlier. -/
theorem default_port_is_median (pool : ConnectPool) (prev : Option Nat) (hports : pool.ports ≠ [])
    (hprev : ∀ port, prev = some port → port ∉ pool.ports.map (·.1)) :
    ∃ entry ∈ pool.ports, nextSelectedPort (portEntries (some pool)) prev = some entry.1 ∧
      (∀ below ∈ (portEntries (some pool)).take (pool.ports.length / 2), portOrder below entry) ∧
      ∀ above ∈ (portEntries (some pool)).drop (pool.ports.length / 2 + 1), portOrder entry above := by
  simp only [portEntries]
  have hperm := List.perm_insertionSort portOrder pool.ports
  have hsorted := List.sorted_insertionSort portOrder pool.ports
  set entries := pool.ports.insertionSort portOrder
  have hlen : entries.length = pool.ports.length := hperm.length_eq
  have hpos : 0 < pool.ports.length := List.length_pos.mpr hports
  have hhalf : pool.ports.length / 2 < pool.ports.length := Nat.div_lt_self hpos Nat.one_lt_two
  have hmid : pool.ports.length / 2 < entries.length := hlen ▸ hhalf
  have hne : entries ≠ [] := List.ne_nil_of_length_pos (Nat.zero_lt_of_lt hmid)
  have hkeep : (prev.any fun port => entries.any (·.1 = port)) = false := by
    cases prev with
    | none => rfl
    | some port =>
        have hport := hprev port rfl
        simp only [Option.any_some, List.any_eq_false, decide_eq_true_eq]
        exact fun entry hentry hid => hport (hid ▸ List.mem_map_of_mem _ (hperm.subset hentry))
  have hidx : min (entries.length / 2) (entries.length - 1) = pool.ports.length / 2 := by
    rw [hlen]
    exact min_eq_left (Nat.le_sub_one_of_lt hhalf)
  have hsplit : entries = entries.take (pool.ports.length / 2) ++
      entries[pool.ports.length / 2] :: entries.drop (pool.ports.length / 2 + 1) := by
    rw [← List.drop_eq_getElem_cons hmid, List.take_append_drop]
  rw [List.Sorted, hsplit, List.pairwise_append, List.pairwise_cons] at hsorted
  refine ⟨entries[pool.ports.length / 2], hperm.subset (List.getElem_mem hmid), ?_,
    fun below hbelow => hsorted.2.2 below hbelow _ (List.mem_cons_self _ _), hsorted.2.1.1⟩
  simp only [nextSelectedPort, hne, hkeep, hidx, ↓reduceIte, Bool.false_eq_true,
    List.getElem?_eq_getElem hmid, Option.map_some']

theorem default_port_is_median_of_three :
    let pool : ConnectPool := ⟨"btc", some "BTC",
      [(3333, ⟨none, none, none⟩), (4444, ⟨none, none, some ⟨some 512⟩⟩),
        (5555, ⟨none, none, some ⟨some 64⟩⟩)]⟩
    nextSelectedPort (portEntries (some pool)) none = some 4444 ∧
      ∃ entry ∈ pool.ports, nextSelectedPort (portEntries (some pool)) none = some entry.1 ∧
        (∀ below ∈ (portEntries (some pool)).take (pool.ports.length / 2), portOrder below entry) ∧
        ∀ above ∈ (portEntries (some pool)).drop (pool.ports.length / 2 + 1), portOrder entry above := by
  intro pool
  exact ⟨by decide, default_port_is_median pool none (by decide) fun _ hprev => nomatch hprev⟩

end PoolDashboard
