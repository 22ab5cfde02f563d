import PoolDashboard.Envelope
import PoolDashboard.LatencyRoute

/-
The dashboard of `components/layout/Navigation.tsx` as an asynchronous system.
Its two effects, keyed on `selectedPoolId`, poll the pool list and the selected
pool's blocks and payments.  Each run of an effect is an instance whose
cleanup clears its `active` flag, so a response that settles after the
selection changed is dropped.  Requests stay in flight until they settle, in
any order.  The miner lookup form keeps no such flag.

Ghost state: the instance count (`epoch`, one per selection change), the
instance and pool that last wrote each table, and the outcomes of the pools
responses the dashboard applied.
-/

namespace PoolDashboard

/-- JavaScript truthiness of a parsed JSON value. -/
def Json.truthy : Json → Bool
  | .null => false
  | .bool b => b
  | .num n => n ≠ 0
  | .str s => s ≠ ""
  | .arr _ => true
  | .obj _ => true

/-- An id as `!id` reads it: a missing or empty id is falsy. -/
def truthyId : Option String → Option String
  | some id => if id = "" then none else some id
  | none => none

/-- `poolList[0].id`, read as a string id; a pool whose `id` is not a string
counts as having none. -/
def firstPoolId : List Json → Option String
  | pool :: _ =>
      match pool.member? "id" with
      | some (.str id) => some id
      | _ => none
  | [] => none

/-- The blocks write of `loadDetails`: the first `BLOCK_PAGE_SIZE = 6` items,
or no items and the banner when the fetch throws. -/
def dashboardBlocks : Option Json → List Json × Option String :=
  loadTable blockList 6 "Blocks endpoint unavailable. Using pool metadata only."

/-- The payments write of `loadDetails`, with `PAYMENT_PAGE_SIZE = 6`. -/
def dashboardPayments : Option Json → List Json × Option String :=
  loadTable paymentList 6 "Payments endpoint unavailable."

/-- What a dashboard request fetches. -/
inductive DashboardFetch where
  | pools
  | blocks (poolId : String)
  | payments (poolId : String)
deriving Repr, DecidableEq

/-- The pool a details request was made for. -/
def DashboardFetch.poolId? : DashboardFetch → Option String
  | .pools => none
  | .blocks id => some id
  | .payments id => some id

/-- A request in flight and the effect instance that made it. -/
structure DashboardRequest where
  fetch : DashboardFetch
  epoch : Nat
deriving Repr, DecidableEq

/-- The miner lookup form: the address typed, the stored result and message,
`minerLoading`, and the lookups in flight with their pool and address. -/
structure MinerPanel where
  query : String
  stats : Option Json
  error : Option String
  loading : Bool
  lookups : List (String × String)

namespace MinerPanel

/-- The guard of `handleMinerLookup`: no result, and a request for an address. -/
def askForAddress (m : MinerPanel) : MinerPanel :=
  { m with stats := none, error := some "Enter a miner address to view stats." }

/-- `handleMinerLookup` up to its fetch: a truthy pool and a non-blank address
start a lookup of the trimmed address. -/
def submit (m : MinerPanel) (selectedPoolId : Option String) : MinerPanel :=
  match truthyId selectedPoolId with
  | some id =>
      if jsTrim m.query = "" then m.askForAddress
      else { m with loading := true, error := none, lookups := m.lookups ++ [(id, jsTrim m.query)] }
  | none => m.askForAddress

/-- A lookup settles: `setMinerStats(result)` with 'Miner not found.' for a
falsy result, or a cleared result and the API message when the fetch throws;
`minerLoading` ends either way. -/
def settleLookup (m : MinerPanel) (lookup : String × String) (response : Option Json) :
    MinerPanel :=
  if lookup ∉ m.lookups then m
  else
    let m' : MinerPanel := { m with lookups := m.lookups.erase lookup, loading := false }
    match response with
    | some result =>
        { m' with stats := some result, error := if result.truthy then m.error else some "Miner not found." }
    | none => { m' with stats := none, error := some "Unable to fetch miner stats from Miningcore API." }

end MinerPanel

/-- The dashboard's state: its `useState`s, the requests in flight, and the
ghost fields. -/
structure DashboardState where
  pools : List Json
  selectedPoolId : Option String
  blocks : List Json
  blocksError : Option String
  payments : List Json
  paymentsError : Option String
  loading : Bool
  error : Option String
  miner : MinerPanel
  epoch : Nat
  inFlight : List DashboardRequest
  blocksFrom : Option (Nat × String)
  paymentsFrom : Option (Nat × String)
  poolsApplied : List Bool

namespace DashboardState

/-- `setSelectedPoolId(next)`: an unchanged id renders nothing; a new one
cleans up both effects and runs them as the next instance, `loadPools` first,
then `loadDetails` for a truthy id or `setBlocks([])` and `setPayments([])`. -/
def changeSelection (s : DashboardState) (next : Option String) : DashboardState :=
  if next = s.selectedPoolId then s
  else
    let s' : DashboardState := { s with
      selectedPoolId := next, epoch := s.epoch + 1, loading := true,
      inFlight := s.inFlight ++ [⟨.pools, s.epoch + 1⟩] }
    match truthyId next with
    | some id => { s' with inFlight := s'.inFlight ++ [⟨.blocks id, s.epoch + 1⟩] }
    | none => { s' with blocks := [], payments := [], blocksFrom := none, paymentsFrom := none }

/-- A tick of the pools interval: `loadPools` of the current instance. -/
def pollPools (s : DashboardState) : DashboardState :=
  { s with loading := true, inFlight := s.inFlight ++ [⟨.pools, s.epoch⟩] }

/-- A tick of the details interval, which only a truthy selection sets up. -/
def pollDetails (s : DashboardState) : DashboardState :=
  match truthyId s.selectedPoolId with
  | some id => { s with inFlight := s.inFlight ++ [⟨.blocks id, s.epoch⟩] }
  | none => s

/-- `loadPools` once its fetch settles in an active instance: the list, the
error and `loading` are set in one batch, and an empty selection takes the
first pool's id. -/
def applyPools (s : DashboardState) : Option Json → DashboardState
  | some response =>
      let s' : DashboardState := { s with
        pools := poolList response, error := none, loading := false,
        poolsApplied := s.poolsApplied ++ [true] }
      if truthyId s.selectedPoolId = none ∧ 0 < s'.pools.length then
        s'.changeSelection (firstPoolId s'.pools)
      else s'
  | none =>
      { s with
        error := some "Unable to load pools. Verify API endpoint and CORS configuration.",
        loading := false, poolsApplied := s.poolsApplied ++ [false] }

/-- A request settles.  Its instance applies the response only while active;
a blocks request, active or not, goes on to fetch the payments of its pool. -/
def settle (s : DashboardState) (request : DashboardRequest) (response : Option Json) :
    DashboardState :=
  if request ∉ s.inFlight then s
  else
    let s' : DashboardState := { s with inFlight := s.inFlight.erase request }
    match request.fetch with
    | .pools => if request.epoch = s.epoch then s'.applyPools response else s'
    | .blocks id =>
        let s'' : DashboardState :=
          { s' with inFlight := s'.inFlight ++ [⟨.payments id, request.epoch⟩] }
        if request.epoch = s.epoch then
          { s'' with
            blocks := (dashboardBlocks response).1, blocksError := (dashboardBlocks response).2,
            blocksFrom := some (s.epoch, id) }
        else s''
    | .payments id =>
        if request.epoch = s.epoch then
          { s' with
            payments := (dashboardPayments response).1,
            paymentsError := (dashboardPayments response).2, paymentsFrom := some (s.epoch, id) }
        else s'

end DashboardState

/-- What the dashboard can be sent: interval ticks, a settled request, a click
on a pool badge, the miner form's input and submit, and a settled lookup. -/
inductive DashboardEvent where
  | pollPools
  | pollDetails
  | settle (request : DashboardRequest) (response : Option Json)
  | selectPool (id : String)
  | typeQuery (query : String)
  | submitLookup
  | settleLookup (lookup : String × String) (response : Option Json)

def dashboardStep (s : DashboardState) : DashboardEvent → DashboardState
  | .pollPools => s.pollPools
  | .pollDetails => s.pollDetails
  | .settle request response => s.settle request response
  | .selectPool id => s.changeSelection (some id)
  | .typeQuery query => { s with miner := { s.miner with query } }
  | .submitLookup => { s with miner := s.miner.submit s.selectedPoolId }
  | .settleLookup lookup response => { s with miner := s.miner.settleLookup lookup response }

/-- The mount: `loading` starts true, the first `loadPools` is in flight, and
the details effect, with no selection, empties both tables. -/
def initialDashboard : DashboardState where
  pools := []
  selectedPoolId := none
  blocks := []
  blocksError := none
  payments := []
  paymentsError := none
  loading := true
  error := none
  miner := ⟨"", none, none, false, []⟩
  epoch := 0
  inFlight := [⟨.pools, 0⟩]
  blocksFrom := none
  paymentsFrom := none
  poolsApplied := []

/-- The states the dashboard reaches from its mount, under any interleaving of
ticks, responses and user input. -/
inductive DashboardReachable : DashboardState → Prop
  | initial : DashboardReachable initialDashboard
  | step {s : DashboardState} (event : DashboardEvent) :
      DashboardReachable s → DashboardReachable (dashboardStep s event)

theorem DashboardReachable.foldl {s : DashboardState} (hs : DashboardReachable s)
    (events : List DashboardEvent) : DashboardReachable (events.foldl dashboardStep s) := by
  induction events generalizing s with
  | nil => exact hs
  | cons event events ih => exact ih (.step event hs)

/-- The render's early returns. -/
inductive DashboardView where
  | spinner
  | connectionIssue (message : String)
  | sections
deriving Repr, DecidableEq

def dashboardView (s : DashboardState) : DashboardView :=
  if s.loading then .spinner
  else
    match s.error with
    | some message => .connectionIssue message
    | none => .sections

/-! ### What each step does to the fields an invariant reads -/

namespace DashboardState

@[simp] theorem changeSelection_error (s : DashboardState) (next : Option String) :
    (s.changeSelection next).error = s.error := by
  unfold changeSelection
  split
  · rfl
  · split <;> rfl

@[simp] theorem changeSelection_poolsApplied (s : DashboardState) (next : Option String) :
    (s.changeSelection next).poolsApplied = s.poolsApplied := by
  unfold changeSelection
  split
  · rfl
  · split <;> rfl

@[simp] theorem changeSelection_miner (s : DashboardState) (next : Option String) :
    (s.changeSelection next).miner = s.miner := by
  unfold changeSelection
  split
  · rfl
  · split <;> rfl

@[simp] theorem pollDetails_miner (s : DashboardState) : s.pollDetails.miner = s.miner := by
  unfold pollDetails
  split <;> rfl

@[simp] theorem pollDetails_error (s : DashboardState) : s.pollDetails.error = s.error := by
  unfold pollDetails
  split <;> rfl

@[simp] theorem pollDetails_poolsApplied (s : DashboardState) :
    s.pollDetails.poolsApplied = s.poolsApplied := by
  unfold pollDetails
  split <;> rfl

@[simp] theorem applyPools_miner (s : DashboardState) (response : Option Json) :
    (s.applyPools response).miner = s.miner := by
  cases response with
  | none => rfl
  | some response =>
      simp only [applyPools]
      split
      · exact changeSelection_miner _ _
      · rfl

/-- A settle either is `applyPools` of the response on a state with the same
miner form, or leaves the pools error, its history and the miner form alone. -/
theorem settle_cases (s : DashboardState) (request : DashboardRequest) (response : Option Json) :
    (∃ t : DashboardState, t.miner = s.miner ∧ s.settle request response = t.applyPools response) ∨
      ((s.settle request response).error = s.error ∧
        (s.settle request response).poolsApplied = s.poolsApplied ∧
        (s.settle request response).miner = s.miner) := by
  generalize ht : s.settle request response = t
  unfold settle at ht
  split at ht
  · subst ht
    exact .inr ⟨rfl, rfl, rfl⟩
  · split at ht
    · split at ht
      · exact .inl ⟨{ s with inFlight := s.inFlight.erase request }, rfl, ht.symm⟩
      · subst ht
        exact .inr ⟨rfl, rfl, rfl⟩
    all_goals split at ht <;> (subst ht; exact .inr ⟨rfl, rfl, rfl⟩)

@[simp] theorem settle_miner (s : DashboardState) (request : DashboardRequest)
    (response : Option Json) : (s.settle request response).miner = s.miner := by
  rcases s.settle_cases request response with ⟨t, htm, ht⟩ | ⟨-, -, hm⟩
  · rw [ht, applyPools_miner, htm]
  · exact hm

/-- A response of an outdated instance writes neither table nor banner. -/
theorem settle_outdated (s : DashboardState) {request : DashboardRequest}
    (hold : request.epoch ≠ s.epoch) (response : Option Json) :
    (s.settle request response).blocks = s.blocks ∧
      (s.settle request response).blocksError = s.blocksError ∧
      (s.settle request response).payments = s.payments ∧
      (s.settle request response).paymentsError = s.paymentsError := by
  unfold settle
  split
  · exact ⟨rfl, rfl, rfl, rfl⟩
  · split <;> simp only [if_neg hold, and_self]

/-- The current instance's blocks request writes the blocks table and banner
from its response. -/
theorem settle_current_blocks (s : DashboardState) {id : String}
    (hmem : ⟨.blocks id, s.epoch⟩ ∈ s.inFlight) (response : Option Json) :
    (s.settle ⟨.blocks id, s.epoch⟩ response).blocks = (dashboardBlocks response).1 ∧
      (s.settle ⟨.blocks id, s.epoch⟩ response).blocksError = (dashboardBlocks response).2 := by
  unfold settle
  simp only [hmem, not_true_eq_false, ↓reduceIte, and_self]

/-- The current instance's payments request writes the payments table and
banner from its response. -/
theorem settle_current_payments (s : DashboardState) {id : String}
    (hmem : ⟨.payments id, s.epoch⟩ ∈ s.inFlight) (response : Option Json) :
    (s.settle ⟨.payments id, s.epoch⟩ response).payments = (dashboardPayments response).1 ∧
      (s.settle ⟨.payments id, s.epoch⟩ response).paymentsError = (dashboardPayments response).2 := by
  unfold settle
  simp only [hmem, not_true_eq_false, ↓reduceIte, and_self]

end DashboardState

/-! ### Every table write comes from the current instance -/

/-- Data or a request of instance `e` for pool `id` fits the state: the
instance is no newer than the current one, and a current one is for the
selected pool. -/
def DashboardState.Fits (s : DashboardState) (e : Nat) (id : String) : Prop :=
  e ≤ s.epoch ∧ (e = s.epoch → truthyId s.selectedPoolId = some id)

theorem DashboardState.fits_of_lt {s : DashboardState} {e : Nat} (id : String)
    (h : e < s.epoch) : s.Fits e id :=
  ⟨h.le, fun he => absurd he h.ne⟩

/-- Every details request in flight, and the write each table last took,
fits the state. -/
structure TablesFit (s : DashboardState) : Prop where
  requests : ∀ r ∈ s.inFlight, ∀ id, r.fetch.poolId? = some id → s.Fits r.epoch id
  blocks : ∀ e id, s.blocksFrom = some (e, id) → s.Fits e id
  payments : ∀ e id, s.paymentsFrom = some (e, id) → s.Fits e id

/-- A step that keeps the instance, the selection and the tables' sources keeps
the invariant when each request it adds fits. -/
theorem TablesFit.of_fields {s t : DashboardState} (hs : TablesFit s) (hepoch : t.epoch = s.epoch)
    (hsel : t.selectedPoolId = s.selectedPoolId)
    (hreq : ∀ r ∈ t.inFlight, r ∈ s.inFlight ∨ ∀ id, r.fetch.poolId? = some id → s.Fits r.epoch id)
    (hblocks : t.blocksFrom = s.blocksFrom) (hpayments : t.paymentsFrom = s.paymentsFrom) :
    TablesFit t := by
  have hfits : ∀ {e id}, s.Fits e id → t.Fits e id := fun h => by
    unfold DashboardState.Fits
    rw [hepoch, hsel]
    exact h
  refine ⟨fun r hr id hid => hfits ?_, fun e id h => hfits (hs.blocks e id (hblocks ▸ h)),
    fun e id h => hfits (hs.payments e id (hpayments ▸ h))⟩
  rcases hreq r hr with hr | hnew
  · exact hs.requests r hr id hid
  · exact hnew id hid

theorem mem_append_request {r a : DashboardRequest} {l : List DashboardRequest}
    (h : r ∈ l ++ [a]) : r ∈ l ∨ r = a := by
  simpa only [List.mem_append, List.mem_singleton] using h

/-- A new instance outdates every request and write of the old ones, and its
own details request is for the new selection. -/
theorem TablesFit.changeSelection {s : DashboardState} (hs : TablesFit s) (next : Option String) :
    TablesFit (s.changeSelection next) := by
  unfold DashboardState.changeSelection
  split
  · exact hs
  · have hold : ∀ {e id}, s.Fits e id → e < s.epoch + 1 := fun h => Nat.lt_succ_of_le h.1
    have hreq : ∀ r ∈ s.inFlight, ∀ id, r.fetch.poolId? = some id → r.epoch < s.epoch + 1 :=
      fun r hr id hid => hold (hs.requests r hr id hid)
    split
    · rename_i id hnext
      refine ⟨fun r hr id' hid => ?_, fun e id' h => DashboardState.fits_of_lt _ (hold (hs.blocks e id' h)),
        fun e id' h => DashboardState.fits_of_lt _ (hold (hs.payments e id' h))⟩
      rcases mem_append_request hr with hr | rfl
      · rcases mem_append_request hr with hr | rfl
        · exact DashboardState.fits_of_lt _ (hreq r hr id' hid)
        · cases hid
      · cases hid
        exact ⟨le_rfl, fun _ => hnext⟩
    · refine ⟨fun r hr id' hid => ?_, fun e id' h => (nomatch h), fun e id' h => (nomatch h)⟩
      rcases mem_append_request hr with hr | rfl
      · exact DashboardState.fits_of_lt _ (hreq r hr id' hid)
      · cases hid

theorem TablesFit.applyPools {s : DashboardState} (hs : TablesFit s) (response : Option Json) :
    TablesFit (s.applyPools response) := by
  have hs' : ∀ t : DashboardState, t.epoch = s.epoch → t.selectedPoolId = s.selectedPoolId →
      t.inFlight = s.inFlight → t.blocksFrom = s.blocksFrom → t.paymentsFrom = s.paymentsFrom →
      TablesFit t := fun t h1 h2 h3 h4 h5 => hs.of_fields h1 h2 (fun r hr => .inl (h3 ▸ hr)) h4 h5
  cases response with
  | none => exact hs' _ rfl rfl rfl rfl rfl
  | some response =>
      simp only [DashboardState.applyPools]
      split
      · apply TablesFit.changeSelection
        exact hs' _ rfl rfl rfl rfl rfl
      · exact hs' _ rfl rfl rfl rfl rfl

/-- A settle writes a table only for a request of the current instance, whose
pool is the selected one; the payments request that follows a blocks request
keeps the blocks request's instance and pool. -/
theorem TablesFit.settle {s : DashboardState} (hs : TablesFit s) (request : DashboardRequest)
    (response : Option Json) : TablesFit (s.settle request response) := by
  unfold DashboardState.settle
  split
  · exact hs
  · rename_i hmem
    have hmem : request ∈ s.inFlight := not_not.mp hmem
    have herase : ∀ r ∈ s.inFlight.erase request, r ∈ s.inFlight := fun r hr =>
      List.mem_of_mem_erase hr
    have hs' : TablesFit { s with inFlight := s.inFlight.erase request } :=
      hs.of_fields rfl rfl (fun r hr => .inl (herase r hr)) rfl rfl
    have hfits : ∀ id, request.fetch.poolId? = some id → s.Fits request.epoch id :=
      hs.requests request hmem
    split
    · split
      · exact hs'.applyPools response
      · exact hs'
    · rename_i id hfetch
      have hfit : s.Fits request.epoch id := hfits id (by rw [hfetch]; rfl)
      have hnext : ∀ r ∈ s.inFlight.erase request ++ [⟨.payments id, request.epoch⟩],
          r ∈ s.inFlight ∨ ∀ id', r.fetch.poolId? = some id' → s.Fits r.epoch id' := fun r hr => by
        rcases mem_append_request hr with hr | rfl
        · exact .inl (herase r hr)
        · exact .inr fun id' hid => by cases hid; exact hfit
      have hs'' : TablesFit { s with
          inFlight := s.inFlight.erase request ++ [⟨.payments id, request.epoch⟩] } :=
        hs.of_fields rfl rfl hnext rfl rfl
      split
      · rename_i hcur
        exact ⟨hs''.requests, fun e id' h => by cases h; exact (hcur ▸ hfit : s.Fits s.epoch id),
          hs''.payments⟩
      · exact hs''
    · rename_i id hfetch
      have hfit : s.Fits request.epoch id := hfits id (by rw [hfetch]; rfl)
      split
      · rename_i hcur
        exact ⟨hs'.requests, hs'.blocks, fun e id' h => by cases h; exact (hcur ▸ hfit : s.Fits s.epoch id)⟩
      · exact hs'

theorem TablesFit.dashboardStep {s : DashboardState} (hs : TablesFit s) (event : DashboardEvent) :
    TablesFit (dashboardStep s event) := by
  cases event with
  | pollPools =>
      refine hs.of_fields rfl rfl (fun r hr => ?_) rfl rfl
      rcases mem_append_request hr with hr | rfl
      · exact .inl hr
      · exact .inr fun id hid => nomatch hid
  | pollDetails =>
      show TablesFit s.pollDetails
      unfold DashboardState.pollDetails
      split
      · rename_i id hsel
        refine hs.of_fields rfl rfl (fun r hr => ?_) rfl rfl
        rcases mem_append_request hr with hr | rfl
        · exact .inl hr
        · exact .inr fun id' hid => by cases hid; exact ⟨le_rfl, fun _ => hsel⟩
      · exact hs
  | settle request response => exact hs.settle request response
  | selectPool id => exact hs.changeSelection _
  | typeQuery query => exact ⟨hs.requests, hs.blocks, hs.payments⟩
  | submitLookup => exact ⟨hs.requests, hs.blocks, hs.payments⟩
  | settleLookup lookup response => exact ⟨hs.requests, hs.blocks, hs.payments⟩

theorem DashboardReachable.tablesFit {s : DashboardState} (hs : DashboardReachable s) :
    TablesFit s := by
  induction hs with
  | initial =>
      refine ⟨fun r hr id hid => ?_, fun e id h => (nomatch h), fun e id h => (nomatch h)⟩
      rw [List.mem_singleton.mp hr] at hid
      cases hid
  | step event _ ih => exact ih.dashboardStep event

/-- In every state the dashboard reaches, under any interleaving of ticks,
responses, pool clicks and lookups, a table last written by a response of the
current effect instance holds that response for the selected pool; a write
from an older instance predates the last selection change.  A response of an
outdated instance writes neither table nor banner, and one of the current
instance writes what `loadDetails` computes from it, for the selected pool. -/
theorem dashboard_tables_fit (s : DashboardState) (hs : DashboardReachable s) :
    (∀ e id, s.blocksFrom = some (e, id) →
        e ≤ s.epoch ∧ (e = s.epoch → truthyId s.selectedPoolId = some id)) ∧
      (∀ e id, s.paymentsFrom = some (e, id) →
        e ≤ s.epoch ∧ (e = s.epoch → truthyId s.selectedPoolId = some id)) ∧
      (∀ request response, request.epoch ≠ s.epoch →
        (dashboardStep s (.settle request response)).blocks = s.blocks ∧
          (dashboardStep s (.settle request response)).blocksError = s.blocksError ∧
          (dashboardStep s (.settle request response)).payments = s.payments ∧
          (dashboardStep s (.settle request response)).paymentsError = s.paymentsError) ∧
      (∀ id response, ⟨.blocks id, s.epoch⟩ ∈ s.inFlight →
        truthyId s.selectedPoolId = some id ∧
          (dashboardStep s (.settle ⟨.blocks id, s.epoch⟩ response)).blocks =
            (dashboardBlocks response).1 ∧
          (dashboardStep s (.settle ⟨.blocks id, s.epoch⟩ response)).blocksError =
            (dashboardBlocks response).2) ∧
      ∀ id response, ⟨.payments id, s.epoch⟩ ∈ s.inFlight →
        truthyId s.selectedPoolId = some id ∧
          (dashboardStep s (.settle ⟨.payments id, s.epoch⟩ response)).payments =
            (dashboardPayments response).1 ∧
          (dashboardStep s (.settle ⟨.payments id, s.epoch⟩ response)).paymentsError =
            (dashboardPayments response).2 :=
  ⟨hs.tablesFit.blocks, hs.tablesFit.payments,
    fun _ response hold => s.settle_outdated hold response,
    fun id response hmem => ⟨(hs.tablesFit.requests _ hmem id rfl).2 rfl,
      s.settle_current_blocks hmem response⟩,
    fun id response hmem => ⟨(hs.tablesFit.requests _ hmem id rfl).2 rfl,
      s.settle_current_payments hmem response⟩⟩

/-- The mount's pools response selects the first pool, its blocks arrive, and
the user switches pools: the blocks table still holds the first pool's rows,
from the previous instance, until the new pool's response. -/
theorem dashboard_tables_fit_after_switch :
    let pools : Json := .obj [("pools", .arr [.obj [("id", .str "btc")], .obj [("id", .str "ltc")]])]
    let s := [DashboardEvent.settle ⟨.pools, 0⟩ (some pools),
      .settle ⟨.blocks "btc", 1⟩ (some (.arr [.num 1])), .selectPool "ltc"].foldl
        dashboardStep initialDashboard
    s.blocksFrom = some (1, "btc") ∧ s.selectedPoolId = some "ltc" ∧ s.epoch = 2 ∧
      (∀ e id, s.blocksFrom = some (e, id) →
          e ≤ s.epoch ∧ (e = s.epoch → truthyId s.selectedPoolId = some id)) ∧
        (∀ e id, s.paymentsFrom = some (e, id) →
          e ≤ s.epoch ∧ (e = s.epoch → truthyId s.selectedPoolId = some id)) ∧
        (∀ request response, request.epoch ≠ s.epoch →
          (dashboardStep s (.settle request response)).blocks = s.blocks ∧
            (dashboardStep s (.settle request response)).blocksError = s.blocksError ∧
            (dashboardStep s (.settle request response)).payments = s.payments ∧
            (dashboardStep s (.settle request response)).paymentsError = s.paymentsError) ∧
        (∀ id response, ⟨.blocks id, s.epoch⟩ ∈ s.inFlight →
          truthyId s.selectedPoolId = some id ∧
            (dashboardStep s (.settle ⟨.blocks id, s.epoch⟩ response)).blocks =
              (dashboardBlocks response).1 ∧
            (dashboardStep s (.settle ⟨.blocks id, s.epoch⟩ response)).blocksError =
              (dashboardBlocks response).2) ∧
        ∀ id response, ⟨.payments id, s.epoch⟩ ∈ s.inFlight →
          truthyId s.selectedPoolId = some id ∧
            (dashboardStep s (.settle ⟨.payments id, s.epoch⟩ response)).payments =
              (dashboardPayments response).1 ∧
            (dashboardStep s (.settle ⟨.payments id, s.epoch⟩ response)).paymentsError =
              (dashboardPayments response).2 := by
  intro pools s
  exact ⟨by decide, by decide, by decide,
    dashboard_tables_fit s (DashboardReachable.initial.foldl _)⟩

/-! ### The spinner and the connection-issue panel -/

/-- While `loading` is set, a pools request of the current instance is in flight. -/
def DashboardState.Pending (s : DashboardState) : Prop :=
  s.loading = true → ⟨.pools, s.epoch⟩ ∈ s.inFlight

theorem DashboardState.pending_changeSelection {s : DashboardState} (hs : s.Pending)
    (next : Option String) : (s.changeSelection next).Pending := by
  unfold DashboardState.changeSelection
  split
  · exact hs
  · intro _
    split <;> simp

/-- A pools response ends `loading`, unless it starts the next instance, whose
own pools request is then in flight. -/
theorem DashboardState.pending_applyPools (s : DashboardState) (response : Option Json) :
    (s.applyPools response).Pending := by
  cases response with
  | none => exact fun h => by cases h
  | some response =>
      simp only [DashboardState.applyPools]
      split
      · exact DashboardState.pending_changeSelection (fun h => by cases h) _
      · exact fun h => by cases h

theorem DashboardState.pending_settle {s : DashboardState} (hs : s.Pending)
    (request : DashboardRequest) (response : Option Json) : (s.settle request response).Pending := by
  unfold DashboardState.settle
  split
  · exact hs
  · have hkeep : ⟨.pools, s.epoch⟩ ≠ request → s.loading = true →
        ⟨.pools, s.epoch⟩ ∈ s.inFlight.erase request := fun hne hl =>
      (List.mem_erase_of_ne hne).mpr (hs hl)
    split
    · rename_i hfetch
      split
      · exact DashboardState.pending_applyPools _ response
      · rename_i hcur
        exact hkeep fun h => hcur (congrArg DashboardRequest.epoch h).symm
    · rename_i id hfetch
      have hne : ⟨.pools, s.epoch⟩ ≠ request := fun h => by rw [← h] at hfetch; cases hfetch
      split
      · exact fun hl => List.mem_append_left _ (hkeep hne hl)
      · exact fun hl => List.mem_append_left _ (hkeep hne hl)
    · rename_i id hfetch
      have hne : ⟨.pools, s.epoch⟩ ≠ request := fun h => by rw [← h] at hfetch; cases hfetch
      split
      · exact hkeep hne
      · exact hkeep hne

theorem DashboardState.Pending.dashboardStep {s : DashboardState} (hs : s.Pending)
    (event : DashboardEvent) : (dashboardStep s event).Pending := by
  cases event with
  | pollPools => exact fun _ => List.mem_append_right _ (List.mem_singleton_self _)
  | pollDetails =>
      show s.pollDetails.Pending
      unfold DashboardState.pollDetails
      split
      · exact fun hl => List.mem_append_left _ (hs hl)
      · exact hs
  | settle request response => exact DashboardState.pending_settle hs request response
  | selectPool id => exact DashboardState.pending_changeSelection hs _
  | typeQuery query => exact hs
  | submitLookup => exact hs
  | settleLookup lookup response => exact hs

theorem DashboardReachable.pending {s : DashboardState} (hs : DashboardReachable s) : s.Pending := by
  induction hs with
  | initial => exact fun _ => List.mem_singleton_self _
  | step event _ ih => exact ih.dashboardStep event

/-- In every reachable state, while the dashboard shows its spinner a pools
request of the current effect instance is in flight, so the spinner never
outlives the requests that can clear it. -/
theorem dashboard_spinner_pending (s : DashboardState) (hs : DashboardReachable s)
    (hspinner : dashboardView s = .spinner) : ⟨.pools, s.epoch⟩ ∈ s.inFlight := by
  apply hs.pending
  unfold dashboardView at hspinner
  split at hspinner
  · assumption
  · split at hspinner <;> cases hspinner

theorem dashboard_spinner_pending_after_first_pools :
    let pools : Json := .obj [("pools", .arr [.obj [("id", .str "btc")]])]
    let s := [DashboardEvent.settle ⟨.pools, 0⟩ (some pools)].foldl dashboardStep initialDashboard
    dashboardView s = .spinner ∧ ⟨.pools, s.epoch⟩ ∈ s.inFlight := by
  intro pools s
  have hspinner : dashboardView s = .spinner := by decide
  exact ⟨hspinner, dashboard_spinner_pending s (DashboardReachable.initial.foldl _) hspinner⟩

/-- The pools error is set exactly when the last pools response the dashboard
applied was a thrown fetch. -/
def DashboardState.ErrorLast (s : DashboardState) : Prop :=
  s.error = if s.poolsApplied.getLast? = some false then
    some "Unable to load pools. Verify API endpoint and CORS configuration." else none

theorem DashboardState.errorLast_applyPools (s : DashboardState) (response : Option Json) :
    (s.applyPools response).ErrorLast := by
  cases response with
  | none => simp [DashboardState.applyPools, DashboardState.ErrorLast]
  | some response =>
      simp only [DashboardState.applyPools]
      split <;> simp [DashboardState.ErrorLast]

theorem DashboardState.ErrorLast.dashboardStep {s : DashboardState} (hs : s.ErrorLast)
    (event : DashboardEvent) : (dashboardStep s event).ErrorLast := by
  cases event with
  | settle request response =>
      show (s.settle request response).ErrorLast
      rcases s.settle_cases request response with ⟨t, -, ht⟩ | ⟨herror, happlied, -⟩
      · rw [ht]
        exact t.errorLast_applyPools response
      · rw [DashboardState.ErrorLast, herror, happlied]
        exact hs
  | selectPool id =>
      show (s.changeSelection _).ErrorLast
      rw [DashboardState.ErrorLast, DashboardState.changeSelection_error,
        DashboardState.changeSelection_poolsApplied]
      exact hs
  | pollDetails =>
      show s.pollDetails.ErrorLast
      rw [DashboardState.ErrorLast, DashboardState.pollDetails_error,
        DashboardState.pollDetails_poolsApplied]
      exact hs
  | pollPools => exact hs
  | typeQuery query => exact hs
  | submitLookup => exact hs
  | settleLookup lookup response => exact hs

/-- With no lookup in flight, a stored falsy result comes with 'Miner not found.'. -/
def MinerPanel.Reported (m : MinerPanel) : Prop :=
  m.lookups = [] → ∀ v, m.stats = some v → v.truthy = false → m.error = some "Miner not found."

/-- A submit either asks for an address, with no result, or starts a lookup. -/
theorem MinerPanel.reported_submit (m : MinerPanel) (selectedPoolId : Option String) :
    (m.submit selectedPoolId).Reported := by
  have hask : m.askForAddress.Reported := fun _ v hv => nomatch hv
  unfold MinerPanel.submit
  split
  · split
    · exact hask
    · exact fun hnil => absurd hnil (by simp)
  · exact hask

/-- Every settled lookup leaves the result reported, whatever else is in flight. -/
theorem MinerPanel.reported_settleLookup {m : MinerPanel} (hm : m.Reported)
    (lookup : String × String) (response : Option Json) :
    (m.settleLookup lookup response).Reported := by
  unfold MinerPanel.settleLookup
  split
  · exact hm
  · cases response with
    | none => exact fun _ v hv => nomatch hv
    | some result =>
        intro _ v hv hfalsy
        cases hv
        simp [hfalsy]

theorem MinerPanel.Reported.dashboardStep {s : DashboardState} (hs : s.miner.Reported)
    (event : DashboardEvent) : (dashboardStep s event).miner.Reported := by
  cases event with
  | pollPools => exact hs
  | pollDetails =>
      show s.pollDetails.miner.Reported
      rw [DashboardState.pollDetails_miner]
      exact hs
  | settle request response =>
      show (s.settle request response).miner.Reported
      rw [DashboardState.settle_miner]
      exact hs
  | selectPool id =>
      show (s.changeSelection _).miner.Reported
      rw [DashboardState.changeSelection_miner]
      exact hs
  | typeQuery query => exact hs
  | submitLookup => exact MinerPanel.reported_submit _ _
  | settleLookup lookup response => exact MinerPanel.reported_settleLookup hs lookup response

theorem DashboardReachable.minerReported {s : DashboardState} (hs : DashboardReachable s) :
    s.miner.Reported := by
  induction hs with
  | initial => exact fun _ v hv => nomatch hv
  | step event _ ih => exact ih.dashboardStep event

/-- In every reachable state with no miner lookup in flight, a stored result
that is falsy (the API's empty answer for an unknown miner) is shown with the
message 'Miner not found.', never as a bare absence. -/
theorem miner_falsy_result_reported (s : DashboardState) (hs : DashboardReachable s)
    (hidle : s.miner.lookups = []) (result : Json) (hstats : s.miner.stats = some result)
    (hfalsy : result.truthy = false) : s.miner.error = some "Miner not found." :=
  hs.minerReported hidle result hstats hfalsy

theorem miner_falsy_result_reported_on_null :
    let pools : Json := .obj [("pools", .arr [.obj [("id", .str "btc")]])]
    let s := [DashboardEvent.settle ⟨.pools, 0⟩ (some pools), .typeQuery " bc1q ", .submitLookup,
      .settleLookup ("btc", "bc1q") (some .null)].foldl dashboardStep initialDashboard
    s.miner.lookups = [] ∧ s.miner.stats = some .null ∧ s.miner.error = some "Miner not found." := by
  intro pools s
  have hidle : s.miner.lookups = [] := by decide
  have hstats : s.miner.stats = some .null := rfl
  exact ⟨hidle, hstats,
    miner_falsy_result_reported s (DashboardReachable.initial.foldl _) hidle .null hstats rfl⟩

/-! ### The details effect against `loadDetails` -/

/-- A details tick whose blocks and payments responses settle next, whatever
else is in flight, leaves the tables that `loadDetails` computes from the two
responses. -/
theorem dashboard_details_match_loadDetails (s : DashboardState) (id : String)
    (hsel : truthyId s.selectedPoolId = some id) (blocksResponse paymentsResponse : Option Json) :
    let s' := [DashboardEvent.pollDetails, .settle ⟨.blocks id, s.epoch⟩ blocksResponse,
      .settle ⟨.payments id, s.epoch⟩ paymentsResponse].foldl dashboardStep s
    (⟨s'.blocks, s'.blocksError, s'.payments, s'.paymentsError⟩ : DetailTables) =
      loadDetails blocksResponse paymentsResponse := by
  simp [dashboardStep, DashboardState.pollDetails, hsel, DashboardState.settle]
  rfl

end PoolDashboard
