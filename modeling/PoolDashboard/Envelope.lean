import PoolDashboard.Json
import Mathlib.Data.List.Basic

/-
The response normalisers of the dashboard, which repeat one ternary chain.
Blocks, in the pool page's `load` and the dashboard's `loadDetails`, take an
array under `result`, then one under `blocks`, then a bare array; payments take
an array under `payments`, then a bare array, and no chain reads `result` for
payments.  `usePoolsData` takes an array under `pools`, then a bare array, and
unlike the two loads it keeps its last pools when a poll throws.
-/

namespace PoolDashboard

/-- `Array.isArray(response?.[key]) ? response[key] : ...`: the array under `key`. -/
def arrayAt (key : String) (response : Json) : Option (List Json) :=
  (response.member? key).bind Json.asArray?

/-- A normaliser's ternary chain: the array under the first wrapper key that
holds one, else the response itself when it is an array, else `[]`. -/
def envelopeList (wrappers : List String) (response : Json) : List Json :=
  ((wrappers.map fun key => arrayAt key response).foldr Option.or response.asArray?).getD []

/-- The blocks chain of `load` and of `loadDetails`. -/
def blockList (response : Json) : List Json :=
  envelopeList ["result", "blocks"] response

/-- The payments chain of `load` and of `loadDetails`. -/
def paymentList (response : Json) : List Json :=
  envelopeList ["payments"] response

/-- The pools chain of `usePoolsData`. -/
def poolList (response : Json) : List Json :=
  envelopeList ["pools"] response

/-- One fetch of a load: the first `pageSize` items and no error, or, when
the fetch throws (`none`), no items and the unavailable banner. -/
def loadTable (normalize : Json → List Json) (pageSize : Nat) (unavailable : String) :
    Option Json → List Json × Option String
  | some response => ((normalize response).take pageSize, none)
  | none => ([], some unavailable)

/-- What a load stores: the blocks and payments tables and their banners. -/
structure DetailTables where
  blocks : List Json
  blocksError : Option String
  payments : List Json
  paymentsError : Option String

def loadTables (blockPageSize paymentPageSize : Nat)
    (blocksUnavailable paymentsUnavailable : String)
    (blocksResponse paymentsResponse : Option Json) : DetailTables :=
  let blocks := loadTable blockList blockPageSize blocksUnavailable blocksResponse
  let payments := loadTable paymentList paymentPageSize paymentsUnavailable paymentsResponse
  ⟨blocks.1, blocks.2, payments.1, payments.2⟩

/-- The pool page's `load`, with `BLOCK_PAGE_SIZE = PAYMENT_PAGE_SIZE = 10`. -/
def load (blocksResponse paymentsResponse : Option Json) : DetailTables :=
  loadTables 10 10 "Blocks endpoint unavailable for this pool."
    "Payments endpoint unavailable for this pool." blocksResponse paymentsResponse

/-- The dashboard's `loadDetails`, with `BLOCK_PAGE_SIZE = PAYMENT_PAGE_SIZE = 6`. -/
def loadDetails (blocksResponse paymentsResponse : Option Json) : DetailTables :=
  loadTables 6 6 "Blocks endpoint unavailable. Using pool metadata only."
    "Payments endpoint unavailable." blocksResponse paymentsResponse

/-- What `usePoolsData` keeps between polls: the pools and the error banner. -/
structure PoolsData where
  pools : List Json
  error : Option String

/-- One `load` of `usePoolsData`: a parsed response replaces the pools and
clears the error; a thrown fetch keeps the pools and sets the banner. -/
def loadPools (data : PoolsData) : Option Json → PoolsData
  | some response => ⟨poolList response, none⟩
  | none => { data with error := some "Unable to load pool data." }

theorem envelopeList_arr (wrappers : List String) (elems : List Json) :
    envelopeList wrappers (.arr elems) = elems := by
  have hchain : ∀ ws : List String,
      (ws.map fun key => arrayAt key (.arr elems)).foldr Option.or (some elems) = some elems := by
    intro ws
    induction ws with
    | nil => rfl
    | cons w ws ih => simpa [arrayAt, Json.member?] using ih
  simp [envelopeList, hchain]

/-- A one-member wrapper decodes to its array exactly when its key is one the
chain reads. -/
theorem envelopeList_wrapper (wrappers : List String) (key : String) (elems : List Json) :
    envelopeList wrappers (.obj [(key, .arr elems)]) = if key ∈ wrappers then elems else [] := by
  have hchain : ∀ ws : List String,
      (ws.map fun w => arrayAt w (.obj [(key, .arr elems)])).foldr Option.or none =
        if key ∈ ws then some elems else none := by
    intro ws
    induction ws with
    | nil => rfl
    | cons w ws ih =>
        rw [List.map_cons, List.foldr_cons, ih]
        by_cases hw : key = w
        · simp [arrayAt, Json.member?, hw]
        · simp [arrayAt, Json.member?, hw, Ne.symm hw]
  simp only [envelopeList, Json.asArray?_obj, hchain]
  split <;> rfl

theorem loadTables_some (blockPageSize paymentPageSize : Nat)
    (blocksUnavailable paymentsUnavailable : String) (blocksResponse paymentsResponse : Json) :
    loadTables blockPageSize paymentPageSize blocksUnavailable paymentsUnavailable
        (some blocksResponse) (some paymentsResponse) =
      ⟨(blockList blocksResponse).take blockPageSize, none,
        (paymentList paymentsResponse).take paymentPageSize, none⟩ :=
  rfl

/-- Both loads decode a bare array, `{result: xs}` and `{blocks: xs}` to the
first page of blocks, and a bare array and `{payments: xs}` to the first page
of payments. -/
theorem loads_accepted_envelopes (elems : List Json) :
    (∀ response ∈ [Json.arr elems, .obj [("result", .arr elems)], .obj [("blocks", .arr elems)]],
      (load (some response) none).blocks = elems.take 10 ∧
        (loadDetails (some response) none).blocks = elems.take 6) ∧
    ∀ response ∈ [Json.arr elems, .obj [("payments", .arr elems)]],
      (load none (some response)).payments = elems.take 10 ∧
        (loadDetails none (some response)).payments = elems.take 6 := by
  simp [load, loadDetails, loadTables, loadTable, blockList, paymentList, envelopeList_arr,
    envelopeList_wrapper]

/-- `{result: xs}` fills the blocks table of both loads and leaves their
payments table empty, whatever `xs` holds. -/
theorem result_envelope_empties_payments (elems : List Json) :
    let response := Json.obj [("result", .arr elems)]
    (load (some response) (some response)).blocks = elems.take 10 ∧
      (load (some response) (some response)).payments = [] ∧
      (loadDetails (some response) (some response)).blocks = elems.take 6 ∧
      (loadDetails (some response) (some response)).payments = [] := by
  simp [load, loadDetails, loadTables_some, blockList, paymentList, envelopeList_wrapper]

/-- Over any sequence of settled polls, `usePoolsData` shows the pools of the
last poll that answered (those it had before when none did), and the banner
exactly when the last poll threw. -/
theorem loadPools_last_write_wins (data : PoolsData) (responses : List (Option Json)) :
    let data' := responses.foldl loadPools data
    data'.pools = ((responses.filterMap id).getLast?.map poolList).getD data.pools ∧
      ∀ last, responses.getLast? = some last →
        data'.error = if last.isSome then none else some "Unable to load pool data." := by
  induction responses using List.reverseRecOn with
  | nil => exact ⟨rfl, fun _ hlast => nomatch hlast⟩
  | append_singleton responses response ih =>
      simp only [List.foldl_append, List.foldl_cons, List.foldl_nil, List.getLast?_append,
        List.getLast?_singleton, Option.or_some, Option.some.injEq, forall_eq']
      cases response with
      | none => simpa [loadPools] using ih.1
      | some response => simp [loadPools]

end PoolDashboard
