import PoolDashboard.Dashboard
import Mathlib.Data.List.DropRight

/-
The miner lookup panel (`MinerLookupPanel`) of the home and miners pages.  It
keeps its own `usePoolsData`, the pool select, the wallet typed, the last
result and message, `submitting`, and whether the URL's `wallet` and `pool`
parameters were read.  `performLookup` clears the result and the message,
sets `submitting` and awaits `fetchMinerStats`; no flag tells an older lookup
from a newer one.  What keeps lookups apart is the form: its button is
disabled while `submitting`, and the URL effect runs once, on the first
render with pools, before a pool can be selected.

Both effects of a commit read the values of that render, and their updates
are batched in order, so the default-pool effect, declared second, has the
last word on `selectedPool`.

Ghost state: every lookup sent, with what started it, and every lookup
settled, with its response.
-/

namespace PoolDashboard

/-- `params.get('wallet')` and `params.get('pool')` of the URL the panel
mounts on. -/
structure LookupUrl where
  wallet : Option String
  pool : Option String

/-- What the mount fixes: the `initialPoolId` prop and the URL. -/
structure LookupProps where
  initialPoolId : Option String
  url : LookupUrl

/-- What started a lookup: the URL's `wallet` parameter, or the form. -/
inductive LookupCause where
  | url
  | form
deriving Repr, DecidableEq

/-- The panel's state: `usePoolsData`'s pools (by id) and `loading`, the
panel's `useState`s, the lookups awaiting `fetchMinerStats` as (pool, wallet),
and the ghost fields. -/
structure LookupPanel where
  pools : List String
  loading : Bool
  selectedPool : String
  query : String
  result : Option Json
  error : Option String
  submitting : Bool
  urlParamsInitialised : Bool
  lookups : List (String × String)
  sent : List (LookupCause × String × String)
  settled : List ((String × String) × Option Json)

/-- The mount: the pools are loading and nothing is selected, typed or read. -/
def initialLookup : LookupPanel :=
  ⟨[], true, "", "", none, none, false, false, [], [], []⟩

instance : Nonempty LookupPanel := ⟨initialLookup⟩

def enterMessage : String := "Enter a miner address and pick a pool."

def notFoundMessage : String := "Miner not found in the selected pool."

def unavailableMessage : String := "Unable to retrieve miner statistics from Miningcore."

/-- `response ?? null`: a `null` response leaves no result. -/
def Json.orNull : Json → Option Json
  | .null => none
  | response => some response

/-- The pool both effects fall back to: `initialPoolId` when it is truthy and
one of the pools, else the first pool. -/
def fallbackPool (initialPoolId : Option String) (pools : List String) : Option String :=
  match truthyId initialPoolId with
  | some id => if id ∈ pools then some id else pools.head?
  | none => pools.head?

/-- The URL effect's `resolvedPool`, with the pool it selects: the `pool`
parameter when it is truthy and listed, else, while no pool is selected, the
fallback pool. -/
def resolveUrlPool (props : LookupProps) (pools : List String) (selected : String) :
    String × Option String :=
  let fallback : String × Option String :=
    if selected = "" then
      match fallbackPool props.initialPoolId pools with
      | some id => (id, some id)
      | none => (selected, none)
    else (selected, none)
  match truthyId props.url.pool with
  | some p => if p ∈ pools then (p, some p) else fallback
  | none => fallback

namespace LookupPanel

/-- `performLookup(poolId, wallet)` up to its `await`: a blank wallet or an
empty pool only sets the message; otherwise `submitting` is set, the message
and the result are cleared, and `fetchMinerStats(poolId, wallet.trim())` is
in flight. -/
def performLookup (s : LookupPanel) (cause : LookupCause) (poolId wallet : String) :
    LookupPanel :=
  if jsTrim wallet = "" ∨ poolId = "" then { s with error := some enterMessage }
  else
    { s with
      submitting := true, error := none, result := none,
      lookups := s.lookups ++ [(poolId, jsTrim wallet)],
      sent := s.sent ++ [(cause, poolId, jsTrim wallet)] }

/-- The rest of `performLookup` once the fetch settles (`none` when it throws):
'Miner not found in the selected pool.' for a falsy response, which is stored
all the same, or the API message when the fetch throws; `submitting` ends
either way. -/
def settleLookup (s : LookupPanel) (lookup : String × String) (response : Option Json) :
    LookupPanel :=
  if lookup ∉ s.lookups then s
  else
    let s' : LookupPanel := { s with
      lookups := s.lookups.erase lookup, submitting := false,
      settled := s.settled ++ [(lookup, response)] }
    match response with
    | some r => { s' with
        error := if r.truthy then s.error else some notFoundMessage, result := r.orNull }
    | none => { s' with error := some unavailableMessage }

/-- `handleSubmit`: a blank wallet or no selected pool only sets the message;
otherwise the trimmed wallet is looked up in the selected pool.  The URL the
handler then replaces is not read again. -/
def submitForm (s : LookupPanel) : LookupPanel :=
  if jsTrim s.query = "" ∨ s.selectedPool = "" then { s with error := some enterMessage }
  else s.performLookup .form s.selectedPool (jsTrim s.query)

/-- `setSelectedPool(id)` when an effect has a pool to select. -/
def setSelected (s : LookupPanel) : Option String → LookupPanel
  | some id => { s with selectedPool := id }
  | none => s

/-- The URL effect's `wallet` branch: a truthy parameter goes into the form and
is looked up in the resolved pool, if there is one. -/
def lookupWalletParam (s : LookupPanel) (resolvedPool walletParam : String) : LookupPanel :=
  if walletParam = "" then s
  else if resolvedPool = "" then { s with query := walletParam }
  else ({ s with query := walletParam } : LookupPanel).performLookup .url resolvedPool walletParam

end LookupPanel

/-- The URL effect against the render `render`, writing onto `acc`: once the
pools are in and the parameters unread, select the resolved pool, put a
truthy `wallet` parameter in the form and look it up, and mark the
parameters read. -/
def urlEffect (props : LookupProps) (render acc : LookupPanel) : LookupPanel :=
  if render.urlParamsInitialised ∨ render.pools = [] then acc
  else
    let resolved := resolveUrlPool props render.pools render.selectedPool
    { (acc.setSelected resolved.2).lookupWalletParam resolved.1 (props.url.wallet.getD "") with
      urlParamsInitialised := true }

/-- The default-pool effect against `render`, writing onto `acc`: with no pool
selected, select the fallback pool. -/
def defaultPoolEffect (props : LookupProps) (render acc : LookupPanel) : LookupPanel :=
  if render.selectedPool = "" then acc.setSelected (fallbackPool props.initialPoolId render.pools)
  else acc

/-- The effects of a commit, in declaration order, both against its render.
An effect whose dependencies did not change would find nothing to do
(`runEffects_idem`), so running both after every event is what React does. -/
def runEffects (props : LookupProps) (s : LookupPanel) : LookupPanel :=
  defaultPoolEffect props s (urlEffect props s s)

/-- What the user and the pools hook can do: `load` starting or settling
(`none` when `fetchPools` throws), a pool picked in the select, the wallet
typed, the form sent, and a lookup settling (`none` when it throws). -/
inductive LookupEvent where
  | pollStart
  | pollSettle (pools : Option (List String))
  | choosePool (id : String)
  | typeQuery (query : String)
  | submit
  | settle (lookup : String × String) (response : Option Json)

namespace LookupPanel

/-- One event's updates, before the commit's effects. -/
def applyEvent (s : LookupPanel) : LookupEvent → LookupPanel
  | .pollStart => { s with loading := true }
  | .pollSettle (some pools) => { s with pools, loading := false }
  | .pollSettle none => { s with loading := false }
  | .choosePool id => { s with selectedPool := id }
  | .typeQuery query => { s with query }
  | .submit => s.submitForm
  | .settle lookup response => s.settleLookup lookup response

end LookupPanel

/-- One event and the effects of the commit it causes. -/
def lookupStep (props : LookupProps) (s : LookupPanel) (event : LookupEvent) : LookupPanel :=
  runEffects props (s.applyEvent event)

/-- The events the rendered panel lets through: one of the select's options
while the select is enabled (`loading || pools.length === 0` disables it), and
the form while its button is (`submitting` disables it, and with it the
form's implicit submission). -/
def lookupEnabled (s : LookupPanel) : LookupEvent → Bool
  | .choosePool id => !s.loading && s.pools.contains id
  | .submit => !s.submitting
  | _ => true

/-- The states the panel reaches from its mount, under any interleaving of
pools responses, lookups settling and the input the render lets through. -/
inductive LookupReachable (props : LookupProps) : LookupPanel → Prop
  | initial : LookupReachable props initialLookup
  | step {s : LookupPanel} (event : LookupEvent) (henabled : lookupEnabled s event = true) :
      LookupReachable props s → LookupReachable props (lookupStep props s event)

/-- Whether the render lets every event of a run through, each at the state
it arrives at. -/
def lookupAllowed (props : LookupProps) : LookupPanel → List LookupEvent → Bool
  | _, [] => true
  | s, event :: events =>
      lookupEnabled s event && lookupAllowed props (lookupStep props s event) events

theorem LookupReachable.foldl {props : LookupProps} {s : LookupPanel}
    (hs : LookupReachable props s) (events : List LookupEvent)
    (h : lookupAllowed props s events = true) :
    LookupReachable props (events.foldl (lookupStep props) s) := by
  induction events generalizing s with
  | nil => exact hs
  | cons event events ih =>
      simp only [lookupAllowed, Bool.and_eq_true] at h
      exact ih (.step event h.1 hs) h.2

/-! ### What each write touches -/

namespace LookupPanel

theorem eq_singleton_of_mem_of_length_le_one {α : Type} {l : List α} {a : α} (ha : a ∈ l)
    (hl : l.length ≤ 1) : l = [a] := by
  obtain _ | ⟨b, _ | ⟨c, t⟩⟩ := l
  · cases ha
  · rw [List.mem_singleton.mp ha]
  · simp only [List.length_cons] at hl
    omega

/-- A lookup either only asks for an address or starts the fetch. -/
theorem performLookup_cases (s : LookupPanel) (cause : LookupCause) (poolId wallet : String) :
    s.performLookup cause poolId wallet = { s with error := some enterMessage } ∨
      (poolId ≠ "" ∧ jsTrim wallet ≠ "" ∧ s.performLookup cause poolId wallet =
        { s with
          submitting := true, error := none, result := none,
          lookups := s.lookups ++ [(poolId, jsTrim wallet)],
          sent := s.sent ++ [(cause, poolId, jsTrim wallet)] }) := by
  unfold performLookup
  split
  · exact .inl rfl
  · next hok =>
      push_neg at hok
      exact .inr ⟨hok.2, hok.1, rfl⟩

@[simp] theorem performLookup_pools (s : LookupPanel) (cause : LookupCause) (poolId wallet : String) :
    (s.performLookup cause poolId wallet).pools = s.pools := by
  rcases s.performLookup_cases cause poolId wallet with h | ⟨-, -, h⟩ <;> rw [h]

@[simp] theorem performLookup_selectedPool (s : LookupPanel) (cause : LookupCause)
    (poolId wallet : String) : (s.performLookup cause poolId wallet).selectedPool = s.selectedPool := by
  rcases s.performLookup_cases cause poolId wallet with h | ⟨-, -, h⟩ <;> rw [h]

@[simp] theorem performLookup_urlParamsInitialised (s : LookupPanel) (cause : LookupCause)
    (poolId wallet : String) :
    (s.performLookup cause poolId wallet).urlParamsInitialised = s.urlParamsInitialised := by
  rcases s.performLookup_cases cause poolId wallet with h | ⟨-, -, h⟩ <;> rw [h]

@[simp] theorem setSelected_selectedPool (s : LookupPanel) (id : Option String) :
    (s.setSelected id).selectedPool = id.getD s.selectedPool := by
  cases id <;> rfl

@[simp] theorem setSelected_pools (s : LookupPanel) (id : Option String) :
    (s.setSelected id).pools = s.pools := by
  cases id <;> rfl

@[simp] theorem setSelected_urlParamsInitialised (s : LookupPanel) (id : Option String) :
    (s.setSelected id).urlParamsInitialised = s.urlParamsInitialised := by
  cases id <;> rfl

@[simp] theorem setSelected_lookups (s : LookupPanel) (id : Option String) :
    (s.setSelected id).lookups = s.lookups := by
  cases id <;> rfl

@[simp] theorem setSelected_submitting (s : LookupPanel) (id : Option String) :
    (s.setSelected id).submitting = s.submitting := by
  cases id <;> rfl

@[simp] theorem setSelected_sent (s : LookupPanel) (id : Option String) :
    (s.setSelected id).sent = s.sent := by
  cases id <;> rfl

@[simp] theorem settleLookup_selectedPool (s : LookupPanel) (lookup : String × String)
    (response : Option Json) : (s.settleLookup lookup response).selectedPool = s.selectedPool := by
  unfold settleLookup
  split_ifs <;> cases response <;> rfl

@[simp] theorem settleLookup_pools (s : LookupPanel) (lookup : String × String)
    (response : Option Json) : (s.settleLookup lookup response).pools = s.pools := by
  unfold settleLookup
  split_ifs <;> cases response <;> rfl

@[simp] theorem settleLookup_urlParamsInitialised (s : LookupPanel) (lookup : String × String)
    (response : Option Json) :
    (s.settleLookup lookup response).urlParamsInitialised = s.urlParamsInitialised := by
  unfold settleLookup
  split_ifs <;> cases response <;> rfl

@[simp] theorem setSelected_result (s : LookupPanel) (id : Option String) :
    (s.setSelected id).result = s.result := by
  cases id <;> rfl

@[simp] theorem setSelected_error (s : LookupPanel) (id : Option String) :
    (s.setSelected id).error = s.error := by
  cases id <;> rfl

@[simp] theorem settleLookup_sent (s : LookupPanel) (lookup : String × String)
    (response : Option Json) : (s.settleLookup lookup response).sent = s.sent := by
  unfold settleLookup
  split_ifs <;> cases response <;> rfl

@[simp] theorem lookupWalletParam_selectedPool (s : LookupPanel) (resolvedPool walletParam : String) :
    (s.lookupWalletParam resolvedPool walletParam).selectedPool = s.selectedPool := by
  unfold lookupWalletParam
  split_ifs <;> simp

@[simp] theorem lookupWalletParam_pools (s : LookupPanel) (resolvedPool walletParam : String) :
    (s.lookupWalletParam resolvedPool walletParam).pools = s.pools := by
  unfold lookupWalletParam
  split_ifs <;> simp

end LookupPanel

theorem urlEffect_of_read {props : LookupProps} {render : LookupPanel} (acc : LookupPanel)
    (h : render.urlParamsInitialised = true ∨ render.pools = []) : urlEffect props render acc = acc := by
  unfold urlEffect
  rw [if_pos h]

/-- Once the URL has been read, a commit's effects can only select a pool. -/
theorem runEffects_of_read (props : LookupProps) {s : LookupPanel}
    (hread : s.urlParamsInitialised = true) :
    (runEffects props s).submitting = s.submitting ∧ (runEffects props s).result = s.result ∧
      (runEffects props s).error = s.error := by
  unfold runEffects defaultPoolEffect
  rw [urlEffect_of_read s (.inl hread)]
  split_ifs <;> simp

theorem ne_empty_of_truthyId {o : Option String} {id : String} (h : truthyId o = some id) :
    id ≠ "" := by
  cases o with
  | none => cases h
  | some v =>
      simp only [truthyId] at h
      split_ifs at h with hv
      cases h
      exact hv

theorem urlEffect_urlParamsInitialised (props : LookupProps) (render acc : LookupPanel) :
    (urlEffect props render acc).urlParamsInitialised =
      if render.urlParamsInitialised = true ∨ render.pools = [] then acc.urlParamsInitialised
      else true := by
  unfold urlEffect
  split_ifs <;> rfl

theorem urlEffect_selectedPool (props : LookupProps) (render acc : LookupPanel) :
    (urlEffect props render acc).selectedPool =
      if render.urlParamsInitialised = true ∨ render.pools = [] then acc.selectedPool
      else (resolveUrlPool props render.pools render.selectedPool).2.getD acc.selectedPool := by
  unfold urlEffect
  split_ifs <;> simp

/-- With a pool selected, the URL effect selects only a truthy pool. -/
theorem resolveUrlPool_selects (props : LookupProps) (pools : List String) {selected : String}
    (hselected : selected ≠ "") {id : String}
    (h : (resolveUrlPool props pools selected).2 = some id) : id ≠ "" := by
  unfold resolveUrlPool at h
  simp only [hselected, ↓reduceIte] at h
  split at h
  · next p hp =>
      split_ifs at h
      cases h
      exact ne_empty_of_truthyId hp
  · cases h

@[simp] theorem urlEffect_pools (props : LookupProps) (render acc : LookupPanel) :
    (urlEffect props render acc).pools = acc.pools := by
  unfold urlEffect
  split_ifs <;> simp

@[simp] theorem defaultPoolEffect_pools (props : LookupProps) (render acc : LookupPanel) :
    (defaultPoolEffect props render acc).pools = acc.pools := by
  unfold defaultPoolEffect
  split_ifs <;> simp

@[simp] theorem defaultPoolEffect_urlParamsInitialised (props : LookupProps) (render acc : LookupPanel) :
    (defaultPoolEffect props render acc).urlParamsInitialised = acc.urlParamsInitialised := by
  unfold defaultPoolEffect
  split_ifs <;> simp

@[simp] theorem defaultPoolEffect_lookups (props : LookupProps) (render acc : LookupPanel) :
    (defaultPoolEffect props render acc).lookups = acc.lookups := by
  unfold defaultPoolEffect
  split_ifs <;> simp

theorem fallbackPool_isSome {initialPoolId : Option String} {pools : List String}
    (hpools : pools ≠ []) : ∃ id, fallbackPool initialPoolId pools = some id := by
  obtain ⟨first, rest, rfl⟩ := List.exists_cons_of_ne_nil hpools
  unfold fallbackPool
  split
  · split_ifs
    · exact ⟨_, rfl⟩
    · exact ⟨first, rfl⟩
  · exact ⟨first, rfl⟩

theorem pools_ne_nil_of_fallbackPool {initialPoolId : Option String} {pools : List String}
    {id : String} (h : fallbackPool initialPoolId pools = some id) : pools ≠ [] := by
  rintro rfl
  unfold fallbackPool at h
  split at h
  · simp at h
  · cases h

/-! ### The lookups in flight and what the panel shows -/

/-- The result the panel shows for a settled response (`none` when the fetch
threw). -/
def shownResult : Option Json → Option Json
  | some response => response.orNull
  | none => none

/-- The message the panel shows for a settled response. -/
def shownError : Option Json → Option String
  | some response => if response.truthy then none else some notFoundMessage
  | none => some unavailableMessage

/-- The settle of the lookup in flight, from a state that shows nothing:
the outcome is what the panel then shows. -/
theorem LookupPanel.settleLookup_of_busy {s : LookupPanel} {lookup : String × String}
    (hmem : lookup ∈ s.lookups) (hbusy : s.result = none ∧ s.error = none) (response : Option Json) :
    s.settleLookup lookup response =
      { s with
        lookups := s.lookups.erase lookup, submitting := false,
        settled := s.settled ++ [(lookup, response)], result := shownResult response,
        error := shownError response } := by
  unfold LookupPanel.settleLookup
  rw [if_neg (not_not.mpr hmem)]
  cases response with
  | some r => simp [shownResult, shownError, hbusy.2]
  | none => simp [shownResult, shownError, hbusy.1]

/-- Every lookup sent has settled, in the order sent, or is the one in flight,
and at most one is, as `submitting` says.  While one is in flight nothing is
shown; otherwise the panel shows the last outcome, or asks for an address.
Every lookup names a pool and a trimmed, non-blank wallet, and only the first
comes from the URL, with its `wallet` parameter. -/
structure LookupLedger (props : LookupProps) (s : LookupPanel) : Prop where
  sent_eq : s.sent.map (·.2) = s.settled.map (·.1) ++ s.lookups
  one : s.lookups.length ≤ 1
  submitting_iff : s.submitting = true ↔ s.lookups ≠ []
  busy : s.lookups ≠ [] → s.result = none ∧ s.error = none
  idle : s.lookups = [] → s.result = s.settled.getLast?.bind (shownResult ·.2) ∧
    (s.error = s.settled.getLast?.bind (shownError ·.2) ∨ s.error = some enterMessage)
  wellFormed : ∀ x ∈ s.sent, x.2.1 ≠ "" ∧ x.2.2 ≠ "" ∧ ∃ raw, x.2.2 = jsTrim raw
  urlFirst : ∀ x ∈ s.sent.tail, x.1 = .form
  urlWallet : ∀ x ∈ s.sent, x.1 = .url → x.2.2 = jsTrim (props.url.wallet.getD "")

namespace LookupLedger

variable {props : LookupProps} {s : LookupPanel}

/-- The ledger reads only the lookups, the ghost lists, `submitting`, the
result and the message. -/
theorem frame (h : LookupLedger props s) {t : LookupPanel} (hlookups : t.lookups = s.lookups)
    (hsent : t.sent = s.sent) (hsettled : t.settled = s.settled)
    (hsubmitting : t.submitting = s.submitting) (hresult : t.result = s.result)
    (herror : t.error = s.error) : LookupLedger props t := by
  obtain ⟨h1, h2, h3, h4, h5, h6, h7, h8⟩ := h
  constructor <;> simp only [hlookups, hsent, hsettled, hsubmitting, hresult, herror] <;> assumption

theorem lookups_eq_nil (h : LookupLedger props s) (hidle : s.submitting = false) : s.lookups = [] := by
  by_contra hne
  exact Bool.false_ne_true (hidle ▸ h.submitting_iff.mpr hne)

/-- A rejected form or URL only sets the message, and only while idle. -/
theorem reject (h : LookupLedger props s) (hidle : s.submitting = false) :
    LookupLedger props { s with error := some enterMessage } where
  sent_eq := h.sent_eq
  one := h.one
  submitting_iff := h.submitting_iff
  busy hne := absurd (h.lookups_eq_nil hidle) hne
  idle hnil := ⟨(h.idle hnil).1, .inr rfl⟩
  wellFormed := h.wellFormed
  urlFirst := h.urlFirst
  urlWallet := h.urlWallet

/-- Starting a lookup while idle keeps the ledger; one from the URL must be
the first, with the URL's wallet. -/
theorem start (h : LookupLedger props s) (hidle : s.submitting = false) (cause : LookupCause)
    (poolId wallet : String) (hcause : cause = .url → s.sent = [] ∧ wallet = props.url.wallet.getD "") :
    LookupLedger props (s.performLookup cause poolId wallet) := by
  have hnil := h.lookups_eq_nil hidle
  rcases s.performLookup_cases cause poolId wallet with heq | ⟨hpool, hwallet, heq⟩ <;> rw [heq]
  · exact h.reject hidle
  refine ⟨?_, by simp [hnil], by simp, fun _ => ⟨rfl, rfl⟩, fun hne => by simp at hne,
    List.forall_mem_append.mpr ⟨h.wellFormed, List.forall_mem_singleton.mpr ⟨hpool, hwallet, wallet, rfl⟩⟩,
    ?_, List.forall_mem_append.mpr ⟨h.urlWallet, List.forall_mem_singleton.mpr fun hurl => by
      rw [(hcause hurl).2]⟩⟩
  · simp [h.sent_eq, hnil]
  · by_cases hsent : s.sent = []
    · intro x hx
      simp [hsent] at hx
    · rw [List.tail_append_of_ne_nil hsent]
      refine List.forall_mem_append.mpr ⟨h.urlFirst, List.forall_mem_singleton.mpr ?_⟩
      cases cause with
      | url => exact absurd (hcause rfl).1 hsent
      | form => rfl

/-- A settle of the lookup in flight records its outcome and shows it; any
other settle changes nothing. -/
theorem settle (h : LookupLedger props s) (lookup : String × String) (response : Option Json) :
    LookupLedger props (s.settleLookup lookup response) := by
  by_cases hmem : lookup ∈ s.lookups
  · have hone : s.lookups = [lookup] := LookupPanel.eq_singleton_of_mem_of_length_le_one hmem h.one
    rw [LookupPanel.settleLookup_of_busy hmem (h.busy (by simp [hone]))]
    refine ⟨?_, by simp [hone], by simp [hone], fun hne => by simp [hone] at hne, fun _ => by simp,
      h.wellFormed, h.urlFirst, h.urlWallet⟩
    simp [h.sent_eq, hone]
  · unfold LookupPanel.settleLookup
    rw [if_pos hmem]
    exact h

theorem setSelected (h : LookupLedger props s) (id : Option String) :
    LookupLedger props (s.setSelected id) :=
  h.frame (by simp) (by simp) (by cases id <;> rfl) (by simp) (by cases id <;> rfl)
    (by cases id <;> rfl)

/-- The URL effect starts a lookup only on the first render with pools, when
nothing has been sent. -/
theorem afterUrlEffect (h : LookupLedger props s) (render : LookupPanel)
    (hfirst : render.urlParamsInitialised = false → render.pools ≠ [] →
      s.submitting = false ∧ s.sent = []) :
    LookupLedger props (urlEffect props render s) := by
  unfold urlEffect
  split_ifs with hread
  · exact h
  push_neg at hread
  obtain ⟨hidle, hsent⟩ := hfirst (by simpa using hread.1) hread.2
  let t := s.setSelected (resolveUrlPool props render.pools render.selectedPool).2
  have ht : LookupLedger props t := h.setSelected _
  have hwallet : LookupLedger props
      (t.lookupWalletParam (resolveUrlPool props render.pools render.selectedPool).1
        (props.url.wallet.getD "")) := by
    unfold LookupPanel.lookupWalletParam
    split_ifs
    · exact ht
    · exact ht.frame rfl rfl rfl rfl rfl rfl
    · exact (ht.frame (t := { t with query := props.url.wallet.getD "" }) rfl rfl rfl rfl rfl
        rfl).start
        (by simpa [t] using hidle) .url _ _ fun _ => ⟨by simpa [t] using hsent, rfl⟩
  exact hwallet.frame rfl rfl rfl rfl rfl rfl

theorem afterDefaultPoolEffect (h : LookupLedger props s) (render : LookupPanel) :
    LookupLedger props (defaultPoolEffect props render s) := by
  unfold defaultPoolEffect
  split_ifs
  · exact h.setSelected _
  · exact h

end LookupLedger

/-! ### Every reachable state -/

/-- The URL is read on the first render with pools; until then nothing is
selected or sent. -/
structure LookupShape (s : LookupPanel) : Prop where
  read : s.pools ≠ [] → s.urlParamsInitialised = true
  fresh : s.urlParamsInitialised = false → s.selectedPool = "" ∧ s.sent = []

structure LookupInv (props : LookupProps) (s : LookupPanel) : Prop where
  shape : LookupShape s
  ledger : LookupLedger props s

namespace LookupInv

variable {props : LookupProps} {s : LookupPanel}

/-- Before the URL is read nothing has been sent, so nothing is in flight. -/
theorem lookups_nil_of_fresh (h : LookupInv props s) (hinit : s.urlParamsInitialised = false) :
    s.lookups = [] := by
  have hmap := h.ledger.sent_eq
  simp only [(h.shape.fresh hinit).2, List.map_nil, List.nil_eq_append_iff,
    List.map_eq_nil_iff] at hmap
  exact hmap.2

/-- A lookup in flight was sent after the URL was read. -/
theorem read_of_lookup (h : LookupInv props s) {lookup : String × String}
    (hmem : lookup ∈ s.lookups) : s.urlParamsInitialised = true := by
  cases hinit : s.urlParamsInitialised
  · exact absurd (h.lookups_nil_of_fresh hinit ▸ hmem) (List.not_mem_nil _)
  · rfl

/-- A pool is selected only once the URL has been read. -/
theorem read_of_selected (h : LookupInv props s) (hselected : s.selectedPool ≠ "") :
    s.urlParamsInitialised = true := by
  cases hinit : s.urlParamsInitialised
  · exact absurd (h.shape.fresh hinit).1 hselected
  · rfl

theorem initial : LookupInv props initialLookup where
  shape := ⟨fun h => absurd rfl h, fun _ => ⟨rfl, rfl⟩⟩
  ledger := ⟨rfl, Nat.zero_le _, ⟨fun h => Bool.noConfusion h, fun h => absurd rfl h⟩,
    fun h => absurd rfl h, fun _ => ⟨rfl, .inl rfl⟩, fun _ hx => (nomatch hx),
    fun _ hx => (nomatch hx), fun _ hx => (nomatch hx)⟩

/-- Once the URL is read, or with no pools, a commit's effects only select the
fallback pool, and only with pools; the invariant holds after them. -/
theorem effects (h : LookupInv props s) : LookupInv props (runEffects props s) := by
  have hread : s.urlParamsInitialised = true ∨ s.pools = [] := by
    by_cases hp : s.pools = []
    · exact .inr hp
    · exact .inl (h.shape.read hp)
  unfold runEffects
  rw [urlEffect_of_read s hread]
  refine ⟨⟨by simpa using h.shape.read, fun hfresh => ?_⟩, h.ledger.afterDefaultPoolEffect s⟩
  simp only [defaultPoolEffect_urlParamsInitialised] at hfresh
  unfold defaultPoolEffect
  split_ifs
  · cases hfb : fallbackPool props.initialPoolId s.pools with
    | none => exact h.shape.fresh hfresh
    | some id =>
        have hinit := h.shape.read (pools_ne_nil_of_fallbackPool hfb)
        rw [hinit] at hfresh
        cases hfresh
  · exact h.shape.fresh hfresh

/-- The first pools response: the effects read the URL, possibly start its
lookup, and mark it read. -/
theorem firstLoad (h : LookupInv props s) (hinit : s.urlParamsInitialised = false)
    (pools : List String) (hpools : pools ≠ []) :
    LookupInv props (runEffects props { s with pools, loading := false }) := by
  obtain ⟨-, hsent⟩ := h.shape.fresh hinit
  have hnil := h.lookups_nil_of_fresh hinit
  have hidle : s.submitting = false := by
    cases hsub : s.submitting
    · rfl
    · exact absurd hnil (h.ledger.submitting_iff.mp hsub)
  have hledger : LookupLedger props { s with pools, loading := false } :=
    h.ledger.frame rfl rfl rfl rfl rfl rfl
  have hread : (urlEffect props { s with pools, loading := false }
      { s with pools, loading := false }).urlParamsInitialised = true := by
    unfold urlEffect
    rw [if_neg (by simp [hinit, hpools])]
  refine ⟨⟨fun _ => by simpa [runEffects] using hread, fun hf => ?_⟩,
    ((hledger.afterUrlEffect _ fun _ _ => ⟨hidle, hsent⟩).afterDefaultPoolEffect _)⟩
  simp [runEffects, hread] at hf

theorem settleLookup (h : LookupInv props s) (lookup : String × String) (response : Option Json) :
    LookupInv props (s.settleLookup lookup response) := by
  refine ⟨⟨?_, ?_⟩, h.ledger.settle lookup response⟩
  · simpa using h.shape.read
  · simpa using h.shape.fresh

theorem submitForm (h : LookupInv props s) (hidle : s.submitting = false) :
    LookupInv props s.submitForm := by
  unfold LookupPanel.submitForm
  split_ifs with hreject
  · exact ⟨⟨h.shape.read, h.shape.fresh⟩, h.ledger.reject hidle⟩
  · push_neg at hreject
    refine ⟨⟨by simpa using h.shape.read, fun hf => ?_⟩,
      h.ledger.start hidle .form _ _ fun hform => nomatch hform⟩
    simp only [LookupPanel.performLookup_urlParamsInitialised] at hf
    exact absurd (h.shape.fresh hf).1 hreject.2

/-- The step lemma: every event the render lets through keeps the invariant. -/
theorem lookupStep (h : LookupInv props s) {event : LookupEvent}
    (he : lookupEnabled s event = true) : LookupInv props (PoolDashboard.lookupStep props s event) := by
  unfold PoolDashboard.lookupStep
  cases event with
  | pollStart => exact effects ⟨⟨h.shape.read, h.shape.fresh⟩, h.ledger.frame rfl rfl rfl rfl rfl rfl⟩
  | pollSettle response =>
      cases response with
      | none => exact effects ⟨⟨h.shape.read, h.shape.fresh⟩, h.ledger.frame rfl rfl rfl rfl rfl rfl⟩
      | some pools =>
          by_cases hfirst : s.urlParamsInitialised = false ∧ pools ≠ []
          · exact h.firstLoad hfirst.1 pools hfirst.2
          · refine effects ⟨⟨fun hp => ?_, h.shape.fresh⟩, h.ledger.frame rfl rfl rfl rfl rfl rfl⟩
            show s.urlParamsInitialised = true
            cases hinit : s.urlParamsInitialised
            · exact (hfirst ⟨hinit, hp⟩).elim
            · rfl
  | choosePool id =>
      simp only [lookupEnabled, Bool.and_eq_true, List.elem_iff, List.contains] at he
      have hinit := h.shape.read (List.ne_nil_of_mem he.2)
      refine effects ⟨⟨fun _ => hinit, fun hf => ?_⟩, h.ledger.frame rfl rfl rfl rfl rfl rfl⟩
      exact absurd (hinit.symm.trans hf) Bool.noConfusion
  | typeQuery query => exact effects ⟨⟨h.shape.read, h.shape.fresh⟩, h.ledger.frame rfl rfl rfl rfl rfl rfl⟩
  | submit => exact effects (h.submitForm (by simpa [lookupEnabled] using he))
  | settle lookup response => exact effects (h.settleLookup lookup response)

end LookupInv

theorem LookupReachable.inv {props : LookupProps} {s : LookupPanel} (hs : LookupReachable props s) :
    LookupInv props s := by
  induction hs with
  | initial => exact LookupInv.initial
  | step event henabled _ ih => exact ih.lookupStep henabled

/-! ### What the panel guarantees -/

/-- The settle of the lookup in flight ends `submitting` and shows its outcome. -/
theorem lookupStep_settle_of_mem {props : LookupProps} {s : LookupPanel} (hs : LookupInv props s)
    {lookup : String × String} (hmem : lookup ∈ s.lookups) (response : Option Json) :
    let t := lookupStep props s (.settle lookup response)
    t.submitting = false ∧ t.result = shownResult response ∧ t.error = shownError response := by
  have hsettle := LookupPanel.settleLookup_of_busy hmem (hs.ledger.busy (List.ne_nil_of_mem hmem))
    response
  have hread : (s.settleLookup lookup response).urlParamsInitialised = true := by
    rw [LookupPanel.settleLookup_urlParamsInitialised]
    exact hs.read_of_lookup hmem
  obtain ⟨h1, h2, h3⟩ := runEffects_of_read props hread
  show (runEffects props (s.settleLookup lookup response)).submitting = false ∧
    (runEffects props (s.settleLookup lookup response)).result = shownResult response ∧
    (runEffects props (s.settleLookup lookup response)).error = shownError response
  rw [h1, h2, h3, hsettle]
  exact ⟨rfl, rfl, rfl⟩

/-- An enabled submit with a non-blank wallet and a selected pool starts a
lookup. -/
theorem lookupStep_submit_starts {props : LookupProps} {s : LookupPanel} (hs : LookupInv props s)
    (hwallet : jsTrim s.query ≠ "") (hselected : s.selectedPool ≠ "") :
    (lookupStep props s .submit).submitting = true := by
  have hsubmit : s.submitForm = s.performLookup .form s.selectedPool (jsTrim s.query) := by
    unfold LookupPanel.submitForm
    rw [if_neg (not_or.mpr ⟨hwallet, hselected⟩)]
  have hstart : (s.performLookup .form s.selectedPool (jsTrim s.query)).submitting = true := by
    unfold LookupPanel.performLookup
    rw [if_neg (not_or.mpr ⟨by rwa [jsTrim_jsTrim], hselected⟩)]
  have hread : s.submitForm.urlParamsInitialised = true := by
    rw [hsubmit, LookupPanel.performLookup_urlParamsInitialised]
    exact hs.read_of_selected hselected
  rw [lookupStep, LookupPanel.applyEvent, (runEffects_of_read props hread).1, hsubmit, hstart]

/-- At most one lookup is ever in flight, and `submitting` says exactly whether
one is: the URL starts one only before a pool can be picked, and the form's
button is disabled while `submitting`.  The button's enabled submit of a
non-blank wallet with a pool selected sets it, and the settle of the lookup in
flight clears it. -/
theorem lookup_one_in_flight (props : LookupProps) (s : LookupPanel)
    (hs : LookupReachable props s) :
    s.lookups.length ≤ 1 ∧ (s.submitting = true ↔ s.lookups ≠ []) ∧
      (s.submitting = false → jsTrim s.query ≠ "" → s.selectedPool ≠ "" →
        (lookupStep props s .submit).submitting = true) ∧
      ∀ lookup ∈ s.lookups, ∀ response,
        (lookupStep props s (.settle lookup response)).submitting = false :=
  ⟨hs.inv.ledger.one, hs.inv.ledger.submitting_iff,
    fun _ hwallet hselected => lookupStep_submit_starts hs.inv hwallet hselected,
    fun _ hmem response => (lookupStep_settle_of_mem hs.inv hmem response).1⟩

theorem lookup_one_in_flight_after_resubmit :
    let props : LookupProps := ⟨none, ⟨some " bc1q ", some "ltc"⟩⟩
    let s := [LookupEvent.pollSettle (some ["btc", "ltc"]), .settle ("ltc", "bc1q") (some .null),
      .typeQuery "bc1x", .submit].foldl (lookupStep props) initialLookup
    s.lookups = [("btc", "bc1x")] ∧ s.lookups.length ≤ 1 ∧ (s.submitting = true ↔ s.lookups ≠ []) ∧
      (s.submitting = false → jsTrim s.query ≠ "" → s.selectedPool ≠ "" →
        (lookupStep props s .submit).submitting = true) ∧
      ∀ lookup ∈ s.lookups, ∀ response,
        (lookupStep props s (.settle lookup response)).submitting = false := by
  intro props s
  exact ⟨by decide, lookup_one_in_flight props s (LookupReachable.initial.foldl _ (by decide))⟩

/-- The panel never shows a stale lookup.  Every lookup sent has settled, in
the order sent, or is the one in flight.  While one is in flight nothing is
shown; its settle shows its outcome (no result for a `null` response, 'Miner
not found in the selected pool.' beside a falsy one, the API message when the
fetch threw); otherwise the result and the message are the last lookup's
outcome, the message possibly replaced by the request for an address after a
rejected form. -/
theorem lookup_shows_latest (props : LookupProps) (s : LookupPanel)
    (hs : LookupReachable props s) :
    s.sent.map (·.2) = s.settled.map (·.1) ++ s.lookups ∧
      (s.lookups ≠ [] → s.result = none ∧ s.error = none) ∧
      (∀ lookup ∈ s.lookups, ∀ response,
        (lookupStep props s (.settle lookup response)).result = shownResult response ∧
          (lookupStep props s (.settle lookup response)).error = shownError response) ∧
      (s.lookups = [] → s.result = s.settled.getLast?.bind (shownResult ·.2) ∧
        (s.error = s.settled.getLast?.bind (shownError ·.2) ∨ s.error = some enterMessage)) :=
  ⟨hs.inv.ledger.sent_eq, hs.inv.ledger.busy,
    fun _ hmem response => (lookupStep_settle_of_mem hs.inv hmem response).2, hs.inv.ledger.idle⟩

theorem lookup_shows_latest_after_two_lookups :
    let props : LookupProps := ⟨none, ⟨some " bc1q ", some "ltc"⟩⟩
    let s := [LookupEvent.pollSettle (some ["btc", "ltc"]), .settle ("ltc", "bc1q") (some .null),
      .typeQuery "bc1x", .submit].foldl (lookupStep props) initialLookup
    s.lookups = [("btc", "bc1x")] ∧ s.sent.map (·.2) = [("ltc", "bc1q"), ("btc", "bc1x")] ∧
      (s.sent.map (·.2) = s.settled.map (·.1) ++ s.lookups ∧
        (s.lookups ≠ [] → s.result = none ∧ s.error = none) ∧
        (∀ lookup ∈ s.lookups, ∀ response,
          (lookupStep props s (.settle lookup response)).result = shownResult response ∧
            (lookupStep props s (.settle lookup response)).error = shownError response) ∧
        (s.lookups = [] → s.result = s.settled.getLast?.bind (shownResult ·.2) ∧
          (s.error = s.settled.getLast?.bind (shownError ·.2) ∨ s.error = some enterMessage))) := by
  intro props s
  exact ⟨by decide, by decide,
    lookup_shows_latest props s (LookupReachable.initial.foldl _ (by decide))⟩

/-- Every lookup the panel sends names a pool and a trimmed, non-blank wallet;
only the first can come from the URL, and that one sends the URL's `wallet`
parameter, trimmed. -/
theorem lookup_requests_well_formed (props : LookupProps) (s : LookupPanel)
    (hs : LookupReachable props s) :
    (∀ x ∈ s.sent, x.2.1 ≠ "" ∧ x.2.2 ≠ "" ∧ ∃ raw, x.2.2 = jsTrim raw) ∧
      (∀ x ∈ s.sent.tail, x.1 = .form) ∧
      ∀ x ∈ s.sent, x.1 = .url → x.2.2 = jsTrim (props.url.wallet.getD "") :=
  ⟨hs.inv.ledger.wellFormed, hs.inv.ledger.urlFirst, hs.inv.ledger.urlWallet⟩

theorem lookup_requests_well_formed_on_url_run :
    let props : LookupProps := ⟨none, ⟨some " bc1q ", some "ltc"⟩⟩
    let s := [LookupEvent.pollSettle (some ["btc", "ltc"]), .settle ("ltc", "bc1q") (some .null),
      .typeQuery "bc1x", .submit].foldl (lookupStep props) initialLookup
    s.sent = [(.url, "ltc", "bc1q"), (.form, "btc", "bc1x")] ∧
      ((∀ x ∈ s.sent, x.2.1 ≠ "" ∧ x.2.2 ≠ "" ∧ ∃ raw, x.2.2 = jsTrim raw) ∧
        (∀ x ∈ s.sent.tail, x.1 = .form) ∧
        ∀ x ∈ s.sent, x.1 = .url → x.2.2 = jsTrim (props.url.wallet.getD "")) := by
  intro props s
  exact ⟨by decide, lookup_requests_well_formed props s (LookupReachable.initial.foldl _ (by decide))⟩

/-- The first pools response of a fresh panel ends on the fallback pool: the
default-pool effect's update comes after the URL effect's. -/
theorem firstLoad_selectedPool {props : LookupProps} {s : LookupPanel} (hs : LookupReachable props s)
    (hinit : s.urlParamsInitialised = false) {pools : List String} (hpools : pools ≠ []) :
    some (lookupStep props s (.pollSettle (some pools))).selectedPool =
      fallbackPool props.initialPoolId pools := by
  obtain ⟨hsel, -⟩ := hs.inv.shape.fresh hinit
  obtain ⟨id, hid⟩ := @fallbackPool_isSome props.initialPoolId pools hpools
  let a : LookupPanel := { s with pools, loading := false }
  show some (defaultPoolEffect props a (urlEffect props a a)).selectedPool = _
  unfold defaultPoolEffect
  rw [if_pos hsel, LookupPanel.setSelected_selectedPool]
  simp only [a, hid]
  rfl

/-- On the first pools response of a fresh panel, a truthy and listed `pool`
parameter with a non-blank `wallet` starts the one lookup in flight. -/
theorem firstLoad_url_lookup {props : LookupProps} {s : LookupPanel} (hs : LookupReachable props s)
    (hinit : s.urlParamsInitialised = false) {pools : List String} (hpools : pools ≠ []) {p w : String}
    (hp : truthyId props.url.pool = some p) (hmem : p ∈ pools) (hw : props.url.wallet = some w)
    (hblank : jsTrim w ≠ "") :
    (lookupStep props s (.pollSettle (some pools))).lookups = [(p, jsTrim w)] := by
  obtain ⟨hsel, -⟩ := hs.inv.shape.fresh hinit
  have hnil := hs.inv.lookups_nil_of_fresh hinit
  let a : LookupPanel := { s with pools, loading := false }
  have hresolve : resolveUrlPool props pools a.selectedPool = (p, some p) := by
    unfold resolveUrlPool
    rw [hp]
    exact if_pos hmem
  have hwne : w ≠ "" := by
    rintro rfl
    exact hblank rfl
  show (defaultPoolEffect props a (urlEffect props a a)).lookups = _
  rw [defaultPoolEffect_lookups]
  unfold urlEffect
  rw [if_neg (by simp [a, hinit, hpools]), hresolve]
  show (LookupPanel.lookupWalletParam _ p (props.url.wallet.getD "")).lookups = _
  rw [hw, Option.getD_some]
  unfold LookupPanel.lookupWalletParam
  rw [if_neg hwne, if_neg (ne_empty_of_truthyId hp)]
  unfold LookupPanel.performLookup
  rw [if_neg (by simp [hblank, ne_empty_of_truthyId hp])]
  simp [a, hnil]

/-- On the first pools response both effects of the commit run against a
render with no pool selected.  The URL effect selects the URL's `pool` and
starts its lookup there; the default-pool effect, whose update comes last,
selects the fallback pool.  The select, the pool later forms are sent to and
the pool named beside the result are the fallback pool, whatever the URL
says, while the URL's lookup went to the URL's pool. -/
theorem url_pool_overridden (props : LookupProps) (s : LookupPanel) (hs : LookupReachable props s)
    (hinit : s.urlParamsInitialised = false) (pools : List String) (hpools : pools ≠ []) :
    let s' := lookupStep props s (.pollSettle (some pools))
    some s'.selectedPool = fallbackPool props.initialPoolId pools ∧
      ∀ p, truthyId props.url.pool = some p → p ∈ pools →
        ∀ w, props.url.wallet = some w → jsTrim w ≠ "" → s'.lookups = [(p, jsTrim w)] :=
  ⟨firstLoad_selectedPool hs hinit hpools,
    fun _ hp hmem _ hw hblank => firstLoad_url_lookup hs hinit hpools hp hmem hw hblank⟩

theorem url_pool_overridden_on_ltc_link :
    let props : LookupProps := ⟨none, ⟨some " bc1q ", some "ltc"⟩⟩
    let s' := lookupStep props initialLookup (.pollSettle (some ["btc", "ltc"]))
    s'.selectedPool = "btc" ∧ s'.lookups = [("ltc", "bc1q")] ∧
      (some s'.selectedPool = fallbackPool props.initialPoolId ["btc", "ltc"] ∧
        ∀ p, truthyId props.url.pool = some p → p ∈ ["btc", "ltc"] →
          ∀ w, props.url.wallet = some w → jsTrim w ≠ "" → s'.lookups = [(p, jsTrim w)]) := by
  intro props s'
  exact ⟨by decide, by decide,
    url_pool_overridden props initialLookup .initial rfl ["btc", "ltc"] (by decide)⟩

/-- A round of effects leaves no pool unselected while the fallback pool is a
non-empty id. -/
theorem runEffects_fallback_of_unselected {props : LookupProps} {s : LookupPanel}
    (h : (runEffects props s).selectedPool = "") {id : String}
    (hid : fallbackPool props.initialPoolId s.pools = some id) : id = "" := by
  unfold runEffects defaultPoolEffect at h
  split_ifs at h with hs
  · simpa [hid] using h
  · rw [urlEffect_selectedPool] at h
    split_ifs at h
    · exact absurd h hs
    · cases hres : (resolveUrlPool props s.pools s.selectedPool).2 with
      | none => exact absurd (by simpa [hres] using h) hs
      | some p => exact absurd (by simpa [hres] using h) (resolveUrlPool_selects props s.pools hs hres)

/-- A second round of effects changes nothing, so the effects of a commit
settle in one round, and an effect whose dependencies did not change finds
nothing to do. -/
theorem runEffects_idem (props : LookupProps) (s : LookupPanel) :
    runEffects props (runEffects props s) = runEffects props s := by
  have hpools : (runEffects props s).pools = s.pools := by simp [runEffects]
  have hread : (runEffects props s).urlParamsInitialised = true ∨ (runEffects props s).pools = [] := by
    by_cases hp : s.pools = []
    · exact .inr (hpools.trans hp)
    · refine .inl ?_
      simp only [runEffects, defaultPoolEffect_urlParamsInitialised, urlEffect_urlParamsInitialised,
        hp, or_false]
      split_ifs with hinit
      · exact hinit
      · rfl
  rw [runEffects, urlEffect_of_read _ hread]
  unfold defaultPoolEffect
  split_ifs with hsel
  · rw [hpools]
    cases hfb : fallbackPool props.initialPoolId s.pools with
    | none => rfl
    | some id =>
        rw [runEffects_fallback_of_unselected hsel hfb, ← hsel]
        rfl
  · rfl

/-! ### The result's caption -/

/-- `selectedPoolMeta`: `pools.find((pool) => pool.id === selectedPool)`, the
pool the result's caption names. -/
def LookupPanel.selectedPoolMeta (s : LookupPanel) : Option String :=
  s.pools.find? (· = s.selectedPool)

theorem LookupPanel.selectedPoolMeta_of_mem {s : LookupPanel} (h : s.selectedPool ∈ s.pools) :
    s.selectedPoolMeta = some s.selectedPool := by
  have hsome : (s.pools.find? (· = s.selectedPool)).isSome := List.find?_isSome.mpr ⟨_, h, by simp⟩
  obtain ⟨a, ha⟩ := Option.isSome_iff_exists.mp hsome
  have hfound := List.find?_some ha
  simp only [decide_eq_true_eq] at hfound
  rw [LookupPanel.selectedPoolMeta, ha, hfound]

/-- The caption of a result names the pool in the select, not the pool the
lookup went to.  From any state the panel reaches with no lookup in flight,
picking a listed pool other than the last lookup's keeps that lookup's result
on screen, captioned with the pool picked. -/
theorem result_captioned_with_select (props : LookupProps) (s : LookupPanel)
    (hs : LookupReachable props s) (hidle : s.lookups = []) (q : String)
    (henabled : lookupEnabled s (.choosePool q) = true) (hq : q ≠ "")
    (hother : s.settled.getLast?.map (·.1.1) ≠ some q) :
    let s' := lookupStep props s (.choosePool q)
    s'.result = s'.settled.getLast?.bind (shownResult ·.2) ∧ s'.selectedPoolMeta = some q ∧
      s'.selectedPoolMeta ≠ s'.settled.getLast?.map (·.1.1) := by
  intro s'
  simp only [lookupEnabled, Bool.and_eq_true, Bool.not_eq_true', List.elem_iff, List.contains] at henabled
  let t : LookupPanel := { s with selectedPool := q }
  have hread : s.urlParamsInitialised = true := hs.inv.shape.read (List.ne_nil_of_mem henabled.2)
  have ht : s' = t := by
    change defaultPoolEffect props t (urlEffect props t t) = t
    rw [urlEffect_of_read t (.inl (show t.urlParamsInitialised = true from hread))]
    unfold defaultPoolEffect
    rw [if_neg hq]
  have hmeta : s'.selectedPoolMeta = some q := by
    rw [ht]
    exact LookupPanel.selectedPoolMeta_of_mem henabled.2
  refine ⟨?_, hmeta, ?_⟩
  · rw [ht]
    exact (hs.inv.ledger.idle hidle).1
  · rw [hmeta, ht]
    exact hother.symm

theorem result_captioned_with_select_after_btc_lookup :
    let props : LookupProps := ⟨none, ⟨none, none⟩⟩
    let s := [LookupEvent.pollSettle (some ["btc", "ltc"]), .typeQuery "bc1q", .submit,
      .settle ("btc", "bc1q") (some (.obj []))].foldl (lookupStep props) initialLookup
    s.lookups = [] ∧ lookupEnabled s (.choosePool "ltc") = true ∧ "ltc" ≠ "" ∧
      s.settled.getLast?.map (·.1.1) ≠ some "ltc" ∧
      (let s' := lookupStep props s (.choosePool "ltc")
       s'.result = s'.settled.getLast?.bind (shownResult ·.2) ∧ s'.selectedPoolMeta = some "ltc" ∧
        s'.selectedPoolMeta ≠ s'.settled.getLast?.map (·.1.1)) := by
  intro props s
  have hs : LookupReachable props s := LookupReachable.initial.foldl _ (by decide)
  have hidle : s.lookups = [] := by decide
  have henabled : lookupEnabled s (.choosePool "ltc") = true := by decide
  have hother : s.settled.getLast?.map (·.1.1) ≠ some "ltc" := by decide
  exact ⟨hidle, henabled, by decide, hother,
    result_captioned_with_select props s hs hidle "ltc" henabled (by decide) hother⟩

/-! ### The pool page's hand-off to the miners page -/

/-- `handleMinerLookupSubmit` of the pool page: a blank value does nothing;
otherwise the miners page opens with the trimmed value as `wallet` and, for a
non-empty pool id, the pool as `pool`.  The miners page's panel has no
`initialPoolId`, and reads the query string back as it was written. -/
def poolPageLookup (poolId minerLookupValue : String) : Option LookupUrl :=
  if jsTrim minerLookupValue = "" then none
  else some ⟨some (jsTrim minerLookupValue), if poolId = "" then none else some poolId⟩

namespace LookupPanel

theorem settleLookup_result_of_mem {s : LookupPanel} {lookup : String × String}
    (hmem : lookup ∈ s.lookups) (response : Json) :
    (s.settleLookup lookup (some response)).result = response.orNull := by
  unfold settleLookup
  rw [if_neg (not_not.mpr hmem)]

end LookupPanel

@[simp] theorem defaultPoolEffect_result (props : LookupProps) (render acc : LookupPanel) :
    (defaultPoolEffect props render acc).result = acc.result := by
  unfold defaultPoolEffect
  split_ifs <;> simp

/-- A state already on its fallback pool keeps it through the default-pool
effect. -/
theorem defaultPoolEffect_selectedPool_of_fallback {props : LookupProps} {t : LookupPanel}
    (h : some t.selectedPool = fallbackPool props.initialPoolId t.pools) :
    (defaultPoolEffect props t t).selectedPool = t.selectedPool := by
  unfold defaultPoolEffect
  split_ifs
  · rw [LookupPanel.setSelected_selectedPool, ← h]
    rfl
  · rfl

/-- A lookup sent from a pool page reaches the miners page's panel as the URL
it mounts on.  Whatever happened there before the pools arrived, the first
pools response that lists the pool starts one lookup, of that pool and the
trimmed wallet; once it settles, the panel shows its result, but the
caption's pool (`selectedPoolMeta`) is the first listed pool, which the
default-pool effect selected last. -/
theorem pool_page_lookup_captioned_first (poolId minerLookupValue : String) (url : LookupUrl)
    (hurl : poolPageLookup poolId minerLookupValue = some url) (hpoolId : poolId ≠ "")
    (s : LookupPanel) (hs : LookupReachable ⟨none, url⟩ s) (hinit : s.urlParamsInitialised = false)
    (pools : List String) (hmem : poolId ∈ pools) (response : Json) :
    let s₁ := lookupStep ⟨none, url⟩ s (.pollSettle (some pools))
    let s₂ := lookupStep ⟨none, url⟩ s₁ (.settle (poolId, jsTrim minerLookupValue) (some response))
    s₁.lookups = [(poolId, jsTrim minerLookupValue)] ∧ s₂.result = response.orNull ∧
      s₂.selectedPoolMeta = pools.head? := by
  intro s₁ s₂
  have hblank : jsTrim minerLookupValue ≠ "" := by
    intro h
    simp [poolPageLookup, h] at hurl
  have hurl' : url = ⟨some (jsTrim minerLookupValue), some poolId⟩ := by
    simp only [poolPageLookup, hblank, hpoolId, ↓reduceIte, Option.some.injEq] at hurl
    exact hurl.symm
  subst hurl'
  have hpools : pools ≠ [] := List.ne_nil_of_mem hmem
  have hlookups : s₁.lookups = [(poolId, jsTrim minerLookupValue)] := by
    rw [← jsTrim_jsTrim minerLookupValue]
    exact firstLoad_url_lookup hs hinit hpools (by simp [truthyId, hpoolId]) hmem rfl
      (by rwa [jsTrim_jsTrim])
  have hsel : some s₁.selectedPool = pools.head? := firstLoad_selectedPool hs hinit hpools
  have hpools₁ : s₁.pools = pools := by
    simp [s₁, lookupStep, runEffects, LookupPanel.applyEvent]
  have hs₁ : LookupReachable _ s₁ := hs.step (.pollSettle (some pools)) rfl
  have hread : s₁.urlParamsInitialised = true := hs₁.inv.shape.read (by rw [hpools₁]; exact hpools)
  let t := s₁.settleLookup (poolId, jsTrim minerLookupValue) (some response)
  have ht : s₂ = defaultPoolEffect ⟨none, ⟨some (jsTrim minerLookupValue), some poolId⟩⟩ t t := by
    change runEffects _ t = _
    rw [runEffects, urlEffect_of_read _ (.inl (by simp [t, hread]))]
  have hsel₂ : s₂.selectedPool = s₁.selectedPool := by
    rw [ht, defaultPoolEffect_selectedPool_of_fallback] <;> simp only [t,
      LookupPanel.settleLookup_selectedPool, LookupPanel.settleLookup_pools, hpools₁]
    exact hsel
  refine ⟨hlookups, ?_, ?_⟩
  · rw [ht, defaultPoolEffect_result]
    exact LookupPanel.settleLookup_result_of_mem (by simp [hlookups]) response
  · have hpools₂ : s₂.pools = pools := by
      rw [ht, defaultPoolEffect_pools]
      simp [t, hpools₁]
    have hlisted : s₂.selectedPool ∈ s₂.pools := by
      rw [hpools₂, hsel₂]
      exact List.mem_of_mem_head? hsel.symm
    rw [LookupPanel.selectedPoolMeta_of_mem hlisted, hsel₂, hsel]

theorem pool_page_lookup_captioned_first_on_bch :
    let url : LookupUrl := ⟨some "bc1q", some "bch"⟩
    let s₁ := lookupStep ⟨none, url⟩ initialLookup (.pollSettle (some ["btc", "bch"]))
    let s₂ := lookupStep ⟨none, url⟩ s₁ (.settle ("bch", jsTrim " bc1q ") (some (.obj [])))
    s₂.selectedPoolMeta = some "btc" ∧ poolPageLookup "bch" " bc1q " = some url ∧ "bch" ≠ "" ∧
      (s₁.lookups = [("bch", jsTrim " bc1q ")] ∧ s₂.result = Json.orNull (.obj []) ∧
        s₂.selectedPoolMeta = ["btc", "bch"].head?) := by
  intro url s₁ s₂
  exact ⟨by decide, rfl, by decide,
    pool_page_lookup_captioned_first "bch" " bc1q " url rfl (by decide) initialLookup .initial
      rfl ["btc", "bch"] (by decide) (.obj [])⟩

end PoolDashboard
