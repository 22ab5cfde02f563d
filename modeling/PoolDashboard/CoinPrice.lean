import PoolDashboard.Basic
import PoolDashboard.Dashboard

/-
The coin price of the pool page (`priceInfo`).  `COIN_META` names the
CoinGecko id of three coins.  The price effect depends on that id: with none
it clears the price; with one it calls `loadPrice` at once and every five
minutes, and its cleanup sets the instance's `cancelled` flag.  A settled
`loadPrice` writes only when its instance is not cancelled: a thrown fetch,
a failed status or an unparsable body clears the price, a body with a truthy
entry for the id sets the price and the 24 h change, any other body writes
nothing.

Ghost state: the effect instances, counted by an epoch (a request of an
earlier instance is one whose flag is set), each request's instance and id,
and the request whose response last wrote the price.
-/

namespace PoolDashboard

/-- `pool?.coin?.symbol?.toLowerCase()?.replace(/[^a-z0-9]/g, '') ?? ''`. -/
def coinSymbol : Option String → String
  | some symbol => ⟨condensedLower symbol⟩
  | none => ""

/-- The `coingeckoId`s of `COIN_META`, by coin symbol. -/
def coinMetaIds : List (String × String) :=
  [("btc", "bitcoin"), ("bch", "bitcoin-cash"), ("octa", "octaspace")]

/-- `COIN_META[coinSymbol]?.coingeckoId`. -/
def coingeckoIdOf (symbol : String) : Option String :=
  (coinMetaIds.find? (·.1 = symbol)).map (·.2)

/-- `priceInfo`: the price in dollars and its 24 h change. -/
structure PriceInfo where
  price : Option ℚ
  change : Option ℚ
deriving DecidableEq

/-- `{ price: null, change: null }`, which the badges show as dashes. -/
def noPrice : PriceInfo := ⟨none, none⟩

/-- `typeof value === 'number' ? value : null`. -/
def Json.number? : Json → Option ℚ
  | .num n => some n
  | _ => none

/-- How one `loadPrice` ends: the fetch, the status check or
`response.json()` threw, or the body parsed. -/
inductive PriceResponse where
  | thrown
  | body (json : Json)

/-- What a `loadPrice` for `coingeckoId` writes when its instance is not
cancelled: nothing when the body has no truthy entry for the id. -/
def priceWrite (coingeckoId : String) : PriceResponse → Option PriceInfo
  | .thrown => some noPrice
  | .body json =>
      match json.member? coingeckoId with
      | some entry =>
          if entry.truthy then
            some ⟨(entry.member? "usd").bind Json.number?,
              (entry.member? "usd_24h_change").bind Json.number?⟩
          else none
      | none => none

/-- The price state: the effect's dependency at the last render, `priceInfo`,
and the ghost fields. -/
structure PriceState where
  coingeckoId : Option String
  priceInfo : PriceInfo
  epoch : Nat
  requests : List (Nat × String)
  writer : Option (Nat × String)

/-- Before the mount's effect: no id, no price, no instance. -/
def initialPrice : PriceState := ⟨none, noPrice, 0, [], none⟩

/-- What the price reacts to: a render with the pool's coin symbol (the pool
arrives, changes or goes), a tick of the current instance's interval, and a
`loadPrice` settling. -/
inductive PriceEvent where
  | render (symbol : Option String)
  | tick
  | settle (request : Nat × String) (response : PriceResponse)

namespace PriceState

/-- A render with the pool's coin symbol.  The same id runs no effect; a new
id cancels the instance and runs the effect again, which clears the price or
calls `loadPrice`. -/
def render (s : PriceState) (symbol : Option String) : PriceState :=
  if coingeckoIdOf (coinSymbol symbol) = s.coingeckoId then s
  else
    match coingeckoIdOf (coinSymbol symbol) with
    | none => { s with coingeckoId := none, epoch := s.epoch + 1, priceInfo := noPrice, writer := none }
    | some id =>
        { s with
          coingeckoId := some id, epoch := s.epoch + 1,
          requests := s.requests ++ [(s.epoch + 1, id)] }

/-- The interval of the current instance, which exists while there is an id. -/
def tick (s : PriceState) : PriceState :=
  match s.coingeckoId with
  | some id => { s with requests := s.requests ++ [(s.epoch, id)] }
  | none => s

/-- A `loadPrice` settling: only a request of the current instance writes. -/
def settle (s : PriceState) (request : Nat × String) (response : PriceResponse) : PriceState :=
  if request ∉ s.requests then s
  else if request.1 = s.epoch then
    match priceWrite request.2 response with
    | some info => { s with requests := s.requests.erase request, priceInfo := info, writer := some request }
    | none => { s with requests := s.requests.erase request }
  else { s with requests := s.requests.erase request }

end PriceState

def priceStep (s : PriceState) : PriceEvent → PriceState
  | .render symbol => s.render symbol
  | .tick => s.tick
  | .settle request response => s.settle request response

/-- The current instance's requests are for the current id, there is no
price without an id, and a price written by the current instance is for the
current id. -/
structure PriceInv (s : PriceState) : Prop where
  tags : ∀ r ∈ s.requests, r.1 ≤ s.epoch
  live : ∀ r ∈ s.requests, r.1 = s.epoch → s.coingeckoId = some r.2
  cleared : s.coingeckoId = none → s.priceInfo = noPrice
  writer : ∀ w, s.writer = some w → w.1 ≤ s.epoch ∧ (w.1 = s.epoch → s.coingeckoId = some w.2)

namespace PriceInv

theorem initial : PriceInv initialPrice where
  tags _ hr := nomatch hr
  live _ hr := nomatch hr
  cleared _ := rfl
  writer _ hw := nomatch hw

theorem render {s : PriceState} (h : PriceInv s) (symbol : Option String) :
    PriceInv (s.render symbol) := by
  have hstale : ∀ n, n ≤ s.epoch → n ≠ s.epoch + 1 := fun _ hn => Nat.ne_of_lt (Nat.lt_succ_of_le hn)
  unfold PriceState.render
  split_ifs with hsame
  · exact h
  · split
    · exact ⟨fun r hr => Nat.le_succ_of_le (h.tags r hr),
        fun r hr he => absurd he (hstale _ (h.tags r hr)), fun _ => rfl, fun _ hw => nomatch hw⟩
    · exact ⟨List.forall_mem_append.mpr ⟨fun r hr => Nat.le_succ_of_le (h.tags r hr),
          List.forall_mem_singleton.mpr le_rfl⟩,
        List.forall_mem_append.mpr ⟨fun r hr he => absurd he (hstale _ (h.tags r hr)),
          List.forall_mem_singleton.mpr fun _ => rfl⟩,
        fun hnone => (nomatch hnone),
        fun w hw => ⟨Nat.le_succ_of_le (h.writer w hw).1,
          fun he => absurd he (hstale _ (h.writer w hw).1)⟩⟩

theorem tick {s : PriceState} (h : PriceInv s) : PriceInv s.tick := by
  unfold PriceState.tick
  split
  · rename_i id hid
    exact ⟨List.forall_mem_append.mpr ⟨h.tags, List.forall_mem_singleton.mpr le_rfl⟩,
      List.forall_mem_append.mpr ⟨h.live, List.forall_mem_singleton.mpr fun _ => hid⟩,
      h.cleared, h.writer⟩
  · exact h

theorem settle {s : PriceState} (h : PriceInv s) (request : Nat × String)
    (response : PriceResponse) : PriceInv (s.settle request response) := by
  unfold PriceState.settle
  by_cases hmem : request ∈ s.requests
  · rw [if_neg (not_not.mpr hmem)]
    have herase : ∀ r ∈ s.requests.erase request, r ∈ s.requests := fun r => List.mem_of_mem_erase
    have hkeep : PriceInv { s with requests := s.requests.erase request } :=
      ⟨fun r hr => h.tags r (herase r hr), fun r hr he => h.live r (herase r hr) he, h.cleared,
        h.writer⟩
    split_ifs with hlive
    · have hid := h.live request hmem hlive
      split
      · refine ⟨hkeep.tags, hkeep.live, fun hnone => ?_, fun w hw => ?_⟩
        · rw [hid] at hnone
          cases hnone
        · cases hw
          exact ⟨hlive.le, fun _ => hid⟩
      · exact hkeep
    · exact hkeep
  · rw [if_pos hmem]
    exact h

theorem step {s : PriceState} (h : PriceInv s) : ∀ event, PriceInv (priceStep s event)
  | .render symbol => h.render symbol
  | .tick => h.tick
  | .settle request response => h.settle request response

theorem run (events : List PriceEvent) : PriceInv (events.foldl priceStep initialPrice) := by
  suffices ∀ s, PriceInv s → PriceInv (events.foldl priceStep s) from this _ initial
  induction events with
  | nil => exact fun _ h => h
  | cons event events ih => exact fun s h => ih _ (h.step event)

end PriceInv

/-- Under every order of renders, interval ticks and settling requests,
whenever the pool's coin has no CoinGecko id (no pool yet, or a coin
`COIN_META` does not list) both badges show a dash, a late response of a
cancelled instance included; and a price the current instance wrote is the
price of the current coin. -/
theorem price_cleared_without_coin (events : List PriceEvent) :
    let s := events.foldl priceStep initialPrice
    (s.coingeckoId = none → s.priceInfo = noPrice) ∧
      ∀ request, s.writer = some request → request.1 = s.epoch → s.coingeckoId = some request.2 :=
  ⟨(PriceInv.run events).cleared, fun w hw => ((PriceInv.run events).writer w hw).2⟩

end PoolDashboard
