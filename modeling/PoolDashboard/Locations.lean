import PoolDashboard.LatencyRoute
import Mathlib.Data.List.Nodup

/-
The locations `StratumLatencyPanel` shows (`derivedLocations`).  Locations
given to it are shown as they are.  The home page gives none, and the panel
generates them: one per pool and port key, in pool order and in the order of
`Object.keys`, skipping a key whose `Number` is falsy and stopping at six;
with none generated it shows one fallback location.  The connect page gives
the active pool's ports (`latencyLocations`).  A location's id,
`${pool.id}-${port}`, keys its entry in the latency map.  `Number` of a key is
JavaScript's `StringToNumber`, left abstract as in the latency route.
-/

namespace PoolDashboard

/-- The part of a `Pool` the generated locations read: its `id` and
`Object.keys(pool.ports ?? {})`, distinct as an object's keys are. -/
structure PanelPool where
  id : String
  portKeys : List String
  portKeys_nodup : portKeys.Nodup

/-- A location's id, host and port, which the latency map and `testLatency`
read; its label and notes are text only. -/
structure StratumLocation where
  id : String
  host : String
  port : JsNumber
deriving DecidableEq

section

variable (stringNumber : String → JsNumber)

/-- `!Number(port)`: `NaN` and zero are falsy. -/
def portFalsy (key : String) : Bool :=
  match stringNumber key with
  | .nan => true
  | .finite q => q = 0
  | _ => false

/-- The location generated for a pool's port key. -/
def portLocation (defaultHost poolId key : String) : StratumLocation :=
  ⟨poolId ++ "-" ++ key, defaultHost, stringNumber key⟩

/-- One step of `ports.forEach`: a falsy key is skipped, and nothing is pushed
once six locations are generated. -/
def pushPortLocation (defaultHost poolId : String) (generated : List StratumLocation)
    (key : String) : List StratumLocation :=
  if portFalsy stringNumber key then generated
  else if 6 ≤ generated.length then generated
  else generated ++ [portLocation stringNumber defaultHost poolId key]

/-- `pools.forEach`, running each pool's `ports.forEach` on the list so far. -/
def generatedLocations (defaultHost : String) (pools : List PanelPool) : List StratumLocation :=
  pools.foldl (fun generated pool =>
    pool.portKeys.foldl (pushPortLocation stringNumber defaultHost pool.id) generated) []

/-- `{ id: 'default-5108', host: defaultHost, port: 5108, ... }`. -/
def fallbackLocation (defaultHost : String) : StratumLocation :=
  ⟨"default-5108", defaultHost, .finite 5108⟩

/-- `derivedLocations`: the given locations when there are any, else the
generated ones, else the fallback location. -/
def derivedLocations (defaultHost : String) (locations : Option (List StratumLocation))
    (pools : List PanelPool) : List StratumLocation :=
  match locations with
  | some (location :: rest) => location :: rest
  | _ =>
      let generated := generatedLocations stringNumber defaultHost pools
      if generated.length = 0 then [fallbackLocation defaultHost] else generated

/-- Given locations are shown as they are. -/
theorem derivedLocations_some (defaultHost : String) (location : StratumLocation)
    (rest : List StratumLocation) (pools : List PanelPool) :
    derivedLocations stringNumber defaultHost (some (location :: rest)) pools = location :: rest :=
  rfl

/-- Every location the pools give, in order: what the loop would generate
without its cap. -/
def candidateLocations (defaultHost : String) (pools : List PanelPool) : List StratumLocation :=
  pools.flatMap fun pool =>
    (pool.portKeys.filter fun key => !portFalsy stringNumber key).map
      (portLocation stringNumber defaultHost pool.id)

/-- A pool's `ports.forEach`, from a list of at most six, appends its
locations up to six in all. -/
theorem foldl_pushPortLocation (defaultHost poolId : String) (keys : List String) :
    ∀ generated : List StratumLocation, generated.length ≤ 6 →
      keys.foldl (pushPortLocation stringNumber defaultHost poolId) generated =
        (generated ++ (keys.filter fun key => !portFalsy stringNumber key).map
          (portLocation stringNumber defaultHost poolId)).take 6 := by
  induction keys with
  | nil => exact fun generated hlen => by simp [List.take_of_length_le hlen]
  | cons key keys ih =>
      intro generated hlen
      rw [List.foldl_cons, pushPortLocation]
      by_cases hfalsy : portFalsy stringNumber key = true
      · rw [if_pos hfalsy, ih generated hlen, List.filter_cons_of_neg (by simp [hfalsy])]
      · rw [if_neg hfalsy, List.filter_cons_of_pos (by simpa using hfalsy), List.map_cons]
        by_cases hfull : 6 ≤ generated.length
        · rw [if_pos hfull, ih generated hlen, List.take_append_of_le_length hfull,
            List.take_append_of_le_length hfull]
        · rw [if_neg hfull, ih _ (by simp only [List.length_append, List.length_singleton]; omega),
            List.append_assoc, List.singleton_append]

theorem take_append_take {α : Type} (l m : List α) (n : Nat) :
    (l.take n ++ m).take n = (l ++ m).take n := by
  rw [List.take_append_eq_append_take, List.take_append_eq_append_take, List.take_take,
    min_self, List.length_take]
  congr 2
  omega

/-- The generating loop keeps the first six locations the pools give. -/
theorem generatedLocations_eq (defaultHost : String) (pools : List PanelPool) :
    generatedLocations stringNumber defaultHost pools =
      (candidateLocations stringNumber defaultHost pools).take 6 := by
  suffices ∀ generated : List StratumLocation, generated.length ≤ 6 →
      pools.foldl (fun generated pool =>
        pool.portKeys.foldl (pushPortLocation stringNumber defaultHost pool.id) generated) generated =
        (generated ++ candidateLocations stringNumber defaultHost pools).take 6 from
    this [] (Nat.zero_le _)
  induction pools with
  | nil => exact fun generated hlen => by simp [candidateLocations, List.take_of_length_le hlen]
  | cons pool pools ih =>
      intro generated hlen
      rw [List.foldl_cons, foldl_pushPortLocation stringNumber defaultHost pool.id _ _ hlen,
        ih _ (List.length_take_le _ _), take_append_take, List.append_assoc]
      rfl

/-- With no locations given, the panel shows the first six locations the
pools give, or the fallback location when they give none. -/
theorem derivedLocations_none (defaultHost : String) (pools : List PanelPool) :
    derivedLocations stringNumber defaultHost none pools =
      if candidateLocations stringNumber defaultHost pools = [] then [fallbackLocation defaultHost]
      else (candidateLocations stringNumber defaultHost pools).take 6 := by
  simp only [derivedLocations, generatedLocations_eq, List.length_eq_zero, List.take_eq_nil_iff,
    OfNat.ofNat_ne_zero, false_or]

/-- A separator that occurs in neither tail splits a list once. -/
theorem eq_of_append_sep_eq {α : Type} {c : α} :
    ∀ {a b s t : List α}, c ∉ s → c ∉ t → a ++ c :: s = b ++ c :: t → a = b ∧ s = t
  | [], [], _, _, _, _, h => ⟨rfl, (List.cons.inj h).2⟩
  | [], _ :: b, _, t, hs, _, h => absurd ((List.cons.inj h).2 ▸ List.mem_append_right b (List.mem_cons_self c t)) hs
  | _ :: a, [], s, _, _, ht, h => absurd ((List.cons.inj h).2 ▸ List.mem_append_right a (List.mem_cons_self c s)) ht
  | _ :: _, _ :: _, _, _, hs, ht, h =>
      let ⟨hxy, hrest⟩ := List.cons.inj h
      let ⟨hab, hst⟩ := eq_of_append_sep_eq hs ht hrest
      ⟨hxy ▸ hab ▸ rfl, hst⟩

/-- Port keys without a dash give the pair of pool id and key back from a
location id. -/
theorem portLocation_id_inj {poolId poolId' key key' : String} (hkey : '-' ∉ key.data)
    (hkey' : '-' ∉ key'.data) (h : poolId ++ "-" ++ key = poolId' ++ "-" ++ key') :
    poolId = poolId' ∧ key = key' := by
  have hdata := congrArg String.data h
  simp only [String.data_append, List.append_assoc] at hdata
  obtain ⟨hid, hk⟩ := eq_of_append_sep_eq hkey hkey' hdata
  exact ⟨String.ext hid, String.ext hk⟩

theorem candidateLocations_ids_nodup (defaultHost : String) (pools : List PanelPool)
    (hids : (pools.map (·.id)).Nodup) (hdash : ∀ pool ∈ pools, ∀ key ∈ pool.portKeys, '-' ∉ key.data) :
    ((candidateLocations stringNumber defaultHost pools).map (·.id)).Nodup := by
  rw [candidateLocations, List.map_flatMap, List.nodup_flatMap]
  refine ⟨fun pool hpool => ?_, (List.pairwise_map.mp hids).imp_of_mem fun {a b} ha hb hne => ?_⟩
  · rw [List.map_map]
    refine (pool.portKeys_nodup.filter _).map_on fun key hkey key' hkey' heq => ?_
    exact (portLocation_id_inj (hdash pool hpool key (List.mem_of_mem_filter hkey))
      (hdash pool hpool key' (List.mem_of_mem_filter hkey')) heq).2
  · intro id hida hidb
    simp only [List.map_map, List.mem_map, Function.comp_apply] at hida hidb
    obtain ⟨key, hkey, rfl⟩ := hida
    obtain ⟨key', hkey', heq⟩ := hidb
    exact hne (portLocation_id_inj (hdash b hb key' (List.mem_of_mem_filter hkey'))
      (hdash a ha key (List.mem_of_mem_filter hkey)) heq).1.symm

end

/-- The connect page's `latencyLocations` for its active pool: one location per
port of the sorted port entries, with id `${activePool?.id}-${port}` and port
`Number(port)`, which for a port key read as a natural number is that number. -/
def latencyLocations (stratumHost poolId : String) (ports : List Nat) : List StratumLocation :=
  ports.map fun port => ⟨poolId ++ "-" ++ toString port, stratumHost, .finite port⟩

/-- The home page's panel, given no locations, shows the first six locations
its pools give, in pool order and key order, or the fallback location when they
give none: always one to six locations, so the ports after the sixth are
never shown or measured. -/
theorem home_locations_first_six (stringNumber : String → JsNumber) (defaultHost : String)
    (pools : List PanelPool) :
    let shown := derivedLocations stringNumber defaultHost none pools
    shown = (if candidateLocations stringNumber defaultHost pools = [] then [fallbackLocation defaultHost]
      else (candidateLocations stringNumber defaultHost pools).take 6) ∧
      1 ≤ shown.length ∧ shown.length ≤ 6 := by
  intro shown
  have hshown : shown = _ := derivedLocations_none stringNumber defaultHost pools
  refine ⟨hshown, ?_⟩
  rw [hshown]
  split_ifs with hnil
  · exact ⟨le_rfl, by simp⟩
  · rw [List.length_take]
    exact ⟨le_min (by decide) (List.length_pos.mpr hnil), min_le_left _ _⟩

/-- On the home page the panel's locations have distinct ids, so each card
has its own entry in the latency map, whenever the pools have distinct ids and
no port key holds a dash. -/
theorem home_location_ids_distinct (stringNumber : String → JsNumber) (defaultHost : String)
    (pools : List PanelPool) (hids : (pools.map (·.id)).Nodup)
    (hdash : ∀ pool ∈ pools, ∀ key ∈ pool.portKeys, '-' ∉ key.data) :
    ((derivedLocations stringNumber defaultHost none pools).map (·.id)).Nodup := by
  rw [derivedLocations_none]
  split_ifs
  · exact List.nodup_singleton _
  · rw [List.map_take]
    exact (candidateLocations_ids_nodup stringNumber defaultHost pools hids hdash).sublist
      (List.take_sublist _ _)

theorem home_location_ids_distinct_two_pools :
    let pools : List PanelPool :=
      [⟨"btc", ["3333", "4444"], by decide⟩, ⟨"bch", ["3333"], by decide⟩]
    (pools.map (·.id)).Nodup ∧ (∀ pool ∈ pools, ∀ key ∈ pool.portKeys, '-' ∉ key.data) ∧
      ((derivedLocations (fun key => (key.toNat?.map fun n => JsNumber.finite n).getD .nan)
        "192.168.2.100" none pools).map (·.id)).Nodup := by
  intro pools
  have hids : (pools.map (·.id)).Nodup := by decide
  have hdash : ∀ pool ∈ pools, ∀ key ∈ pool.portKeys, '-' ∉ key.data := by decide
  exact ⟨hids, hdash, home_location_ids_distinct _ "192.168.2.100" pools hids hdash⟩

end PoolDashboard
