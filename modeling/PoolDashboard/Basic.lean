import Mathlib.Data.List.Sort
import Mathlib.Data.Rat.Defs
import Mathlib.Data.Finset.Basic

/-
The records the dashboard's connection logic works with, as
`types/miningcore.ts`, the pool-detail page and `StratumLatencyPanel` declare
them.  JavaScript keeps `undefined` apart from `null` and the page tests that
difference once, so the row fields the placeholder row leaves unset are
`Nullable`.  Strings are compared by value, as `===` and `Map` keys do.
-/

namespace PoolDashboard

/-- A JavaScript field that is missing, `null`, or holds a value. -/
inductive Nullable (α : Type) where
  | undefined
  | null
  | value (a : α)
deriving Repr, DecidableEq

/-- The `??` reading of a field: `undefined` and `null` both fall through. -/
def Nullable.toOption {α : Type} : Nullable α → Option α
  | .value a => some a
  | _ => none

/-- `field ?? null` for an optional API field. -/
def Nullable.ofOption {α : Type} : Option α → Nullable α
  | some a => .value a
  | none => .null

@[simp] theorem Nullable.toOption_ofOption {α : Type} (o : Option α) :
    (Nullable.ofOption o).toOption = o := by
  cases o <;> rfl

/-- The part of `VarDiffConfig` that the connection logic reads. -/
structure VarDiffConfig where
  minDiff : Option ℚ
deriving Repr, DecidableEq

/-- The part of `PortConfig` that the connection logic reads. -/
structure PortConfig where
  name : Option String
  difficulty : Option ℚ
  varDiff : Option VarDiffConfig
deriving Repr, DecidableEq

/-- One stratum endpoint of the pool-detail page (`ConnectionRow`). -/
structure ConnectionRow where
  id : String
  host : String
  port : Nat
  profileName : Option String
  difficulty : Nullable ℚ
  varDiffMin : Nullable ℚ
deriving Repr, DecidableEq

instance : Nonempty ConnectionRow :=
  ⟨⟨"", "", 0, none, .undefined, .undefined⟩⟩

/-- The endpoints sharing one host (`ConnectionGroup`). -/
structure ConnectionGroup where
  id : String
  host : String
  endpoints : List ConnectionRow
deriving Repr, DecidableEq

inductive LatencyStatus where
  | idle
  | testing
  | success
  | error
deriving Repr, DecidableEq

/-- `LatencyState`, shared by the page and `StratumLatencyPanel`. -/
structure LatencyState where
  latency : Option ℤ
  status : LatencyStatus
  error : Option String
deriving Repr, DecidableEq

/-- `Record<string, LatencyState>`: a key is present exactly when it maps to
`some`. -/
abbrev LatencyMap := String → Option LatencyState

/-- `{ ...prev, [key]: entry }`. -/
def LatencyMap.set (m : LatencyMap) (key : String) (entry : LatencyState) :
    LatencyMap :=
  fun k => if k = key then some entry else m k

@[simp] theorem LatencyMap.set_self (m : LatencyMap) (key : String)
    (entry : LatencyState) : m.set key entry key = some entry := by
  simp [LatencyMap.set]

@[simp] theorem LatencyMap.set_of_ne (m : LatencyMap) {key k : String}
    (entry : LatencyState) (hk : k ≠ key) : m.set key entry k = m k := by
  simp [LatencyMap.set, hk]

/-- `{ latency: null, status: 'testing' }`, written when a probe starts. -/
def testingState : LatencyState :=
  ⟨none, .testing, none⟩

/-- How one `fetch('/api/latency')` settles, as `testLatency` reads it: an HTTP
answer with its `ok` flag and body fields, or a thrown fetch or parse. -/
inductive ProbeOutcome where
  | response (ok : Bool) (latency : Nullable ℚ) (error : Option String)
  | networkError
deriving Repr, DecidableEq

/-- `Math.round`: the nearest integer, halves rounded up. -/
def jsRound (q : ℚ) : ℤ :=
  (q + 1 / 2).floor

/-- The entry `testLatency` writes once its fetch settles; the page and
`StratumLatencyPanel` write the same three shapes. -/
def probeResult : ProbeOutcome → LatencyState
  | .response ok latency error =>
      if !ok || latency = .null then ⟨none, .error, some (error.getD "unreachable")⟩
      else ⟨some (jsRound (latency.toOption.getD 0)), .success, none⟩
  | .networkError => ⟨none, .error, some "network-error"⟩

/-- The ASCII characters of `value.toLowerCase()` in place, every other
character as `none`.  Unicode's lower-case mapping sends `A`-`Z` to `a`-`z`,
U+0130 to `i` followed by U+0307 and U+212A (the Kelvin sign) to `k`, keeps
every other ASCII character, and sends every other character to one character
outside ASCII (the final-sigma rule picks between two of those).  So every test
the dashboard makes of a lowered name, which looks only for ASCII text, reads
no more than this. -/
def lowerAscii (value : String) : List (Option Char) :=
  value.toList.flatMap fun c =>
    if c.isUpper then [some c.toLower]
    else if c.toNat < 128 then [some c]
    else if c.toNat = 0x130 then [some 'i', none]
    else if c.toNat = 0x212A then [some 'k']
    else [none]

/-- `haystack.includes(needle)`. -/
def includes (haystack : List Char) (needle : String) : Bool :=
  haystack.tails.any (needle.toList.isPrefixOf ·)

/-- `value.toLowerCase().includes(needle)` for an ASCII needle. -/
def lowerIncludes (value needle : String) : Bool :=
  (lowerAscii value).tails.any ((needle.toList.map some).isPrefixOf ·)

/-- `value.toLowerCase().replace(/[^a-z0-9]/g, '')`. -/
def condensedLower (value : String) : List Char :=
  (lowerAscii value).filterMap fun c => c.filter fun c => c.isLower || c.isDigit

/-- `key ? map.get(key) ?? null : null`: the empty string is falsy. -/
def truthyGet {α : Type} (m : String → Option α) : Option String → Option α
  | some k => if k = "" then none else m k
  | none => none

theorem truthyGet_eq_some {α : Type} {m : String → Option α} {key : Option String}
    {a : α} (h : truthyGet m key = some a) : ∃ k, key = some k ∧ m k = some a := by
  match key, h with
  | some k, h =>
      by_cases hk : k = ""
      · simp [truthyGet, hk] at h
      · exact ⟨k, rfl, by simpa [truthyGet, hk] using h⟩

end PoolDashboard
