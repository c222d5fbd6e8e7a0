import Zangpu.Foundation.Runs

/-!
Replay protection of signed requests.

Owns: the bounds that `Settings` puts on the timestamp tolerance and the nonce
lifetime; the timestamp check of `ExternalAuthenticator.authenticate`; the nonce
claim of `NonceGuard` on keys that expire; and the exact settings under which no
request passes both checks twice.

Does not own: the signature itself and the state of the credential.

Instants are whole milliseconds. The timestamp check reads the whole seconds of
the same clock that expires the keys.
-/

set_option autoImplicit false

namespace Zangpu.Security

open Zangpu.Foundation

/-! ## Settings -/

/-- The two settings as `Settings`, `ExternalAuthenticator` and `NonceGuard`
accept them together. -/
structure ReplaySettings where
  timestampToleranceSeconds : Nat
  nonceTtlSeconds : Nat
  toleranceBounds : 30 ≤ timestampToleranceSeconds ∧ timestampToleranceSeconds ≤ 900
  ttlBounds : 60 ≤ nonceTtlSeconds ∧ nonceTtlSeconds ≤ 86400
  ttlCoversTolerance : ¬nonceTtlSeconds < timestampToleranceSeconds * 2

/-- The default settings. -/
def ReplaySettings.default : ReplaySettings where
  timestampToleranceSeconds := 300
  nonceTtlSeconds := 600
  toleranceBounds := by decide
  ttlBounds := by decide
  ttlCoversTolerance := by decide

/-! ## Requests -/

/-- What a signed request is recognised by. -/
structure SignedRequest where
  apiClientId : String
  credentialId : String
  nonce : String
  timestamp : Nat
  deriving DecidableEq, Repr

/-- `abs(current_time - int(headers.timestamp)) > tolerance` raises; the current
time is `int(time())`. -/
def timestampAccepted (settings : ReplaySettings) (instant timestamp : Nat) : Bool :=
  decide (((instant / 1000 : Nat) - (timestamp : Int)).natAbs ≤ settings.timestampToleranceSeconds)

/-! ## Nonces -/

/-- The nonce keys with the instants at which Redis removes them. -/
abbrev NonceKeys := String → Option Nat

/-- `SET key 1 EX ttl NX`: whether the key was set. -/
def setIfAbsent (keys : NonceKeys) (instant ttlSeconds : Nat) (key : String) : Bool × NonceKeys :=
  match keys key with
  | some deadline =>
      if instant < deadline then (false, keys)
      else (true, Function.update keys key (some (instant + 1000 * ttlSeconds)))
  | none => (true, Function.update keys key (some (instant + 1000 * ttlSeconds)))

section Claims

variable (identifier : String → String) (settings : ReplaySettings)

/-- `build_redis_key("nonce", api_client_id, credential_id, nonce)`, over the
digest that `redis_identifier` takes of each part. -/
def nonceKey (request : SignedRequest) : String :=
  "zangpu:v1:nonce:" ++ ":".intercalate
    [identifier request.apiClientId, identifier request.credentialId, identifier request.nonce]

/-- The keys and the requests that passed both checks so far, newest first. -/
structure Admissions where
  now : Nat
  keys : NonceKeys
  passed : List SignedRequest

def Admissions.start : Admissions := ⟨0, fun _ => none, []⟩

/-- A request at an instant: the timestamp check and then the nonce claim. -/
def arrive (admissions : Admissions) (arrival : Nat × SignedRequest) : Option Admissions :=
  let (instant, request) := arrival
  if instant < admissions.now then none
  else if timestampAccepted settings instant request.timestamp then
    let (claimed, keys) := setIfAbsent admissions.keys instant settings.nonceTtlSeconds
      (nonceKey identifier request)
    some ⟨instant, keys, if claimed then request :: admissions.passed else admissions.passed⟩
  else some { admissions with now := instant }

/-- No request passes twice, whatever arrives and when. -/
def RejectsReplays : Prop :=
  ∀ admissions, Reached (arrive identifier settings) (fun _ _ => True) .start admissions →
    admissions.passed.Nodup

variable {identifier settings}

/-! ## Steps -/

theorem timestampAccepted_iff {instant timestamp : Nat} :
    timestampAccepted settings instant timestamp = true ↔
      1000 * timestamp ≤ instant + 1000 * settings.timestampToleranceSeconds ∧
        instant < 1000 * (timestamp + settings.timestampToleranceSeconds + 1) := by
  unfold timestampAccepted
  rw [decide_eq_true_iff]
  omega

/-- What a claim does: nothing while the key lives, a new deadline otherwise. -/
theorem setIfAbsent_cases (keys : NonceKeys) (instant ttlSeconds : Nat) (key : String) :
    (∃ deadline, keys key = some deadline ∧ instant < deadline ∧
        setIfAbsent keys instant ttlSeconds key = (false, keys)) ∨
      ((∀ deadline, keys key = some deadline → deadline ≤ instant) ∧
        setIfAbsent keys instant ttlSeconds key =
          (true, Function.update keys key (some (instant + 1000 * ttlSeconds)))) := by
  unfold setIfAbsent
  cases stored : keys key with
  | none => exact Or.inr ⟨fun _ impossible => (by cases impossible), rfl⟩
  | some deadline =>
      dsimp only
      by_cases lives : instant < deadline
      · rw [if_pos lives]
        exact Or.inl ⟨deadline, rfl, lives, rfl⟩
      · rw [if_neg lives]
        refine Or.inr ⟨fun other same => ?_, rfl⟩
        cases same
        omega

/-- Every request that passed has a key that outlives its window, and none passed
twice. -/
structure Recorded (identifier : String → String) (settings : ReplaySettings)
    (admissions : Admissions) : Prop where
  guarded : ∀ request ∈ admissions.passed, ∃ deadline,
    admissions.keys (nonceKey identifier request) = some deadline ∧
      1000 * (request.timestamp + settings.nonceTtlSeconds) ≤
        deadline + 1000 * settings.timestampToleranceSeconds
  distinct : admissions.passed.Nodup

theorem Recorded.arrive (longer : settings.timestampToleranceSeconds * 2 < settings.nonceTtlSeconds)
    {before after : Admissions} {arrival : Nat × SignedRequest}
    (recorded : Recorded identifier settings before)
    (arrives : Security.arrive identifier settings before arrival = some after) :
    Recorded identifier settings after := by
  obtain ⟨instant, request⟩ := arrival
  simp only [Security.arrive] at arrives
  split at arrives
  · cases arrives
  · split at arrives
    · rename_i accepted
      obtain ⟨opens, closes⟩ := timestampAccepted_iff.mp accepted
      rcases setIfAbsent_cases before.keys instant settings.nonceTtlSeconds
        (nonceKey identifier request) with ⟨deadline, stored, lives, claimed⟩ | ⟨expired, claimed⟩
      · rw [claimed] at arrives
        cases arrives
        exact ⟨recorded.guarded, recorded.distinct⟩
      · rw [claimed] at arrives
        cases arrives
        constructor
        · intro other member
          by_cases same : nonceKey identifier other = nonceKey identifier request
          · dsimp only
            rw [same, Function.update_self]
            refine ⟨_, rfl, ?_⟩
            rcases List.mem_cons.mp member with rfl | earlier
            · omega
            · obtain ⟨deadline, stored, outlives⟩ := recorded.guarded other earlier
              have passed := expired deadline (same ▸ stored)
              omega
          · dsimp only
            rw [Function.update_of_ne same]
            rcases List.mem_cons.mp member with rfl | earlier
            · exact (same rfl).elim
            · exact recorded.guarded other earlier
        · refine List.nodup_cons.mpr ⟨fun member => ?_, recorded.distinct⟩
          -- Its key is gone, so its window has closed.
          obtain ⟨deadline, stored, outlives⟩ := recorded.guarded request member
          have passed := expired deadline stored
          omega
    · cases arrives
      exact ⟨recorded.guarded, recorded.distinct⟩

/-! ## Replays -/

/-- Two arrivals of one request, when its window opens and when its key is gone. -/
def replayedRequest (settings : ReplaySettings) : SignedRequest where
  apiClientId := "client"
  credentialId := "credential"
  nonce := "nonce"
  timestamp := settings.timestampToleranceSeconds

variable (identifier) in
theorem replay_passes (equal : settings.nonceTtlSeconds = settings.timestampToleranceSeconds * 2) :
    ∃ admissions, Reached (arrive identifier settings) (fun _ _ => True) .start admissions ∧
      admissions.passed = [replayedRequest settings, replayedRequest settings] := by
  have opening : timestampAccepted settings 0 settings.timestampToleranceSeconds = true := by
    rw [timestampAccepted_iff]
    omega
  have closing : timestampAccepted settings (1000 * settings.nonceTtlSeconds)
      settings.timestampToleranceSeconds = true := by
    rw [timestampAccepted_iff]
    omega
  have first : arrive identifier settings .start (0, replayedRequest settings) =
      some ⟨0, Function.update (fun _ => none) (nonceKey identifier (replayedRequest settings))
        (some (1000 * settings.nonceTtlSeconds)), [replayedRequest settings]⟩ := by
    simp [arrive, replayedRequest, opening, setIfAbsent, Admissions.start]
  have again : ∃ keys, arrive identifier settings
      ⟨0, Function.update (fun _ => none) (nonceKey identifier (replayedRequest settings))
        (some (1000 * settings.nonceTtlSeconds)), [replayedRequest settings]⟩
      (1000 * settings.nonceTtlSeconds, replayedRequest settings) =
      some ⟨1000 * settings.nonceTtlSeconds, keys,
        [replayedRequest settings, replayedRequest settings]⟩ := by
    simp [arrive, replayedRequest, closing, setIfAbsent]
  obtain ⟨keys, again⟩ := again
  exact ⟨_, .step (.step .start trivial first) trivial again, rfl⟩

theorem not_rejectsReplays
    (equal : settings.nonceTtlSeconds = settings.timestampToleranceSeconds * 2) :
    ¬RejectsReplays identifier settings := by
  intro rejects
  obtain ⟨admissions, run, passed⟩ := replay_passes identifier equal
  have distinct := rejects admissions run
  rw [passed] at distinct
  exact (List.nodup_cons.mp distinct).1 (List.mem_singleton_self _)

/-- **Signed requests cannot be replayed exactly** when the nonce outlives twice the
tolerance. -/
theorem rejects_replays_iff (identifier : String → String) (settings : ReplaySettings) :
    RejectsReplays identifier settings ↔
      settings.timestampToleranceSeconds * 2 < settings.nonceTtlSeconds := by
  constructor
  · intro rejects
    by_contra short
    have covers := settings.ttlCoversTolerance
    exact not_rejectsReplays (by omega) rejects
  · intro longer admissions run
    have recorded : Recorded identifier settings admissions :=
      Reached.invariant ⟨fun _ member => absurd member List.not_mem_nil, List.nodup_nil⟩
        (fun _ _ _ recorded _ arrives => recorded.arrive longer arrives) run
    exact recorded.distinct

/-- With the default settings a request passes twice. -/
theorem default_settings_admit_replay : ¬RejectsReplays id .default :=
  not_rejectsReplays rfl

end Claims

end Zangpu.Security
