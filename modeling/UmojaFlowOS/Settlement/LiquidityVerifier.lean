import UmojaFlowOS.Relational.Sessions
import UmojaFlowOS.Settlement.Tables

/-!
# The liquidity verifier

`PostgresRedisLiquidityVerifier.Verify`
(`internal/settlement/postgres_redis_liquidity.go`) as a program over its Redis
and PostgreSQL calls, and the state behind these: the locks in Redis, and the
table `liquidity_treasury_evidence` under its row-level security policy
(`database/postgresql/0061_corridor_liquidity_policy.sql:30-77`). Metrics and
spans are left out, and so is the foreign key to `corridor_routes`.
-/

namespace UmojaFlowOS.Settlement.Liquidity

open Go Crypto Interaction Relational

/-- `LiquidityEvidence` (`corridor_liquidity.go:52-65`); the fields default to
Go's zero values. -/
structure LiquidityEvidence where
  tenantID : String := ""
  routeID : String := ""
  provider : String := ""
  currency : String := ""
  availableMinor : Int64 := 0
  reservedMinor : Int64 := 0
  requiredBufferMinor : Int64 := 0
  observedAt : Time := 0
  expiresAt : Time := 0
  evidenceID : String := ""
  source : String := ""
  evidenceDigest : String := ""
  deriving DecidableEq

/-- `LiquidityDecision` (`corridor_liquidity.go:67-72`) with the fields only the
verifier writes. -/
structure Verdict where
  allowed : Bool := false
  evidence : LiquidityEvidence := {}
  reason : String
  checkedAt : Time

/-- What the coordinator reads of a verdict. -/
def Verdict.decision (verdict : Verdict) : LiquidityDecision := ⟨verdict.allowed, verdict.reason⟩

/-- `ErrLiquidityInsufficient` and `ErrTreasuryStale` (`corridor_liquidity.go:20-21`). -/
def liquidityInsufficient : GoError :=
  .new "available liquidity is below the required settlement buffer"

def treasuryStale : GoError := .new "treasury evidence is stale"

/-- `verifyLiquidityEvidence` (lines 269-283). The sums
are those of `int64`. -/
def verifyLiquidityEvidence (intent : Intent) (route : RouteDecision) (e : LiquidityEvidence)
    (now : Time) : Verdict × Option GoError :=
  if e.tenantID ≠ intent.tenantID ∨ e.routeID ≠ route.route.id ∨ e.provider ≠ route.provider ∨
      e.currency ≠ route.route.sourceCurrency ∨ trimSpace e.evidenceID = "" ∨
      e.evidenceDigest.utf8ByteSize ≠ 64 then
    ({ evidence := e, checkedAt := now, reason := "liquidity evidence identity mismatch" },
      some .liquidityUnavailable)
  else if e.observedAt = 0 ∨ e.expiresAt = 0 ∨ now < e.observedAt ∨ ¬ now < e.expiresAt then
    ({ evidence := e, checkedAt := now, reason := "liquidity evidence is stale or invalid" },
      some treasuryStale)
  else if e.availableMinor < 0 ∨ e.reservedMinor < 0 ∨ e.requiredBufferMinor < 0 ∨
      e.availableMinor < e.reservedMinor then
    ({ evidence := e, checkedAt := now, reason := "liquidity evidence is contradictory" },
      some .liquidityUnavailable)
  else if e.availableMinor - e.reservedMinor < intent.amountMinor + e.requiredBufferMinor then
    ({ evidence := e, checkedAt := now, reason := "liquidity buffer is insufficient" },
      some liquidityInsufficient)
  else
    ({ allowed := true, evidence := e, checkedAt := now
       reason := "fresh transactional liquidity verified" }, none)

/-- `hashLiquidityKey` (lines 291-298). -/
def hashLiquidityKey (parts : List String) : String :=
  hexEncode (sha256 (parts.flatMap fun part => 0 :: bytes part))

def keyParts (tenant : String) (route : RouteDecision) : List String :=
  [tenant, route.route.id, route.provider, route.route.sourceCurrency,
    route.route.destinationCurrency, route.route.direction.text, route.route.asset, route.rail]

/-- `liquidityLockKey` (lines 285-287). -/
def liquidityLockKey (tenant : String) (route : RouteDecision) : String :=
  "umoja:liquidity:v1:lock:" ++ hashLiquidityKey (keyParts tenant route)

/-- `liquidityCacheKey` (lines 288-290). -/
def liquidityCacheKey (tenant : String) (route : RouteDecision) : String :=
  "umoja:liquidity:v1:evidence:" ++ hashLiquidityKey (keyParts tenant route)

/-! ## The program -/

inductive VerifierCall where
  | now
  | newToken
  | setNX (key token : String) (ttl : Int)
  | wait (delay : Int)
  | release (key token : String)
  | beginTx
  | selectEvidence (tenantID routeID provider currency : String)
  | commit
  | rollback
  | cacheEvidence (key : String) (evidence : LiquidityEvidence) (ttl : Int)

@[reducible] def VerifierCall.Answer : VerifierCall → Type
  | now => Time
  | newToken => Except GoError String
  | setNX _ _ _ => Except GoError Bool
  | wait _ => Option GoError
  | release _ _ => Option GoError
  | beginTx => Option GoError
  | selectEvidence _ _ _ _ => Except GoError LiquidityEvidence
  | commit => Option GoError
  | rollback => Unit
  | cacheEvidence _ _ _ => Unit

@[reducible] def verifier : Interface where
  Call := VerifierCall
  Answer := VerifierCall.Answer

abbrev Verifier (α : Type) := Program verifier α

def ask (call : VerifierCall) : Verifier call.Answer := Program.ask (P := verifier) call

/-- `PostgresRedisLiquidityVerifier` (lines 143-152): which
of its dependencies are non-nil, and its settings. -/
structure PostgresRedisLiquidityVerifier where
  db : Bool := true
  redis : Bool := true
  lockTTL : Int := 0
  lockAttempts : Int := 0
  lockRetryDelay : Int := 0
  cacheTTL : Int := 0
  requireRedis : Bool := true

/-- A setting, or its default where it is not positive. -/
def orDefault (value default : Int) : Int := if value ≤ 0 then default else value

/-- The loop of `acquireLock` (lines 324-343). -/
def tryLock (key token : String) (ttl delay : Int) :
    Nat → Verifier (Except GoError (Option (String × String)))
  | 0 => return .error .liquidityUnavailable
  | attempts + 1 => do
    match ← ask (.setNX key token ttl) with
    | .error err => return .error err
    | .ok true => return .ok (some (key, token))
    | .ok false =>
      if let some err ← ask (.wait delay) then
        return .error err
      tryLock key token ttl delay attempts

/-- `acquireLock` (lines 300-345); the key and token are
what the returned function releases. -/
def acquireLock (v : PostgresRedisLiquidityVerifier) (key : String) :
    Verifier (Except GoError (Option (String × String))) := do
  if ¬ v.redis then
    if v.requireRedis then
      return .error .liquidityUnavailable
    return .ok none
  match ← ask .newToken with
  | .error err => return .error err
  | .ok token =>
    tryLock key token (orDefault v.lockTTL 5000000000) (orDefault v.lockRetryDelay 20000000)
      (orDefault v.lockAttempts 3).toNat

section
variable (v : PostgresRedisLiquidityVerifier) (intent : Intent) (route : RouteDecision) (now : Time)

/-- `Verify` from the query on (lines 208-237). -/
def verifyTx : Verifier (Verdict × Option GoError) := do
  match ← ask (.selectEvidence intent.tenantID route.route.id route.provider
    route.route.sourceCurrency) with
  | .error err =>
    return ({ checkedAt := now, reason := "fresh liquidity evidence not found" },
      some (if err = .noRows then .liquidityUnavailable else err))
  | .ok evidence =>
    if (← ask .commit).isSome then
      return ({ evidence := evidence, checkedAt := now
                reason := "liquidity transaction commit failed" }, some .liquidityUnavailable)
    let (verdict, err) := verifyLiquidityEvidence intent route evidence now
    if err.isSome then
      return (verdict, err)
    if v.redis then
      ask (.cacheEvidence (liquidityCacheKey intent.tenantID route) evidence
        (orDefault v.cacheTTL 60000000000))
    return (verdict, none)

/-- `Verify` under the admission lock (lines 200-237). -/
def verifyLocked : Verifier (Verdict × Option GoError) := do
  if (← ask .beginTx).isSome then
    return ({ checkedAt := now, reason := "liquidity transaction unavailable" },
      some .liquidityUnavailable)
  let result ← verifyTx v intent route now
  ask .rollback
  return result

def unlock : Option (String × String) → Verifier Unit
  | none => return ()
  | some (key, token) => do
    let _ ← ask (.release key token)
    return ()

end

/-- The fields `Verify` requires (line 186). -/
def incomplete (intent : Intent) (route : RouteDecision) : Prop :=
  trimSpace intent.tenantID = "" ∨ trimSpace route.route.id = "" ∨ trimSpace route.provider = "" ∨
    trimSpace route.route.sourceCurrency = ""

instance (intent : Intent) (route : RouteDecision) : Decidable (incomplete intent route) :=
  inferInstanceAs (Decidable (_ ∨ _))

/-- `Verify` (lines 154-237). -/
def verify (v : PostgresRedisLiquidityVerifier) (intent : Intent) (route : RouteDecision) :
    Verifier (Verdict × Option GoError) := do
  let now ← ask .now
  if ¬ v.db then
    return ({ checkedAt := now, reason := "postgres liquidity store is unavailable" },
      some .liquidityUnavailable)
  if v.requireRedis ∧ ¬ v.redis then
    return ({ checkedAt := now, reason := "redis admission lock is unavailable" },
      some .liquidityUnavailable)
  if incomplete intent route then
    return ({ checkedAt := now, reason := "liquidity identity is incomplete" },
      some .liquidityUnavailable)
  match ← acquireLock v (liquidityLockKey intent.tenantID route) with
  | .error _ =>
    return ({ checkedAt := now, reason := "liquidity admission lock unavailable" },
      some .liquidityUnavailable)
  | .ok held =>
    let result ← verifyLocked v intent route now
    unlock held
    return result

/-! ## The table and the locks -/

/-- The checks of `liquidity_treasury_evidence` (`0061:30-45`). -/
def LiquidityEvidence.ok (e : LiquidityEvidence) : Bool :=
  (e.currency.toList.length = 3 && e.currency.toList.all fun c => 'A' ≤ c && c ≤ 'Z') &&
    0 ≤ e.availableMinor && 0 ≤ e.reservedMinor && 0 ≤ e.requiredBufferMinor &&
    e.reservedMinor ≤ e.availableMinor && e.observedAt < e.expiresAt &&
    validDigest e.evidenceDigest &&
    [e.evidenceID, e.tenantID, e.routeID, e.provider, e.source].all textOk

structure EvidenceRow where
  evidence : LiquidityEvidence
  ok : evidence.ok = true

/-- A text without its trailing blanks: `char(n)` values are compared so. -/
def blankTrimmed (text : String) : List Char := text.toList.reverse.dropWhile (· = ' ')

/-- The `WHERE` of `liquidityEvidenceSQL` (lines 54-58). -/
def LiquidityEvidence.matching (tenantID routeID provider currency : String) (now : Time)
    (e : LiquidityEvidence) : Bool :=
  e.tenantID = tenantID && e.routeID = routeID && e.provider = provider &&
    blankTrimmed e.currency = blankTrimmed currency && now < e.expiresAt

/-- A transaction of the application role: the value of `umoja.tenant_id` on its
connection, its `now()`, and the row it has locked. -/
structure VerifierSession where
  setting : Option String
  now : Time
  locked : Option String := none

/-- The policy `liquidity_evidence_tenant_isolation` (`0061:75-77`): comparing with
a setting that is NULL admits no row. -/
def VerifierSession.admits (session : VerifierSession) (e : LiquidityEvidence) : Bool :=
  session.setting = some e.tenantID

structure VerifierState where
  evidence : List EvidenceRow := []
  locks : List (String × String) := []
  sessions : Sessions VerifierSession := {}

namespace VerifierState

section
variable (s : VerifierState)

def session (i : Nat) : Option VerifierSession :=
  s.sessions.get i

def close (i : Nat) : VerifierState :=
  { s with sessions := s.sessions.close i }

def put (i : Nat) (session : VerifierSession) : VerifierState :=
  { s with sessions := s.sessions.put i session }

def lockedElsewhere (i : Nat) (evidenceID : String) : Bool :=
  s.sessions.elsewhere i fun other => other.locked = some evidenceID

def matching (tenantID routeID provider currency : String) (now : Time) :
    List LiquidityEvidence :=
  (s.evidence.map EvidenceRow.evidence).filter
    (LiquidityEvidence.matching tenantID routeID provider currency now)

end

end VerifierState

/-- What is left open when a call is made: `picks` names the row the query returns,
one of the newest; `begins` says on which connection and when. -/
inductive VerifierChoice where
  | proceeds
  | reads (time : Time)
  | draws (token : String)
  | begins (setting : Option String) (now : Time)
  | picks (evidenceID : String)
  | fails (err : GoError)
  | loses (err : GoError)

/-- One call of the verifier. A lock may be set or released although the answer is lost. -/
def VerifierState.exec (s : VerifierState) (i : Nat) :
    (call : VerifierCall) → VerifierChoice → Option (call.Answer × VerifierState)
  | .now, .reads time => some (time, s)
  | .newToken, .draws token => some (.ok token, s)
  | .newToken, .fails err => some (.error err, s)
  | .setNX key token _, .proceeds =>
    if s.locks.any (·.1 = key) then some (.ok false, s)
    else some (.ok true, { s with locks := (key, token) :: s.locks })
  | .setNX _ _ _, .fails err => some (.error err, s)
  | .setNX key token _, .loses err =>
    some (.error err,
      if s.locks.any (·.1 = key) then s else { s with locks := (key, token) :: s.locks })
  | .wait _, .proceeds => some (none, s)
  | .wait _, .fails err => some (some err, s)
  | .release key token, .proceeds =>
    some (none, { s with locks := s.locks.filter (· ≠ (key, token)) })
  | .release _ _, .fails err => some (some err, s)
  | .release key token, .loses err =>
    some (some err, { s with locks := s.locks.filter (· ≠ (key, token)) })
  | .beginTx, .begins setting now => some (none, s.put i { setting := setting, now := now })
  | .beginTx, .fails err => some (some err, s)
  | .selectEvidence tenantID routeID provider currency, .proceeds =>
    (s.session i).bind fun session =>
      if ((s.matching tenantID routeID provider currency session.now).filter session.admits) = [] then
        some (.error .noRows, s)
      else none
  | .selectEvidence tenantID routeID provider currency, .picks evidenceID =>
    (s.session i).bind fun session =>
      let rows := (s.matching tenantID routeID provider currency session.now).filter session.admits
      (rows.find? (·.evidenceID = evidenceID)).bind fun row =>
        if rows.all (·.observedAt ≤ row.observedAt) ∧ ¬ s.lockedElsewhere i evidenceID then
          some (.ok row, s.put i { session with locked := some evidenceID })
        else none
  | .selectEvidence _ _ _ _, .fails err => some (.error err, s)
  | .commit, .proceeds => some (none, s.close i)
  | .commit, .fails err => some (some err, s.close i)
  | .rollback, .proceeds => some ((), s.close i)
  | .cacheEvidence _ _ _, .proceeds => some ((), s)
  | _, _ => none

/-- What happens beside the calls: new evidence, expired locks, transactions rolled back. -/
inductive VerifierEvent where
  | inserted (row : EvidenceRow)
  | expired (key : String)
  | lost (thread : Nat)

def VerifierState.happens (s : VerifierState) : VerifierEvent → Option VerifierState
  | .inserted row =>
    if s.evidence.all (·.evidence.evidenceID ≠ row.evidence.evidenceID) then
      some { s with evidence := s.evidence ++ [row] }
    else none
  | .expired key => some { s with locks := s.locks.filter (·.1 ≠ key) }
  | .lost thread => some (s.close thread)

end UmojaFlowOS.Settlement.Liquidity
