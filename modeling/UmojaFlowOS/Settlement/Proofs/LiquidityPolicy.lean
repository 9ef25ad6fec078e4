import UmojaFlowOS.Interaction.Served
import UmojaFlowOS.Settlement.LiquidityVerifier

/-!
# Verification under row-level security

`Verify` opens its transaction without binding the tenant, so the policy of
`liquidity_treasury_evidence` judges by whatever setting the connection carries.
-/

namespace UmojaFlowOS.Settlement.Liquidity

open Go Interaction Relational

attribute [local irreducible] trimSpace liquidityLockKey liquidityCacheKey

/-- Nothing fails, the clock reads `now`, and the transaction starts at `dbNow` on
a connection with this setting. -/
def Calm (setting : Option String) (now dbNow : Time) : VerifierChoice → Prop
  | .reads time => time = now
  | .begins other time => other = setting ∧ time = dbNow
  | .fails _ => False
  | .loses _ => False
  | _ => True

/-- The verifier is configured, its arguments are complete, the admission lock and
the rows are free, and the table has its primary key. -/
structure Ready (v : PostgresRedisLiquidityVerifier) (intent : Intent) (route : RouteDecision)
    (s : VerifierState) : Prop where
  db : v.db = true
  redis : v.requireRedis = true → v.redis = true
  complete : ¬ incomplete intent route
  lock : ∀ lock ∈ s.locks, lock.1 ≠ liquidityLockKey intent.tenantID route
  rows : ∀ evidenceID, s.lockedElsewhere 0 evidenceID = false
  key : (s.evidence.map (·.evidence.evidenceID)).Nodup

def Newest (rows : List LiquidityEvidence) (e : LiquidityEvidence) : Prop :=
  e ∈ rows ∧ ∀ other ∈ rows, other.observedAt ≤ e.observedAt

/-- Evidence that is well formed, not observed in the future, not expired, and has
room for the amount and the buffer. -/
structure Adequate (intent : Intent) (route : RouteDecision) (now : Time) (e : LiquidityEvidence) :
    Prop where
  currency : e.currency = route.route.sourceCurrency
  evidenceID : trimSpace e.evidenceID ≠ ""
  observed : e.observedAt ≠ 0 ∧ e.observedAt ≤ now
  unexpired : e.expiresAt ≠ 0 ∧ now < e.expiresAt
  headroom : intent.amountMinor.toInt + e.requiredBufferMinor.toInt ≤
    e.availableMinor.toInt - e.reservedMinor.toInt

def candidates (s : VerifierState) (intent : Intent) (route : RouteDecision) (dbNow : Time) :
    List LiquidityEvidence :=
  s.matching intent.tenantID route.route.id route.provider route.route.sourceCurrency dbNow

/-! ## The check of one row -/

theorem toInt_sub_of_le {a b : Int64} (positive : 0 ≤ b) (le : b ≤ a) :
    (a - b).toInt = a.toInt - b.toInt := by
  have low := Int64.le_iff_toInt_le.mp positive
  have high := Int64.le_iff_toInt_le.mp le
  have above := Int64.toInt_lt a
  rw [Int64.toInt_zero] at low
  rw [Int64.toInt_sub]
  exact Int.bmod_eq_of_le (by omega) (by omega)

theorem toInt_add_of_lt {a b : Int64} (positive : 0 ≤ b) (small : a.toInt + b.toInt < 2 ^ 63) :
    (a + b).toInt = a.toInt + b.toInt := by
  have low := Int64.le_iff_toInt_le.mp positive
  have below := Int64.le_toInt a
  rw [Int64.toInt_zero] at low
  rw [Int64.toInt_add]
  exact Int.bmod_eq_of_le (by omega) (by omega)

variable {e : LiquidityEvidence}

/-- Unless the sum of amount and buffer overflows, the check of the headroom is exact. -/
theorem headroom_iff {amount : Int64} (ok : e.ok = true)
    (small : amount.toInt + e.requiredBufferMinor.toInt < 2 ^ 63) :
    ¬ e.availableMinor - e.reservedMinor < amount + e.requiredBufferMinor ↔
      amount.toInt + e.requiredBufferMinor.toInt ≤
        e.availableMinor.toInt - e.reservedMinor.toInt := by
  simp only [LiquidityEvidence.ok, Bool.and_eq_true, decide_eq_true_eq] at ok
  obtain ⟨⟨⟨⟨⟨⟨⟨-, -⟩, reserved⟩, buffer⟩, covered⟩, -⟩, -⟩, -⟩ := ok
  rw [Int64.lt_iff_toInt_lt, toInt_sub_of_le reserved covered, toInt_add_of_lt buffer small, not_lt]

theorem verifyLiquidityEvidence_of_adequate (ok : e.ok = true)
    (tenantID : e.tenantID = intent.tenantID) (routeID : e.routeID = route.route.id)
    (provider : e.provider = route.provider) (adequate : Adequate intent route now e) :
    verifyLiquidityEvidence intent route e now =
      ({ allowed := true, evidence := e, checkedAt := now
         reason := "fresh transactional liquidity verified" }, none) := by
  have small : intent.amountMinor.toInt + e.requiredBufferMinor.toInt < 2 ^ 63 := by
    have above := Int64.toInt_lt e.availableMinor
    have headroom := adequate.headroom
    have fields := ok
    simp only [LiquidityEvidence.ok, Bool.and_eq_true, decide_eq_true_eq] at fields
    have reserved := Int64.le_iff_toInt_le.mp fields.1.1.1.1.1.2
    rw [Int64.toInt_zero] at reserved
    omega
  have room := (headroom_iff ok small).mpr adequate.headroom
  simp only [LiquidityEvidence.ok, validDigest, validLowerHex, Bool.and_eq_true,
    decide_eq_true_eq] at ok
  obtain ⟨⟨⟨⟨⟨⟨⟨-, available⟩, reserved⟩, buffer⟩, covered⟩, -⟩, digest, -⟩, -⟩ := ok
  obtain ⟨observed, past⟩ := adequate.observed
  obtain ⟨expires, unexpired⟩ := adequate.unexpired
  rw [verifyLiquidityEvidence, if_neg, if_neg, if_neg, if_neg room]
  · simp only [not_or, Int64.not_lt]
    exact ⟨available, reserved, buffer, covered⟩
  · simp only [not_or, not_not]
    exact ⟨observed, expires, not_lt.mpr past, unexpired⟩
  · simp only [not_or, not_not]
    exact ⟨tenantID, routeID, provider, adequate.currency, adequate.evidenceID, digest⟩

/-! ## What the policy leaves of the rows -/

theorem mem_candidates (listed : e ∈ candidates s intent route dbNow) :
    e.ok = true ∧ e.tenantID = intent.tenantID ∧ e.routeID = route.route.id ∧
      e.provider = route.provider := by
  obtain ⟨present, matched⟩ := List.mem_filter.mp listed
  obtain ⟨row, -, rfl⟩ := List.mem_map.mp present
  simp only [LiquidityEvidence.matching, Bool.and_eq_true, decide_eq_true_eq] at matched
  exact ⟨row.ok, matched.1.1.1.1, matched.1.1.1.2, matched.1.1.2⟩

/-- The policy leaves all candidates, or none. -/
theorem filter_admits (s : VerifierState) (intent : Intent) (route : RouteDecision) (dbNow : Time)
    (session : VerifierSession) :
    (candidates s intent route dbNow).filter session.admits =
      if session.setting = some intent.tenantID then candidates s intent route dbNow else [] := by
  split
  · rename_i bound
    refine List.filter_eq_self.mpr fun e listed => ?_
    rw [VerifierSession.admits, (mem_candidates listed).2.1, bound]
    simp
  rename_i unbound
  refine List.filter_eq_nil_iff.mpr fun e listed => ?_
  rw [VerifierSession.admits, (mem_candidates listed).2.1]
  simpa using unbound

/-! ## A run without failures -/

section
variable {v : PostgresRedisLiquidityVerifier} {intent : Intent} {route : RouteDecision}
  {s : VerifierState} {setting : Option String} {now dbNow : Time}

/-- Served calmly from `state` the program ends, and ends well. -/
abbrev Ends {α : Type} (setting : Option String) (now dbNow : Time)
    (good : α → VerifierState → Prop) (program : Verifier α) (state : VerifierState) : Prop :=
  Yields (fun state call choice => state.exec 0 call choice) (Calm setting now dbNow) good program
    state

variable {α : Type} {good : α → VerifierState → Prop}

/-- Calls that have one calm answer. -/
def steady : VerifierCall → Bool
  | .newToken | .selectEvidence _ _ _ _ => false
  | _ => true

theorem calm_eq {call : VerifierCall}
    {result result' : call.Answer × VerifierState} (calm : Calm setting now dbNow choice)
    (calmly : Calm setting now dbNow other) (executed : s.exec 0 call choice = some result)
    (done : s.exec 0 call other = some result') (one : steady call = true) : result' = result := by
  cases call with
  | newToken | selectEvidence => cases one
  | now | setNX | wait | release | beginTx | commit | rollback | cacheEvidence =>
    -- Failures are not calm, and of the other choices the call takes one.
    cases choice <;> first | exact absurd calm id | (cases executed; done) | skip
    all_goals cases other <;> first | exact absurd calmly id | (cases done; done) | skip
    all_goals
      simp only [Calm] at calm calmly
      exact Option.some.inj (done.symm.trans (by simp only [calm, calmly, ← executed]))

/-- A call with one calm answer: it is given, and the program goes on with it. -/
theorem ends_ask {call : VerifierCall} {rest : call.Answer → Verifier α} (choice : VerifierChoice)
    {answer : call.Answer} (calm : Calm setting now dbNow choice)
    (executed : s.exec 0 call choice = some (answer, after))
    (later : Ends setting now dbNow good (rest answer) after) (one : steady call = true) :
    Ends setting now dbNow good (ask call >>= rest) s := by
  refine yields_ask_bind.mpr ⟨⟨choice, answer, after, calm, executed⟩, ?_⟩
  intro other result state calmly done
  cases calm_eq calm calmly executed done one
  exact later

theorem ends_newToken (later : ∀ token, Ends setting now dbNow good (rest (.ok token)) s) :
    Ends setting now dbNow good (ask .newToken >>= rest) s := by
  refine yields_ask_bind.mpr ⟨⟨.draws "", .ok "", s, trivial, rfl⟩, ?_⟩
  intro other answer after calm done
  cases other with
  | draws token =>
    cases done
    exact later token
  | fails => exact absurd calm id
  | proceeds | reads | begins | picks | loses => cases done

/-- The query in a transaction whose connection is not bound to the tenant finds nothing. -/
theorem ends_select_unbound
    (found : s.session 0 = some session) (unbound : session.setting ≠ some intent.tenantID)
    (later : Ends setting now dbNow good (rest (.error .noRows)) s) :
    Ends setting now dbNow good
      (ask (.selectEvidence intent.tenantID route.route.id route.provider
        route.route.sourceCurrency) >>= rest) s := by
  have none_ := filter_admits s intent route session.now session
  rw [if_neg unbound] at none_
  have rows : s.matching intent.tenantID route.route.id route.provider route.route.sourceCurrency
      session.now = candidates s intent route session.now := rfl
  refine yields_ask_bind.mpr ⟨⟨.proceeds, .error .noRows, s, trivial, ?_⟩, ?_⟩
  · show (s.session 0).bind _ = _
    rw [found, Option.bind_some, rows, if_pos none_]
  intro other answer after calm done
  cases other with
  | proceeds =>
    change (s.session 0).bind _ = _ at done
    rw [found, Option.bind_some, rows, if_pos none_] at done
    cases done
    exact later
  | picks evidenceID =>
    change (s.session 0).bind _ = _ at done
    simp only [found, Option.bind_some, rows, none_] at done
    cases done
  | fails => exact absurd calm id
  | reads | draws | begins | loses => cases done

/-- The query in a transaction bound to the tenant returns one of the newest rows. -/
theorem ends_select_bound
    (found : s.session 0 = some session) (bound : session.setting = some intent.tenantID)
    (free : ∀ evidenceID, s.lockedElsewhere 0 evidenceID = false)
    (key : (s.evidence.map (·.evidence.evidenceID)).Nodup)
    (some_ : ∃ e, Newest (candidates s intent route session.now) e)
    (later : ∀ e evidenceID, Newest (candidates s intent route session.now) e →
      Ends setting now dbNow good (rest (.ok e)) (s.put 0 { session with locked := some evidenceID })) :
    Ends setting now dbNow good
      (ask (.selectEvidence intent.tenantID route.route.id route.provider
        route.route.sourceCurrency) >>= rest) s := by
  have all_ := filter_admits s intent route session.now session
  rw [if_pos bound] at all_
  have rows : s.matching intent.tenantID route.route.id route.provider route.route.sourceCurrency
      session.now = candidates s intent route session.now := rfl
  refine yields_ask_bind.mpr ⟨?_, ?_⟩
  · obtain ⟨e, present, newest⟩ := some_
    have unique : ((candidates s intent route session.now).map (·.evidenceID)).Nodup := by
      refine (List.filter_sublist.map _).nodup ?_
      rwa [List.map_map]
    have first := find?_of_unique unique present
    refine ⟨.picks e.evidenceID, .ok e, s.put 0 { session with locked := some e.evidenceID }, trivial, ?_⟩
    show (s.session 0).bind _ = _
    simp only [found, Option.bind_some, rows, all_, first]
    exact if_pos ⟨List.all_eq_true.mpr fun other listed => decide_eq_true (newest other listed),
      by simp [free]⟩
  intro other answer after calm done
  cases other with
  | proceeds =>
    obtain ⟨e, present, -⟩ := some_
    change (s.session 0).bind _ = _ at done
    simp only [found, Option.bind_some, rows, all_] at done
    rw [if_neg (List.ne_nil_of_mem present)] at done
    cases done
  | picks evidenceID =>
    change (s.session 0).bind _ = _ at done
    simp only [found, Option.bind_some, rows, all_] at done
    obtain ⟨e, first, done⟩ := Option.bind_eq_some_iff.mp done
    split at done
    · rename_i checked
      cases done
      refine later e evidenceID ⟨List.mem_of_find?_eq_some first, fun other listed => ?_⟩
      exact of_decide_eq_true (List.all_eq_true.mp checked.1 other listed)
    · cases done
  | fails => exact absurd calm id
  | reads | draws | begins | loses => cases done

theorem ends_acquireLock (ready : Ready v intent route s) :
    Ends setting now dbNow (fun held after => ∃ lock locks, held = .ok lock ∧ after = { s with locks := locks })
      (acquireLock v (liquidityLockKey intent.tenantID route)) s := by
  have free : s.locks.any (·.1 = liquidityLockKey intent.tenantID route) = false := by
    simpa using ready.lock
  unfold acquireLock
  by_cases redis : v.redis = true
  · have attempts : ∃ n, (orDefault v.lockAttempts 3).toNat = n + 1 := by
      unfold orDefault
      split
      · exact ⟨2, rfl⟩
      · exact ⟨v.lockAttempts.toNat - 1, by omega⟩
    obtain ⟨n, attempts⟩ := attempts
    simp only [redis, attempts, not_true_eq_false, if_false]
    refine ends_newToken fun token => ends_ask .proceeds trivial (if_neg (by simp [free])) ?_ rfl
    exact ⟨some (_, token), _, rfl, rfl⟩
  have optional : v.requireRedis = false := by
    cases required : v.requireRedis with
    | true => exact absurd (ready.redis required) redis
    | false => rfl
  simp only [redis, optional, Bool.false_eq_true, not_false_eq_true, if_true, if_false]
  exact ⟨none, s.locks, rfl, rfl⟩

def Judged (intent : Intent) (setting : Option String) (now : Time)
    (result : Verdict × Option GoError) : Prop :=
  (setting = some intent.tenantID → result.1.allowed = true ∧ result.2 = none) ∧
    (setting ≠ some intent.tenantID →
      result = ({ checkedAt := now, reason := "fresh liquidity evidence not found" },
        some .liquidityUnavailable))

theorem ends_verifyTx (found : s.session 0 = some { setting := setting, now := dbNow })
    (free : ∀ evidenceID, s.lockedElsewhere 0 evidenceID = false)
    (key : (s.evidence.map (·.evidence.evidenceID)).Nodup)
    (some_ : ∃ e, Newest (candidates s intent route dbNow) e)
    (adequate : ∀ e, Newest (candidates s intent route dbNow) e → Adequate intent route now e) :
    Ends setting now dbNow (fun result _ => Judged intent setting now result)
      (verifyTx v intent route now) s := by
  by_cases bound : setting = some intent.tenantID
  · refine ends_select_bound found bound free key some_ fun e evidenceID newest => ?_
    obtain ⟨ok, tenantID, routeID, provider⟩ := mem_candidates newest.1
    have passes := verifyLiquidityEvidence_of_adequate ok tenantID routeID provider (adequate e newest)
    refine ends_ask .proceeds trivial rfl ?_ rfl
    simp only [Option.isSome_none, Bool.false_eq_true, if_false, passes]
    have judged : ∀ verdict : Verdict, verdict.allowed = true →
        Judged intent setting now (verdict, none) :=
      fun verdict allowed => ⟨fun _ => ⟨allowed, rfl⟩, fun unbound => absurd bound unbound⟩
    split
    · exact ends_ask .proceeds trivial rfl (judged _ rfl) rfl
    · exact judged _ rfl
  · refine ends_select_unbound found bound ?_
    exact ⟨fun bound' => absurd bound' bound, fun _ => by simp⟩

theorem ends_unlock (held : Option (String × String))
    (later : ∀ locks, Ends setting now dbNow good (rest ()) { s with locks := locks }) :
    Ends setting now dbNow good (unlock held >>= rest) s := by
  cases held with
  | none => exact later s.locks
  | some lock => exact ends_ask .proceeds trivial rfl (later _) rfl

theorem ends_verifyLocked (free : ∀ evidenceID, s.lockedElsewhere 0 evidenceID = false)
    (key : (s.evidence.map (·.evidence.evidenceID)).Nodup)
    (some_ : ∃ e, Newest (candidates s intent route dbNow) e)
    (adequate : ∀ e, Newest (candidates s intent route dbNow) e → Adequate intent route now e) :
    Ends setting now dbNow (fun result _ => Judged intent setting now result)
      (verifyLocked v intent route now) s := by
  refine ends_ask (.begins setting dbNow) ⟨rfl, rfl⟩ rfl ?_ rfl
  simp only [Option.isSome_none, Bool.false_eq_true, if_false]
  have open_ : ∀ evidenceID, (s.put 0 { setting := setting, now := dbNow }).lockedElsewhere 0
      evidenceID = false := fun evidenceID => Sessions.elsewhere_put_self.trans (free evidenceID)
  have found : (s.put 0 { setting := setting, now := dbNow }).session 0 =
      some { setting := setting, now := dbNow } := Sessions.get_put_self
  refine (ends_verifyTx found open_ key some_ adequate).bind fun result after judged => ?_
  exact ends_ask .proceeds trivial rfl judged rfl

/-- Served calmly, `Verify` ends, and judges by the setting of its connection. -/
theorem ends_verify (ready : Ready v intent route s)
    (some_ : ∃ e, Newest (candidates s intent route dbNow) e)
    (adequate : ∀ e, Newest (candidates s intent route dbNow) e → Adequate intent route now e) :
    Ends setting now dbNow (fun result _ => Judged intent setting now result) (verify v intent route)
      s := by
  refine ends_ask (.reads now) rfl rfl ?_ rfl
  have redis : ¬ (v.requireRedis = true ∧ ¬ v.redis = true) := fun both => both.2 (ready.redis both.1)
  simp only [ready.db, not_true_eq_false, if_false, if_neg redis, if_neg ready.complete]
  refine (ends_acquireLock ready).bind fun held after acquired => ?_
  obtain ⟨lock, locks, rfl, rfl⟩ := acquired
  have locked : Ends setting now dbNow (fun result _ => Judged intent setting now result)
      (verifyLocked v intent route now) { s with locks := locks } :=
    ends_verifyLocked ready.rows ready.key some_ adequate
  exact locked.bind fun result after judged => ends_unlock lock fun _ => judged

/-- With sufficient fresh evidence in the table and the lock available, `Verify`
ends, and it allows the settlement if and only if its connection already carries
the tenant of the intent; on any other connection it finds no evidence. -/
theorem verify_allows_iff_bound (ready : Ready v intent route s)
    (some_ : ∃ e, Newest (candidates s intent route dbNow) e)
    (adequate : ∀ e, Newest (candidates s intent route dbNow) e → Adequate intent route now e) :
    (∃ choices result after, (∀ choice ∈ choices, Calm setting now dbNow choice) ∧
      (verify v intent route).serve (fun state call choice => state.exec 0 call choice) s choices =
        some (result, after)) ∧
    ∀ choices result after, (∀ choice ∈ choices, Calm setting now dbNow choice) →
      (verify v intent route).serve (fun state call choice => state.exec 0 call choice) s choices =
        some (result, after) →
      (result.1.allowed = true ↔ setting = some intent.tenantID) ∧
        (setting ≠ some intent.tenantID →
          result = ({ checkedAt := now, reason := "fresh liquidity evidence not found" },
            some .liquidityUnavailable)) := by
  obtain ⟨ends, all_⟩ := (ends_verify ready some_ adequate).served
  refine ⟨ends, fun choices result after calm served => ?_⟩
  obtain ⟨bound, unbound⟩ := all_ choices result after calm served
  refine ⟨⟨fun allowed => ?_, fun set_ => (bound set_).1⟩, unbound⟩
  by_contra other
  rw [unbound other] at allowed
  cases allowed

end

def kenyaRoute : RouteDecision :=
  ⟨⟨"route-1", "tenant-a", "KE", "KE", "KES", "KES", .onramp, "USDC", ["rail-1"], ["provider-1"], 1,
    9000, 1, 0, 0, true, 1⟩, "provider-1", "rail-1", 1, ""⟩

/-- Evidence of 4000 available, of which 500 are to be kept. -/
def kenyaEvidence : EvidenceRow where
  evidence :=
    { tenantID := "tenant-a", routeID := "route-1", provider := "provider-1", currency := "KES"
      availableMinor := 4000, requiredBufferMinor := 500, observedAt := 5, expiresAt := 50
      evidenceID := "evidence-1", source := "bank"
      evidenceDigest := "bbbbbbbbbbbbbbbbbbbbbbbbbbbbbbbbbbbbbbbbbbbbbbbbbbbbbbbbbbbbbbbb" }
  ok := by decide

def treasury : VerifierState := { evidence := [kenyaEvidence] }

theorem ready_treasury : Ready {} depositIntent kenyaRoute treasury where
  db := rfl
  redis := fun _ => rfl
  complete := by decide +kernel
  lock := fun _ none_ => absurd none_ List.not_mem_nil
  rows := fun _ => rfl
  key := List.nodup_singleton _

theorem candidates_treasury :
    candidates treasury depositIntent kenyaRoute 10 = [kenyaEvidence.evidence] := by
  decide

theorem newest_treasury :
    Newest (candidates treasury depositIntent kenyaRoute 10) kenyaEvidence.evidence := by
  rw [candidates_treasury]
  exact ⟨List.mem_singleton.mpr rfl, fun other listed => (List.mem_singleton.mp listed).symm ▸ le_rfl⟩

theorem adequate_treasury (e : LiquidityEvidence)
    (newest : Newest (candidates treasury depositIntent kenyaRoute 10) e) :
    Adequate depositIntent kenyaRoute 10 e := by
  rw [candidates_treasury] at newest
  rw [List.mem_singleton.mp newest.1]
  exact ⟨rfl, by decide +kernel, by decide, by decide, by decide⟩

/-- On a connection without a tenant setting a deposit of 2500 is denied although
3500 are free. -/
theorem unbound_deposit_is_denied :
    (∃ e, Newest (candidates treasury depositIntent kenyaRoute 10) e ∧
      Adequate depositIntent kenyaRoute 10 e) ∧
    ∃ choices after, (∀ choice ∈ choices, Calm none 10 10 choice) ∧
      (verify {} depositIntent kenyaRoute).serve (fun state call choice => state.exec 0 call choice)
          treasury choices =
        some (({ checkedAt := 10, reason := "fresh liquidity evidence not found" },
          some .liquidityUnavailable), after) := by
  refine ⟨⟨_, newest_treasury, adequate_treasury _ newest_treasury⟩, ?_⟩
  have ends : Ends none 10 10 (fun result _ => Judged depositIntent none 10 result)
      (verify {} depositIntent kenyaRoute) treasury :=
    ends_verify ready_treasury ⟨_, newest_treasury⟩ adequate_treasury
  obtain ⟨⟨choices, result, after, calm, served⟩, all_⟩ := ends.served
  have denied := (all_ choices result after calm served).2 nofun
  exact ⟨choices, after, calm, denied ▸ served⟩

/-- The deposit is allowed on a connection bound to its tenant. -/
theorem bound_deposit_is_allowed :
    ∃ choices result after, (∀ choice ∈ choices, Calm (some "tenant-a") 10 10 choice) ∧
      (verify {} depositIntent kenyaRoute).serve (fun state call choice => state.exec 0 call choice)
        treasury choices = some (result, after) ∧ result.1.allowed = true := by
  obtain ⟨⟨choices, result, after, calm, served⟩, all_⟩ :=
    verify_allows_iff_bound ready_treasury ⟨_, newest_treasury⟩ adequate_treasury
  exact ⟨choices, result, after, calm, served, (all_ choices result after calm served).1.mpr rfl⟩

end UmojaFlowOS.Settlement.Liquidity
