import UmojaFlowOS.Settlement.CorridorRouter
import UmojaFlowOS.Settlement.GrpcSettlement

/-!
# What gRPC keeps of an intent

The message carries the payload and everything the ledger identifiers are made of. It has no
fields for the corridor and the countries, so an intent that names them is looked up as
another one on the other side.
-/

namespace UmojaFlowOS.Settlement

open Go Interaction Ledger

variable {layout : TimeLayout} {sent received : Time} {intent : Intent}

/-- The intent without what the message has no field for. -/
def Intent.carried (intent : Intent) : Intent :=
  { id := intent.id
    idempotencyKey := intent.idempotencyKey
    tenantID := intent.tenantID
    asset := intent.asset
    fiat := intent.fiat
    destination := intent.destination
    direction := intent.direction
    amountMinor := intent.amountMinor
    payload := intent.payload
    expiresAt := intent.expiresAt }

/-! ## The conversion -/

theorem ofText_direction (valid : ValidIntent intent) :
    Direction.ofText intent.direction.text = intent.direction := by
  rcases valid.direction with onramp | offramp
  · rw [onramp]
    rfl
  · rw [offramp]
    rfl

theorem payloadDigest_ne_empty (payload : List UInt8) : payloadDigest payload ≠ "" := by
  intro empty
  have valid := validDigest_payloadDigest payload
  rw [empty] at valid
  cases valid

section
variable (valid : ValidIntent intent)
include valid

theorem validIntent_carried :
    ValidIntent intent.carried ↔ intent.payload ≠ [] := by
  constructor
  · intro carried empty
    have digest := carried.digestOnly empty
    cases digest
  intro present
  exact ⟨valid.id, valid.idempotencyKey, valid.tenantID, valid.asset, valid.fiat,
    valid.amountMinor, valid.direction, fun empty => absurd empty present,
    fun _ given => absurd rfl given⟩

section
variable (present : intent.payload ≠ [])
include present

theorem intentPayloadDigest_carried :
    intentPayloadDigest intent.carried = intentPayloadDigest intent := by
  have empty : ¬ validDigest "" = true := by decide
  show (if validDigest "" = true then _ else payloadDigest intent.payload) = _
  rw [if_neg empty, intentPayloadDigest]
  split
  · rename_i given
    have some_ : intent.payloadSHA256 ≠ "" := by
      intro none_
      rw [none_] at given
      exact empty given
    exact (valid.bound present some_).symm
  · rfl

theorem validateIntent_carried
    (now : Time) : validateIntent now intent.carried = validateIntent now intent := by
  rw [validateIntent_of_valid valid, validateIntent_of_valid ((validIntent_carried valid).mpr present)]
  rfl

theorem operationID_carried
    (operation : String) : operationID intent.carried operation = operationID intent operation := by
  unfold operationID
  rw [intentPayloadDigest_carried valid present]
  rfl

end

end

/-- The accounts of the binding with these columns. -/
def PolicyDatabase.boundAccounts (db : PolicyDatabase)
    (tenantID direction asset fiat corridorID : String) : Except GoError LedgerAccounts :=
  match db.failing .begin, db.failing .bindTenant with
  | some err, _ => .error err
  | none, some err => .error (.inContext "bind account resolver tenant" err)
  | none, none =>
    match db.answer (.selectBinding tenantID direction asset fiat corridorID) with
    | .error err =>
      if err = .noRows then
        .error (.new "active tenant settlement account binding is unavailable")
      else .error err
    | .ok (debit, credit) =>
      if debit ≤ 0 ∨ credit ≤ 0 ∨ debit = credit then
        .error (.new "tenant settlement account binding is invalid")
      else
        match db.failing .commit with
        | some err => .error err
        | none => .ok { debitAccountID := debit.toUInt64, creditAccountID := credit.toUInt64 }

theorem boundAccounts_eq {db : PolicyDatabase}
    (healthy : ∀ statement, db.failing statement = none) :
    db.boundAccounts tenantID direction asset fiat corridorID =
      match db.bindings.select tenantID direction asset fiat corridorID with
      | .error err =>
        if err = .noRows then
          .error (.new "active tenant settlement account binding is unavailable")
        else .error err
      | .ok (debit, credit) =>
        if debit ≤ 0 ∨ credit ≤ 0 ∨ debit = credit then
          .error (.new "tenant settlement account binding is invalid")
        else .ok { debitAccountID := debit.toUInt64, creditAccountID := credit.toUInt64 } := by
  unfold PolicyDatabase.boundAccounts
  simp only [healthy, PolicyDatabase.answer]
  rcases db.bindings.select tenantID direction asset fiat corridorID with err | ⟨debit, credit⟩
  · rfl
  · rfl

section
variable [CaseTables]

/-- What arrives: the carried fields, if they can be written and make a valid intent. -/
theorem overGrpc_ok_iff (valid : validateIntent sent intent = none) :
    overGrpc layout sent received intent = .ok arrived ↔
      arrived = intent.carried ∧ intent.payload ≠ [] ∧ writableTime intent.expiresAt = true ∧
        (intent.expiresAt = 0 ∨ received ≤ intent.expiresAt) := by
  have fields := (validateIntent_eq_none_iff.mp valid).1
  have digest : ¬ (payloadDigest intent.payload = "" ∨
      ¬ equalFold (payloadDigest intent.payload) (payloadDigest intent.payload) = true) := by
    rintro (empty | differs)
    · exact payloadDigest_ne_empty _ empty
    · exact differs (by simp [equalFold])
  rw [overGrpc, intentToProto, valid]
  show intentFromProto layout received _ = _ ↔ _
  rw [intentFromProto, if_neg digest]
  rw [ofText_direction fields]
  cases writable : writableTime intent.expiresAt with
  | false =>
    obtain ⟨err, refused⟩ := layout.parse_beyond _ writable
    rw [refused]
    simp
  | true =>
    rw [layout.parse_format _ writable]
    dsimp only
    cases checked : validateIntent received intent.carried with
    | none =>
      obtain ⟨carried, unexpired⟩ := validateIntent_eq_none_iff.mp checked
      have present := (validIntent_carried fields).mp carried
      unfold Intent.carried at checked
      rw [checked]
      constructor
      · intro same
        exact ⟨(Except.ok.inj same).symm, present, rfl, unexpired⟩
      rintro ⟨same, _⟩
      rw [same]
      rfl
    | some err =>
      have refused := checked
      unfold Intent.carried at refused
      rw [refused]
      constructor
      · intro same
        cases same
      rintro ⟨_, present, _, unexpired⟩
      have passes : validateIntent received intent.carried = none :=
        validateIntent_eq_none_iff.mpr ⟨(validIntent_carried fields).mpr present, unexpired⟩
      rw [passes] at checked
      cases checked

/-! ## What is looked up -/

def namesCountries (intent : Intent) : Prop :=
  (trimSpace intent.originCountry).utf8ByteSize = 2 ∧
    (trimSpace intent.destinationCountry).utf8ByteSize = 2

theorem route_carried (hashRoutePolicy : CorridorRoute → String) (db : PolicyDatabase)
    (intent : Intent) :
    route hashRoutePolicy db intent.carried =
      match validateIntent db.wallClock intent.carried with
      | some err => .error err
      | none => .error .corridorUnavailable := by
  unfold route
  cases validateIntent db.wallClock intent.carried with
  | some | none => rfl

theorem route_without_countries (unnamed : ¬ namesCountries intent) :
    route hashRoutePolicy db intent =
      match validateIntent db.wallClock intent with
      | some err => .error err
      | none => .error .corridorUnavailable := by
  have refused : (trimSpace intent.originCountry).utf8ByteSize ≠ 2 ∨
      (trimSpace intent.destinationCountry).utf8ByteSize ≠ 2 := by
    tauto
  unfold route
  cases validateIntent db.wallClock intent with
  | some err => rfl
  | none =>
    simp only [if_pos refused]
    rfl

/-- The accounts of a valid intent are those bound to five of its columns. -/
theorem accounts_eq (db : PolicyDatabase) (intent : Intent) :
    db.accounts intent =
      match validateIntent db.wallClock intent with
      | some err => .error err
      | none => db.boundAccounts intent.tenantID intent.direction.text (toUpper intent.asset)
          (toUpper intent.fiat) (trimSpace intent.corridorID) := by
  unfold PolicyDatabase.accounts resolveSettlementAccounts
  simp only [LedgerPort.call, Program.ask, bind, Program.bind, Program.value]
  rw [show db.answer .now = db.wallClock from rfl]
  rcases validateIntent db.wallClock intent with _ | err
  case some => rfl
  simp only [Program.value, PolicyDatabase.boundAccounts]
  rw [show db.answer .beginReadOnly = db.failing .begin from rfl]
  rcases db.failing .begin with _ | err
  case some => rfl
  simp only [Program.value]
  rw [show db.answer (.bindTenant _) = db.failing .bindTenant from rfl]
  rcases db.failing .bindTenant with _ | err
  case some => rfl
  simp only [Program.value]
  rcases db.answer (.selectBinding intent.tenantID intent.direction.text
    (toUpper intent.asset) (toUpper intent.fiat) (trimSpace intent.corridorID)) with
    err | ⟨debit, credit⟩
  · dsimp only
    split <;> rfl
  dsimp only
  split
  · rfl
  simp only [Program.value]
  rw [show db.answer .commitReadOnly = db.failing .commit from rfl]
  cases db.failing .commit <;> rfl

theorem accounts_carried (valid : ValidIntent intent) (present : intent.payload ≠ [])
    (blank : trimSpace intent.corridorID = "") (db : PolicyDatabase) :
    db.accounts intent.carried = db.accounts intent := by
  have corridor : trimSpace intent.carried.corridorID = trimSpace intent.corridorID := by
    rw [blank]
    show trimSpace "" = ""
    decide
  rw [accounts_eq, accounts_eq, validateIntent_carried valid present, corridor]
  rfl

/-- Everything that is derived from the one intent is derived from the other. -/
structure SameLookups (intent other : Intent) : Prop where
  routing : ∀ hashRoutePolicy db, route hashRoutePolicy db other = route hashRoutePolicy db intent
  accounts : ∀ db : PolicyDatabase, db.accounts other = db.accounts intent
  digest : intentPayloadDigest other = intentPayloadDigest intent
  identifiers : ∀ operation, operationID other operation = operationID intent operation

/-- Without corridor and countries, nothing that is looked up is lost. -/
theorem sameLookups_carried (valid : ValidIntent intent) (present : intent.payload ≠ [])
    (blank : trimSpace intent.corridorID = "") (unnamed : ¬ namesCountries intent) :
    SameLookups intent intent.carried where
  routing hashRoutePolicy db := by
    rw [route_carried, route_without_countries unnamed, validateIntent_carried valid present]
  accounts := accounts_carried valid present blank
  digest := intentPayloadDigest_carried valid present
  identifiers := operationID_carried valid present

section
variable (valid : validateIntent sent intent = none) (present : intent.payload ≠ [])
include valid present

/-- A binding for the very corridor of the intent: the intent without its corridor has none. -/
theorem corridor_distinguishes (named : trimSpace intent.corridorID ≠ "") :
    ∃ db : PolicyDatabase, db.accounts intent.carried ≠ db.accounts intent := by
  have fields := (validateIntent_eq_none_iff.mp valid).1
  have direction : intent.direction.text = "onramp" ∨ intent.direction.text = "offramp" := by
    rcases fields.direction with onramp | offramp
    · rw [onramp]
      exact .inl rfl
    · rw [offramp]
      exact .inr rfl
  let row : AccountBinding :=
    { tenantID := intent.tenantID, direction := intent.direction.text, asset := toUpper intent.asset,
      fiat := toUpper intent.fiat, corridorID := trimSpace intent.corridorID,
      debitAccountID := 1, creditAccountID := 2, directionOk := direction }
  let db : PolicyDatabase :=
    { bindings := { rows := [row], unique := List.nodup_singleton _ }
      wallClock := sent, cutoffClock := sent, decisionClock := sent }
  have found : db.bindings.select intent.tenantID intent.direction.text (toUpper intent.asset)
      (toUpper intent.fiat) (trimSpace intent.corridorID) = .ok (1, 2) := by
    simp [db, row, AccountBindings.select, AccountBinding.columns]
  have missing : db.bindings.select intent.tenantID intent.direction.text (toUpper intent.asset)
      (toUpper intent.fiat) (trimSpace "") = .error .noRows := by
    have empty : trimSpace "" = "" := by decide
    simp [db, row, AccountBindings.select, AccountBinding.columns, empty, named]
  have resolved : db.boundAccounts intent.tenantID intent.direction.text (toUpper intent.asset)
      (toUpper intent.fiat) (trimSpace intent.corridorID) = .ok ⟨1, 2⟩ := by
    rw [boundAccounts_eq fun _ => rfl, found]
    rfl
  have unresolved : db.boundAccounts intent.tenantID intent.direction.text (toUpper intent.asset)
      (toUpper intent.fiat) (trimSpace "") =
      .error (.new "active tenant settlement account binding is unavailable") := by
    rw [boundAccounts_eq fun _ => rfl, missing]
    rfl
  refine ⟨db, ?_⟩
  have checked : validateIntent db.wallClock intent = none := valid
  rw [accounts_eq, accounts_eq, validateIntent_carried fields present, checked]
  show db.boundAccounts intent.tenantID intent.direction.text (toUpper intent.asset)
      (toUpper intent.fiat) (trimSpace "") ≠ db.boundAccounts _ _ _ _ _
  rw [resolved, unresolved]
  exact fun same => by cases same

/-- A database that cannot be reached tells an intent that is looked up from one that is not. -/
theorem countries_distinguish (named : namesCountries intent)
    (hashRoutePolicy : CorridorRoute → String) :
    ∃ db, route hashRoutePolicy db intent.carried ≠ route hashRoutePolicy db intent := by
  have fields := (validateIntent_eq_none_iff.mp valid).1
  let db : PolicyDatabase :=
    { wallClock := sent, cutoffClock := sent, decisionClock := sent
      failing := fun _ => some (.database "connection refused") }
  have checked : validateIntent db.wallClock intent = none := valid
  have looked : ¬ ((trimSpace intent.originCountry).utf8ByteSize ≠ 2 ∨
      (trimSpace intent.destinationCountry).utf8ByteSize ≠ 2) := by
    rw [not_or, not_not, not_not]
    exact named
  have reached : route hashRoutePolicy db intent = .error (.inContext
      "open corridor route transaction" (.database "connection refused")) := by
    unfold route
    rw [checked]
    simp only [if_neg looked]
    rfl
  refine ⟨db, ?_⟩
  rw [route_carried, validateIntent_carried fields present, checked, reached]
  exact fun same => by cases same

end

/-- An intent that is valid when it is sent arrives as one that is routed, resolved, hashed and
identified alike, exactly when it has a payload and an expiry that can be written and has not
passed, no corridor, and not both countries. -/
theorem intent_survives_iff (layout : TimeLayout) (sent received : Time) (intent : Intent)
    (valid : validateIntent sent intent = none) :
    (∃ arrived, overGrpc layout sent received intent = .ok arrived ∧ SameLookups intent arrived) ↔
      intent.payload ≠ [] ∧ writableTime intent.expiresAt = true ∧
        (intent.expiresAt = 0 ∨ received ≤ intent.expiresAt) ∧
        trimSpace intent.corridorID = "" ∧ ¬ namesCountries intent := by
  have fields := (validateIntent_eq_none_iff.mp valid).1
  constructor
  · rintro ⟨arrived, converted, same⟩
    obtain ⟨rfl, present, writable, unexpired⟩ := (overGrpc_ok_iff valid).mp converted
    refine ⟨present, writable, unexpired, ?_, ?_⟩
    · by_contra named
      obtain ⟨db, differs⟩ := corridor_distinguishes valid present named
      exact differs (same.accounts db)
    intro named
    obtain ⟨db, differs⟩ := countries_distinguish valid present named fun _ => ""
    exact differs (same.routing _ db)
  rintro ⟨present, writable, unexpired, blank, unnamed⟩
  exact ⟨intent.carried, (overGrpc_ok_iff valid).mpr ⟨rfl, present, writable, unexpired⟩,
    sameLookups_carried fields present blank unnamed⟩

end

/-! ## Intents that are sent -/

/-- A layout with the text of RFC 3339 for the zero time, which is what an intent without an
expiry is sent with. Other times are written as tallies. -/
def tallyLayout : TimeLayout where
  format t :=
    if writableTime t then
      match t with
      | .ofNat 0 => "0001-01-01T00:00:00Z"
      | .ofNat (n + 1) => String.ofList (List.replicate (n + 1) '+')
      | .negSucc n => String.ofList ('-' :: List.replicate n '+')
    else "beyond"
  parse text :=
    if text = "0001-01-01T00:00:00Z" then .ok 0
    else
      match text.toList with
      | '-' :: rest => .ok (.negSucc rest.length)
      | '+' :: rest => .ok (.ofNat (rest.length + 1))
      | _ => .error (.new "cannot parse")
  parse_format := by
    intro t writable
    rw [writable, if_pos rfl]
    rcases t with n | n
    · rcases n with _ | n
      · rfl
      · dsimp only
        rw [if_neg (by simp [← String.toList_inj, List.replicate_succ]), String.toList_ofList,
          List.replicate_succ]
        simp
    · dsimp only
      rw [if_neg (by simp [← String.toList_inj]), String.toList_ofList]
      simp
  parse_beyond := by
    intro t beyond
    simp only [beyond, Bool.false_eq_true, if_false]
    exact ⟨.new "cannot parse", rfl⟩

def sentIntent : Intent := { depositIntent with payload := [1], payloadSHA256 := "" }

def sentCorridorIntent : Intent :=
  { sentIntent with originCountry := "KE", destinationCountry := "NG", corridorID := "ke-ng" }

def corridorRow : RouteRow :=
  { routeID := "ke-ng", tenantID := "tenant-a", originCountry := "KE", destinationCountry := "NG",
    sourceCurrency := "KES", destinationCurrency := "NGN", direction := .onramp, asset := "USDC",
    rails := .ok ["mobile-money"], providerPriority := .ok ["provider-1"], minAmountMinor := 100,
    maxAmountMinor := none, quoteTTLSeconds := 60, liquidityBufferBps := 0,
    settlementCutoff := none, enabled := true, version := 1, maxOk := nofun }

def corridorAccounts : AccountBinding :=
  { tenantID := "tenant-a", direction := "onramp", asset := "USDC", fiat := "KES",
    corridorID := "ke-ng", debitAccountID := 1, creditAccountID := 2 }

def corridorDatabase : PolicyDatabase :=
  { routes := [corridorRow], bindings := { rows := [corridorAccounts] },
    wallClock := 1, cutoffClock := 1, decisionClock := 1 }

/-- A deposit with a payload survives. -/
theorem sent_intent_survives :
    validateIntent 1 sentIntent = none ∧
      ∃ arrived, @overGrpc asciiTables tallyLayout 1 1 sentIntent = .ok arrived ∧
        @SameLookups asciiTables sentIntent arrived := by
  let := asciiTables
  have valid : validateIntent 1 sentIntent = none := by decide
  refine ⟨valid, (intent_survives_iff tallyLayout 1 1 sentIntent valid).mpr ⟨?_, ?_, ?_, ?_, ?_⟩⟩
  · decide
  · decide
  · exact .inl rfl
  · decide
  · unfold namesCountries
    decide

/-- The corridor does not arrive: the intent that was sent has a route and accounts, the one
that arrives has neither. -/
theorem corridor_is_lost :
    validateIntent 1 sentCorridorIntent = none ∧
      @overGrpc asciiTables tallyLayout 1 1 sentCorridorIntent = .ok sentCorridorIntent.carried ∧
      (@route asciiTables (fun _ => "") corridorDatabase sentCorridorIntent).toOption.map
        RouteDecision.provider = some "provider-1" ∧
      @route asciiTables (fun _ => "") corridorDatabase sentCorridorIntent.carried =
        .error .corridorUnavailable ∧
      @PolicyDatabase.accounts asciiTables corridorDatabase sentCorridorIntent = .ok ⟨1, 2⟩ ∧
      @PolicyDatabase.accounts asciiTables corridorDatabase sentCorridorIntent.carried =
        .error (.new "active tenant settlement account binding is unavailable") := by
  let := asciiTables
  have valid : validateIntent 1 sentCorridorIntent = none := by decide
  refine ⟨valid, ?_, ?_, ?_, ?_, ?_⟩
  · exact (overGrpc_ok_iff valid).mpr ⟨rfl, by decide, by decide, .inl rfl⟩
  · decide +kernel
  · rfl
  · rfl
  · rfl

end UmojaFlowOS.Settlement
