import UmojaFlowOS.Settlement.TigerBeetleSagaLedger

/-!
# The corridor router

`PostgresCorridorRouter` (`internal/settlement/postgres_corridor_router.go`) over the table
`corridor_routes` (`0061_corridor_liquidity_policy.sql`). Together with the account bindings
it is what an intent is looked up in: `PolicyDatabase` has the two tables, the clock, and the
statements that fail.
-/

namespace UmojaFlowOS.Settlement

open Go Ledger

def capitals (size : Nat) (column : String) : Bool :=
  column.length = size && column.toList.all fun c => 'A' ≤ c && c ≤ 'Z'

/-- A row of `corridor_routes` with the constraints of the table
(`0061_corridor_liquidity_policy.sql:3-24`). The two JSON columns are given by what
`json.Unmarshal` makes of them. -/
structure RouteRow where
  routeID : String
  tenantID : String
  originCountry : String
  destinationCountry : String
  sourceCurrency : String
  destinationCurrency : String
  direction : Direction
  asset : String
  rails : Except GoError (List String)
  providerPriority : Except GoError (List String)
  minAmountMinor : Int64
  maxAmountMinor : Option Int64
  quoteTTLSeconds : Int
  liquidityBufferBps : Int64
  settlementCutoff : Option Time
  enabled : Bool
  version : Int64
  originOk : capitals 2 originCountry = true := by decide
  destinationOk : capitals 2 destinationCountry = true := by decide
  sourceOk : capitals 3 sourceCurrency = true := by decide
  targetOk : capitals 3 destinationCurrency = true := by decide
  directionOk : direction = .onramp ∨ direction = .offramp := by decide
  minOk : 0 < minAmountMinor := by decide
  maxOk : ∀ bound ∈ maxAmountMinor, minAmountMinor ≤ bound := by decide
  ttlOk : 1 ≤ quoteTTLSeconds ∧ quoteTTLSeconds ≤ 86400 := by decide
  bufferOk : 0 ≤ liquidityBufferBps ∧ liquidityBufferBps ≤ 10000 := by decide
  versionOk : 0 < version := by decide

/-- The statements of the two lookups. -/
inductive PolicyStatement where
  | begin
  | bindTenant
  | query
  | commit

/-- The tables and what the lookups depend on besides: the readings of `time.Now` in
`validateIntent` and of the router's clock before the two uses it has, and which statements
fail. -/
structure PolicyDatabase where
  routes : List RouteRow := []
  bindings : AccountBindings := {}
  wallClock : Time
  cutoffClock : Time
  decisionClock : Time
  failing : PolicyStatement → Option GoError := fun _ => none
  routesUnique : (routes.map RouteRow.routeID).Nodup := by decide

/-- Equality of a `char(n)` column with a text: trailing blanks do not count. -/
def paddedEq (column value : String) : Bool :=
  column.toList = (value.toList.reverse.dropWhile (· = ' ')).reverse

section
variable [CaseTables]

/-- The `WHERE` clause (`postgres_corridor_router.go:50-52`). -/
def RouteRow.matches (row : RouteRow) (intent : Intent) : Bool :=
  row.tenantID = intent.tenantID && row.enabled &&
    paddedEq row.originCountry (toUpper intent.originCountry) &&
    paddedEq row.destinationCountry (toUpper intent.destinationCountry) &&
    paddedEq row.sourceCurrency (toUpper intent.fiat) && row.direction.text = intent.direction.text &&
    row.asset = toUpper intent.asset && row.minAmountMinor ≤ intent.amountMinor &&
    intent.amountMinor ≤ row.maxAmountMinor.getD Int64.maxValue &&
    (trimSpace intent.corridorID = "" || row.routeID = trimSpace intent.corridorID)

/-- The rows of the query: `ORDER BY route_id LIMIT 2`. -/
def PolicyDatabase.selectRoutes (db : PolicyDatabase) (intent : Intent) : List RouteRow :=
  ((db.routes.filter (·.matches intent)).mergeSort (·.routeID ≤ ·.routeID)).take 2

end

/-- `validRoutePolicy` (`postgres_corridor_router.go:101-103`). -/
def validRoutePolicy (route : CorridorRoute) : Bool :=
  route.enabled && trimSpace route.id ≠ "" && trimSpace route.tenantID ≠ "" &&
    route.rails.head?.any (trimSpace · ≠ "") && route.providerPriority.head?.any (trimSpace · ≠ "") &&
    0 < route.quoteTTL

/-- The body of the loop over the rows (`postgres_corridor_router.go:60-83`). -/
def RouteRow.scan (row : RouteRow) : Except GoError CorridorRoute :=
  match row.rails with
  | .error err => .error (.inContext "decode corridor rails" err)
  | .ok rails =>
    match row.providerPriority with
    | .error err => .error (.inContext "decode corridor provider priority" err)
    | .ok providerPriority =>
      let route : CorridorRoute :=
        { id := row.routeID
          tenantID := row.tenantID
          originCountry := row.originCountry
          destinationCountry := row.destinationCountry
          sourceCurrency := row.sourceCurrency
          destinationCurrency := row.destinationCurrency
          direction := row.direction
          asset := row.asset
          rails := rails
          providerPriority := providerPriority
          minAmountMinor := row.minAmountMinor
          maxAmountMinor := row.maxAmountMinor.getD 0
          quoteTTL := row.quoteTTLSeconds * 1000000000
          liquidityBufferBps := row.liquidityBufferBps
          settlementCutoff := row.settlementCutoff.getD 0
          enabled := row.enabled
          version := row.version }
      if validRoutePolicy route then .ok route else .error .corridorUnavailable

/-- The decision for the only route found (`postgres_corridor_router.go:94-99`). -/
def PolicyDatabase.decide (db : PolicyDatabase) (hashRoutePolicy : CorridorRoute → String)
    (route : CorridorRoute) : Except GoError RouteDecision :=
  if route.settlementCutoff ≠ 0 ∧ route.settlementCutoff ≤ db.cutoffClock then
    .error .corridorUnavailable
  else .ok
    { route := route
      provider := route.providerPriority.headD ""
      rail := route.rails.headD ""
      expiresAt := db.decisionClock + route.quoteTTL
      policyHash := hashRoutePolicy route }

section
variable [CaseTables]

/-- `Route` (`postgres_corridor_router.go:29-100`) of a router that has a database. -/
def route (hashRoutePolicy : CorridorRoute → String) (db : PolicyDatabase) (intent : Intent) :
    Except GoError RouteDecision := do
  if let some err := validateIntent db.wallClock intent then
    throw err
  if (trimSpace intent.originCountry).utf8ByteSize ≠ 2 ∨
      (trimSpace intent.destinationCountry).utf8ByteSize ≠ 2 then
    throw .corridorUnavailable
  if let some err := db.failing .begin then
    throw (.inContext "open corridor route transaction" err)
  if let some err := db.failing .bindTenant then
    throw (.inContext "bind corridor tenant" err)
  if let some err := db.failing .query then
    throw (.inContext "read corridor policy" err)
  let found ← (db.selectRoutes intent).mapM RouteRow.scan
  match found with
  | [route] =>
    if let some err := db.failing .commit then
      throw err
    db.decide hashRoutePolicy route
  | _ => throw .corridorUnavailable

/-- The answers of the database to `ResolveSettlementAccounts`; it asks for nothing else. -/
def PolicyDatabase.answer (db : PolicyDatabase) : (port : LedgerPort) → port.Answer
  | .now => db.wallClock
  | .beginReadOnly => db.failing .begin
  | .bindTenant _ => db.failing .bindTenant
  | .selectBinding tenantID direction asset fiat corridorID =>
    match db.failing .query with
    | some err => .error err
    | none => db.bindings.select tenantID direction asset fiat corridorID
  | .commitReadOnly => db.failing .commit
  | .ctxErr => none
  | .createTransfers _ => .ok []
  | .lookupTransfers _ => .ok []
  | .projectPostedTransfer _ => none
  | .writeLedgerEvent _ => none

/-- `ResolveSettlementAccounts` against the tables. -/
def PolicyDatabase.accounts (db : PolicyDatabase) (intent : Intent) :
    Except GoError LedgerAccounts :=
  (resolveSettlementAccounts intent).value db.answer

end

end UmojaFlowOS.Settlement
