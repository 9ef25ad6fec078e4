import Mathlib.Init

/-!
# Go errors of the payment engine

An error is one of the sentinels the code compares with `errors.Is`, a plain
`errors.New`, what the database driver reported, or a `fmt.Errorf` that wraps
another error between two pieces of text. A Go result `(value, error)` is a pair
whose second component is `none` for `nil`.
-/

namespace UmojaFlowOS

inductive GoError where
  | invalidIntent
  | unknown
  | held
  | mismatch
  | corridorUnavailable
  | liquidityUnavailable
  | sagaConflict
  | sagaPayloadChanged
  | sagaTerminal
  | reconciliationUnresolved
  | unknownSagaNotLeased
  | resolutionApproval
  | noRows
  | new (text : String)
  | database (text : String)
  | wrap (before : String) (inner : GoError) (after : String)
  deriving DecidableEq

namespace GoError

def text : GoError → String
  | invalidIntent => "invalid settlement intent"
  | unknown => "settlement outcome is unknown; retry prohibited"
  | held => "settlement held pending a new authorized instruction or manual resolution"
  | mismatch => "cross-system settlement facts mismatch"
  | corridorUnavailable => "no approved corridor route is available"
  | liquidityUnavailable => "liquidity evidence is unavailable"
  | sagaConflict => "settlement saga transition conflict"
  | sagaPayloadChanged => "idempotency key is already bound to a different payload"
  | sagaTerminal => "settlement saga is already terminal"
  | reconciliationUnresolved => "UNKNOWN settlement saga remains unresolved"
  | unknownSagaNotLeased => "UNKNOWN settlement saga is not leased by this reconciliation worker"
  | resolutionApproval => "valid settlement resolution authorization is required"
  | noRows => "sql: no rows in result set"
  | new text => text
  | database text => text
  | wrap before inner after => before ++ inner.text ++ after

/-- `fmt.Errorf("%w: %v", outer, cause)`: only `outer` stays recognisable. -/
def wrapWith (outer cause : GoError) : GoError := wrap "" outer (": " ++ cause.text)

/-- `fmt.Errorf(context + ": %w", cause)`. -/
def inContext (context : String) (cause : GoError) : GoError := wrap (context ++ ": ") cause ""

end GoError

end UmojaFlowOS
