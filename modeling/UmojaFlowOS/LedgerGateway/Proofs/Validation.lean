import Mathlib.Data.String.Basic
import UmojaFlowOS.LedgerGateway.ServiceContract

/-!
# What the control plane accepts of a validation

The gateway keeps the net of each currency in an `i128`, in the order of the currencies; the
parser keeps it in a JavaScript number, in the order of their first postings. As long as the
amounts and the running sums are safe integers, both tables hold the nets of the postings.
-/

namespace UmojaFlowOS.LedgerGateway

open TypeScript Zod

/-! ## Sums of postings -/

def net (currency : String) : List Posting → Int
  | [] => 0
  | posting :: postings =>
    (if posting.currency = currency then posting.debitMinor - posting.creditMinor else 0) +
      net currency postings

def debits (currency : String) (postings : List Posting) : Int :=
  ((postings.filter (·.currency = currency)).map Posting.debitMinor).sum

def credits (currency : String) (postings : List Posting) : Int :=
  ((postings.filter (·.currency = currency)).map Posting.creditMinor).sum

/-- The partial sums of a currency, after each debit and after each credit. -/
def partialSums (currency : String) (sum : Int) : List Posting → List Int
  | [] => []
  | posting :: postings =>
    if posting.currency = currency then
      (sum + posting.debitMinor) :: (sum + posting.debitMinor - posting.creditMinor) ::
        partialSums currency (sum + posting.debitMinor - posting.creditMinor) postings
    else partialSums currency sum postings

/-- Every partial sum of every currency is a safe integer. -/
def SafeSums (postings : List Posting) : Prop :=
  ∀ currency, ∀ sum ∈ partialSums currency 0 postings, isSafeInteger sum = true

def SafeAmounts (postings : List Posting) : Prop :=
  ∀ posting ∈ postings,
    isSafeInteger posting.debitMinor = true ∧ isSafeInteger posting.creditMinor = true

theorem net_append (currency : String) (before after : List Posting) :
    net currency (before ++ after) = net currency before + net currency after := by
  induction before with
  | nil => simp [net]
  | cons posting before ih => rw [List.cons_append, net, net, ih, Int.add_assoc]

theorem net_eq (currency : String) (postings : List Posting) :
    net currency postings = debits currency postings - credits currency postings := by
  induction postings with
  | nil => rfl
  | cons posting postings ih => grind [net, debits, credits]

/-! ## Tables of nets -/

/-- The table has one entry for each currency of the postings, with its net. -/
structure Tracks (entries : List (String × Int)) (postings : List Posting) : Prop where
  unique : (entries.map Prod.fst).Nodup
  lookup : ∀ currency, entries.lookup currency =
    if currency ∈ postings.map Posting.currency then some (net currency postings) else none

variable {currency : String}

theorem lookup_of_mem {entries : List (String × Int)} (unique : (entries.map Prod.fst).Nodup)
    (member : (currency, amount) ∈ entries) : entries.lookup currency = some amount := by
  induction entries with
  | nil => cases member
  | cons entry entries ih => grind

theorem mem_of_lookup {entries : List (String × Int)}
    (found : entries.lookup currency = some amount) : (currency, amount) ∈ entries := by
  induction entries with
  | nil => cases found
  | cons entry entries ih => grind

theorem net_of_not_mem
    (absent : currency ∉ postings.map Posting.currency) : net currency postings = 0 := by
  induction postings with
  | nil => rfl
  | cons posting postings ih =>
    rw [List.map_cons, List.mem_cons, not_or] at absent
    rw [net, if_neg (Ne.symm absent.1), ih absent.2, Int.add_zero]

theorem net_concat_self (postings : List Posting) (posting : Posting) :
    net posting.currency (postings ++ [posting]) =
      net posting.currency postings + posting.debitMinor - posting.creditMinor := by
  rw [net_append, net, if_pos rfl, net]
  omega

theorem net_concat_other (postings : List Posting) (other : posting.currency ≠ currency) :
    net currency (postings ++ [posting]) = net currency postings := by
  rw [net_append, net, if_neg other, net, Int.add_zero, Int.add_zero]

namespace Tracks

variable {entries : List (String × Int)} {postings : List Posting}

theorem nil : Tracks [] [] := ⟨List.nodup_nil, fun _ => rfl⟩

section
variable (tracks : Tracks entries postings)
include tracks

theorem current (currency : String) : (entries.lookup currency).getD 0 = net currency postings := by
  rw [tracks.lookup]
  split
  · rfl
  · rename_i absent
    rw [net_of_not_mem absent, Option.getD_none]

theorem concat (unique : (entries'.map Prod.fst).Nodup)
    (changed : entries'.lookup posting.currency =
      some (net posting.currency postings + posting.debitMinor - posting.creditMinor))
    (kept : ∀ currency ≠ posting.currency, entries'.lookup currency = entries.lookup currency) :
    Tracks entries' (postings ++ [posting]) := by
  refine ⟨unique, fun currency => ?_⟩
  by_cases same : posting.currency = currency
  · subst same
    rw [changed, net_concat_self, if_pos (by simp)]
  rw [kept currency (Ne.symm same), tracks.lookup, net_concat_other _ same]
  have members : currency ∈ (postings ++ [posting]).map Posting.currency ↔
      currency ∈ postings.map Posting.currency := by
    simp [Ne.symm same]
  simp only [members]

theorem entry {amount : Int} (member : (currency, amount) ∈ entries) :
    currency ∈ postings.map Posting.currency ∧ amount = net currency postings := by
  have found := tracks.lookup currency
  rw [lookup_of_mem tracks.unique member] at found
  split at found
  · rename_i occurs
    exact ⟨occurs, Option.some.inj found⟩
  · cases found

theorem all_zero_iff :
    (∀ entry ∈ entries, entry.2 = 0) ↔ ∀ currency, net currency postings = 0 := by
  constructor
  · intro zero currency
    by_cases occurs : currency ∈ postings.map Posting.currency
    · have found := tracks.lookup currency
      rw [if_pos occurs] at found
      exact zero _ (mem_of_lookup found)
    · exact net_of_not_mem occurs
  rintro zero ⟨currency, amount⟩ member
  rw [(tracks.entry member).2]
  exact zero currency

end

end Tracks

/-! ## Sums that stay safe -/

/-- The sums of the postings that are left are safe, starting from those of the postings
already counted. -/
def SafeFrom (counted postings : List Posting) : Prop :=
  ∀ currency, ∀ sum ∈ partialSums currency (net currency counted) postings, isSafeInteger sum = true

theorem SafeSums.start (safe : SafeSums postings) : SafeFrom [] postings := safe

namespace SafeFrom

variable {counted postings : List Posting} {posting : Posting}

section
variable (safe : SafeFrom counted (posting :: postings))
include safe

theorem debit :
    isSafeInteger (net posting.currency counted + posting.debitMinor) = true := by
  refine safe posting.currency _ ?_
  rw [partialSums, if_pos rfl]
  simp

theorem credit :
    isSafeInteger (net posting.currency counted + posting.debitMinor - posting.creditMinor) =
      true := by
  refine safe posting.currency _ ?_
  rw [partialSums, if_pos rfl]
  exact List.mem_cons_of_mem _ List.mem_cons_self

theorem tail :
    SafeFrom (counted ++ [posting]) postings := by
  intro currency sum member
  refine safe currency sum ?_
  rw [partialSums]
  by_cases same : posting.currency = currency
  · subst same
    rw [net_concat_self] at member
    rw [if_pos rfl]
    exact List.mem_cons_of_mem _ (by simp [member])
  rw [net_concat_other _ same] at member
  rw [if_neg same]
  exact member

end

end SafeFrom

theorem net_safe (safe : SafeFrom counted postings)
    (start : isSafeInteger (net currency counted) = true) :
    isSafeInteger (net currency (counted ++ postings)) = true := by
  induction postings generalizing counted with
  | nil => rwa [List.append_nil]
  | cons posting postings ih =>
    rw [List.append_cons]
    refine ih safe.tail ?_
    by_cases same : posting.currency = currency
    · subst same
      rw [net_concat_self]
      exact safe.credit
    · rw [net_concat_other _ same]
      exact start

/-! ## The table of the parser -/

theorem lookup_setEntry (key : String) (value : Int) (entries : List (String × Int))
    (currency : String) : (setEntry key value entries).lookup currency =
      if currency = key then some value else entries.lookup currency := by
  induction entries with
  | nil | cons => grind [setEntry]

theorem mem_keys_setEntry (member : currency ∈ (setEntry key value entries).map Prod.fst) :
    currency = key ∨ currency ∈ entries.map Prod.fst := by
  induction entries with
  | nil | cons => grind [setEntry]

theorem nodup_setEntry (unique : (entries.map Prod.fst).Nodup) :
    ((setEntry key value entries).map Prod.fst).Nodup := by
  induction entries with
  | nil | cons => grind [setEntry, mem_keys_setEntry]

/-- The parser derives the nets of the postings: rounding changes none of the sums. -/
theorem tracks_netByCurrency
    (postings : List Posting) (tracks : Tracks nets counted) (safe : SafeFrom counted postings) :
    Tracks (netByCurrency nets postings) (counted ++ postings) := by
  induction postings generalizing nets counted with
  | nil => rwa [List.append_nil]
  | cons posting postings ih =>
    rw [List.append_cons]
    refine ih ?_ safe.tail
    have exact_ : sub (TypeScript.add ((nets.lookup posting.currency).getD 0) posting.debitMinor)
        posting.creditMinor =
        net posting.currency counted + posting.debitMinor - posting.creditMinor := by
      rw [tracks.current, TypeScript.add, toNumber_of_safe safe.debit, sub,
        toNumber_of_safe safe.credit]
    refine tracks.concat (nodup_setEntry tracks.unique) ?_ fun currency different => ?_
    · rw [lookup_setEntry, if_pos rfl, exact_]
    · rw [lookup_setEntry, if_neg different]

/-! ## The table of the gateway -/

theorem wrap128_of_safe (small : n.natAbs < 2 ^ 54) : wrap128 n = n := by
  unfold wrap128
  rw [Int.bmod_eq_of_le]
  all_goals omega

abbrev Sorted (balances : Balances) : Prop :=
  (balances.map Prod.fst).Pairwise (· < ·)

variable {balances : Balances}

theorem Sorted.nodup (sorted : Sorted balances) : (balances.map Prod.fst).Nodup :=
  List.Pairwise.imp (fun before same => absurd (same ▸ before) (String.lt_irrefl _)) sorted

theorem mem_keys_add (member : key ∈ (balances.add currency change).map Prod.fst) :
    key = currency ∨ key ∈ balances.map Prod.fst := by
  induction balances with
  | nil | cons => grind [Balances.add]

theorem Sorted.add (sorted : Sorted balances) (currency : String)
    (change : Int) : Sorted (balances.add currency change) := by
  induction balances with
  | nil => exact List.pairwise_singleton _ _
  | cons balance balances ih =>
    obtain ⟨key, amount⟩ := balance
    rw [Balances.add]
    split
    · exact sorted
    rename_i different
    have tail := List.pairwise_cons.mp sorted
    split
    · rename_i before
      refine List.pairwise_cons.mpr ⟨fun other member => ?_, sorted⟩
      rcases List.mem_cons.mp member with same | later
      · rw [same]
        exact before
      · exact String.lt_trans before (tail.1 other later)
    rename_i after
    refine List.pairwise_cons.mpr ⟨fun other member => ?_, ih tail.2⟩
    rcases mem_keys_add member with same | found
    · rw [same]
      exact lt_of_le_of_ne (not_lt.mp after) (Ne.symm different)
    · exact tail.1 other found

theorem lookup_of_lt
    (before : ∀ key ∈ balances.map Prod.fst, currency < key) : balances.lookup currency = none := by
  induction balances with
  | nil => rfl
  | cons balance balances ih =>
    have different := before balance.1 (by simp)
    grind

theorem lookup_add (sorted : Sorted balances) (currency : String) (change : Int) (key : String) :
    (balances.add currency change).lookup key =
      if key = currency then some (wrap128 ((balances.lookup currency).getD 0 + change))
      else balances.lookup key := by
  induction balances with
  | nil => grind [Balances.add]
  | cons balance balances ih =>
    have tail := List.pairwise_cons.mp sorted
    have absent (before : currency < balance.1) : balances.lookup currency = none :=
      lookup_of_lt fun other member => String.lt_trans before (tail.1 other member)
    grind [Balances.add]

/-- The postings that the gateway does not refuse as malformed. -/
def WellFormed (posting : Posting) : Prop :=
  blank posting.accountID = false ∧ blank posting.currency = false ∧ 0 ≤ posting.debitMinor ∧
    0 ≤ posting.creditMinor

theorem balancesFrom_cons (passed : balancesFrom balances (posting :: postings) = .ok result) :
    WellFormed posting ∧ balancesFrom (balances.add posting.currency
      (wrap128 (posting.debitMinor - posting.creditMinor))) postings = .ok result := by
  grind [balancesFrom, WellFormed]

theorem wellFormed_of_balancesFrom (passed : balancesFrom balances postings = .ok result) :
    ∀ posting ∈ postings, WellFormed posting := by
  induction postings generalizing balances with
  | nil => simp
  | cons posting postings ih =>
    obtain ⟨formed, rest⟩ := balancesFrom_cons passed
    exact List.forall_mem_cons.mpr ⟨formed, ih rest⟩

theorem wrap128_add (a b c : Int) :
    wrap128 (wrap128 (a + wrap128 b) + c) = wrap128 (a + (b + c)) := by
  simp [wrap128, Int.add_assoc]

/-- The gateway computes the nets of the postings, as far as an `i128` keeps them. -/
theorem lookup_balancesFrom
    (sorted : Sorted balances) (passed : balancesFrom balances postings = .ok result) :
    Sorted result ∧ ∀ currency, result.lookup currency =
      if currency ∈ postings.map Posting.currency then
        some (wrap128 ((balances.lookup currency).getD 0 + net currency postings))
      else balances.lookup currency := by
  induction postings generalizing balances with
  | nil =>
    cases passed
    exact ⟨sorted, fun _ => rfl⟩
  | cons posting postings ih =>
    obtain ⟨ordered, found⟩ := ih (sorted.add _ _) (balancesFrom_cons passed).2
    refine ⟨ordered, fun currency => ?_⟩
    rw [found, lookup_add sorted, net]
    simp only [List.map_cons, List.mem_cons]
    by_cases same : currency = posting.currency
    · subst same
      simp only [if_true, Option.getD_some, true_or, wrap128_add]
      split
      · rfl
      rename_i absent
      rw [net_of_not_mem absent, Int.add_zero]
      simp [wrap128]
    · simp only [if_neg (Ne.symm same), same, if_false, false_or, Int.zero_add]

/-- As long as the sums are safe, nothing wraps around. -/
theorem tracks_balancesFrom (safe : SafeSums postings)
    (passed : balancesFrom [] postings = .ok result) : Tracks result postings := by
  obtain ⟨ordered, found⟩ := lookup_balancesFrom List.Pairwise.nil passed
  refine ⟨ordered.nodup, fun currency => ?_⟩
  have small : isSafeInteger (net currency postings) = true := net_safe safe.start rfl
  rw [isSafeInteger_iff] at small
  rw [found, List.lookup_nil, Option.getD_none, Int.zero_add, wrap128_of_safe (by omega)]

/-! ## The verdict -/

/-- What an imbalance in an envelope says of the postings. -/
def Verdict (postings : List Posting) : Option (String × Int) → Prop
  | none => ∀ currency, net currency postings = 0
  | some (currency, netMinor) =>
    currency ∈ postings.map Posting.currency ∧ netMinor = net currency postings ∧ netMinor ≠ 0

variable {postings : List Posting}

theorem balancesFrom_ne_unbalanced (balances : Balances) (postings : List Posting)
    (currency : String) (netMinor : Int) :
    balancesFrom balances postings ≠ .error (.unbalanced currency netMinor) := by
  induction postings generalizing balances with
  | nil | cons => grind [balancesFrom]

theorem validateBalanced_of_ok (some_ : postings ≠ [])
    (passed : balancesFrom [] postings = .ok balances) :
    validateBalanced postings =
      match balances.find? fun balance => balance.2 ≠ 0 with
      | some (currency, netMinor) => .error (.unbalanced currency netMinor)
      | none => .ok () := by
  rw [validateBalanced, if_neg some_, passed]
  rfl

theorem balancesFrom_of_emitted (emitted : validatePostings postings = .ok envelope) :
    postings ≠ [] ∧ ∃ balances, balancesFrom [] postings = .ok balances := by
  unfold validatePostings at emitted
  by_cases empty : postings = []
  · rw [validateBalanced, if_pos empty] at emitted
    cases emitted
  refine ⟨empty, ?_⟩
  rcases passed : balancesFrom [] postings with err | balances
  case ok => exact ⟨balances, rfl⟩
  have failed : validateBalanced postings = .error err := by
    rw [validateBalanced, if_neg empty, passed]
    rfl
  rw [failed] at emitted
  cases err with
  | unbalanced currency netMinor =>
    exact absurd passed (balancesFrom_ne_unbalanced _ _ currency netMinor)
  | _ => cases emitted

/-- An envelope that is written is right about the balance. -/
theorem validatePostings_ok (sums : SafeSums postings)
    (emitted : validatePostings postings = .ok envelope) :
    ∃ imbalance, envelope = validationEnvelope postings imbalance ∧ Verdict postings imbalance ∧
      postings ≠ [] ∧ ∀ posting ∈ postings, WellFormed posting := by
  obtain ⟨some_, balances, passed⟩ := balancesFrom_of_emitted emitted
  have tracks : Tracks balances postings := tracks_balancesFrom sums passed
  have formed := wellFormed_of_balancesFrom passed
  rw [validatePostings, validateBalanced_of_ok some_ passed] at emitted
  cases found : balances.find? fun balance => balance.2 ≠ 0 with
  | none =>
    rw [found] at emitted
    refine ⟨none, (Except.ok.inj emitted).symm, ?_, some_, formed⟩
    refine tracks.all_zero_iff.mp fun entry member => ?_
    simpa using List.find?_eq_none.mp found entry member
  | some balance =>
    obtain ⟨currency, netMinor⟩ := balance
    rw [found] at emitted
    refine ⟨some (currency, netMinor), (Except.ok.inj emitted).symm, ?_, some_, formed⟩
    obtain ⟨occurs, same⟩ := tracks.entry (List.mem_of_find?_eq_some found)
    exact ⟨occurs, same, by simpa using List.find?_some found⟩

/-! ## The envelope -/

theorem ne_empty_of_not_blank {text : String} (written : blank text = false) : text ≠ "" := by
  rintro rfl
  cases written

theorem postingSchema_received [Zod] (formed : WellFormed posting)
    (debit : isSafeInteger posting.debitMinor = true)
    (credit : isSafeInteger posting.creditMinor = true) :
    postingSchema posting.json.received = some posting := by
  obtain ⟨account, currency, debited, credited⟩ := formed
  unfold postingSchema Posting.json
  rw [strict_received (by simp only [List.map_cons, List.map_nil]; decide)]
  simp only [Option.bind_eq_bind, Option.bind_some, Json.receivedFields, field_self, field_other,
    ne_eq, not_false_eq_true, String.reduceEq, intFrom_received, debit, credit, debited, credited,
    and_self, if_true]
  simp only [Json.received, text_string, if_neg (ne_empty_of_not_blank account),
    if_neg (ne_empty_of_not_blank currency), Option.bind_some]
  rfl

theorem mapM_received [Zod] (amounts : SafeAmounts postings)
    (formed : ∀ posting ∈ postings, WellFormed posting) :
    ((postings.map Posting.json).map Json.received).mapM postingSchema = some postings := by
  induction postings with
  | nil => rfl
  | cons posting postings ih =>
    obtain ⟨debit, credit⟩ := amounts posting List.mem_cons_self
    have head := postingSchema_received (formed posting List.mem_cons_self) debit credit
    have tail := ih (fun other member => amounts other (by simp [member]))
      fun other member => formed other (by simp [member])
    rw [List.map_cons, List.map_cons, List.mapM_cons, head, tail]
    rfl

theorem posting_without_authority (posting : Posting) :
    ¬ CarriesAuthority posting.json.received := by
  refine object_without_authority ?_ ?_
  · simp only [Json.receivedFields, List.map_cons, List.map_nil]
    decide +kernel
  · simp [Json.receivedFields, Json.received]

theorem imbalance_without_authority (imbalance : Option (String × Int)) :
    ¬ CarriesAuthority (imbalance.elim Json.null fun (currency, netMinor) =>
      .object [("currency", .string currency), ("net_minor", .integer netMinor)]).received := by
  rcases imbalance with _ | ⟨currency, netMinor⟩
  · simp [Json.received]
  refine object_without_authority ?_ ?_
  · simp only [Json.receivedFields, List.map_cons, List.map_nil]
    decide +kernel
  · simp [Json.receivedFields, Json.received]

theorem validationEnvelope_without_authority (postings : List Posting)
    (imbalance : Option (String × Int)) :
    assertNoExecutionAuthority (validationEnvelope postings imbalance).received = .ok () := by
  refine assert_ok (object_without_authority ?_ ?_)
  · simp only [Json.receivedFields, List.map_cons, List.map_nil]
    decide +kernel
  have nested := imbalance_without_authority imbalance
  simp only [Json.receivedFields, List.forall_mem_cons, nested]
  simp only [Json.received, not_carries_string, not_carries_bool, not_false_eq_true, true_and,
    List.not_mem_nil, false_imp_iff, implies_true, and_true]
  rw [carries_array_iff, Json.receivedItems_eq, List.map_map]
  rintro ⟨item, member, carries⟩
  obtain ⟨posting, -, rfl⟩ := List.mem_map.mp member
  exact posting_without_authority posting carries

theorem imbalanceSchema_received [Zod] (named : currency ≠ "") (safe : isSafeInteger netMinor = true) :
    imbalanceSchema (Json.object [("currency", .string currency),
      ("net_minor", .integer netMinor)]).received = some (currency, netMinor) := by
  unfold imbalanceSchema
  rw [strict_received (by simp only [List.map_cons, List.map_nil]; decide)]
  simp only [Option.bind_eq_bind, Option.bind_some, Json.receivedFields, field_self, field_other,
    ne_eq, not_false_eq_true, String.reduceEq, int_received, if_pos safe]
  simp only [Json.received, text_string, if_neg named, Option.bind_some]
  rfl

variable {imbalance : Option (String × Int)}

theorem nullable_imbalance_received [Zod] (sums : SafeSums postings)
    (formed : ∀ posting ∈ postings, WellFormed posting) (verdict : Verdict postings imbalance) :
    nullable imbalanceSchema (imbalance.elim Json.null fun (currency, netMinor) =>
      .object [("currency", .string currency), ("net_minor", .integer netMinor)]).received =
      some imbalance := by
  rcases imbalance with _ | ⟨currency, netMinor⟩
  · exact nullable_null _
  obtain ⟨occurs, same, _⟩ := verdict
  obtain ⟨posting, member, rfl⟩ := List.mem_map.mp occurs
  have safe : isSafeInteger netMinor = true := by
    rw [same]
    exact net_safe sums.start (by decide : isSafeInteger 0 = true)
  have taken := imbalanceSchema_received (ne_empty_of_not_blank (formed posting member).2.1) safe
  rw [Option.elim_some, nullable_other _ (Json.received (.object _)) nofun, taken]
  rfl

/-- The schema takes the envelope and gives back its content. -/
theorem validationSchema_received [Zod] (some_ : postings ≠ [])
    (amounts : SafeAmounts postings) (sums : SafeSums postings)
    (formed : ∀ posting ∈ postings, WellFormed posting) (verdict : Verdict postings imbalance) :
    validationSchema (validationEnvelope postings imbalance).received =
      some ⟨postings, imbalance.isNone, imbalance⟩ := by
  have items : nonempty postingSchema (Json.array (postings.map Posting.json)).received =
      some postings := by
    rw [Json.received, Json.receivedItems_eq, nonempty_array _ _ (by simpa using some_)]
    exact mapM_received amounts formed
  unfold validationSchema validationEnvelope
  rw [strict_received (by simp only [List.map_cons, List.map_nil]; decide +kernel)]
  simp only [Option.bind_eq_bind, Option.bind_some, Json.receivedFields, field_self, field_other,
    ne_eq, not_false_eq_true, String.reduceEq, literal_received, items,
    nullable_imbalance_received sums formed verdict]
  rw [Json.received, boolean_bool]
  rfl

/-! ## The parser -/

theorem derived_balanced_iff (tracks : Tracks nets postings) :
    (nets.filter fun entry => entry.2 ≠ 0).isEmpty = true ↔
      ∀ currency, net currency postings = 0 := by
  rw [← tracks.all_zero_iff, List.isEmpty_iff, List.filter_eq_nil_iff]
  simp

theorem tracks_derived (sums : SafeSums postings) : Tracks (netByCurrency [] postings) postings :=
  tracks_netByCurrency postings Tracks.nil sums.start

/-- An envelope with a right verdict passes the checks after the schema. -/
theorem parse_of_verdict [Zod] (authority : assertNoExecutionAuthority input = .ok ())
    (taken : validationSchema input = some ⟨postings, imbalance.isNone, imbalance⟩)
    (sums : SafeSums postings) (verdict : Verdict postings imbalance) :
    parseRustLedgerValidation input = .ok ⟨postings, imbalance.isNone, imbalance⟩ := by
  have tracks := tracks_derived sums
  have balanced := derived_balanced_iff tracks
  unfold parseRustLedgerValidation
  rw [authority, parse, taken]
  simp only [Option.elim_some, bind, Except.bind]
  rcases imbalance with _ | ⟨currency, netMinor⟩
  · rw [balanced.mpr verdict]
    simp
  obtain ⟨occurs, same, nonzero⟩ := verdict
  have unbalanced : ((netByCurrency [] postings).filter fun entry => entry.2 ≠ 0).isEmpty =
      false := by
    refine Bool.eq_false_of_not_eq_true fun empty => nonzero ?_
    rw [same]
    exact balanced.mp empty currency
  have found : (netByCurrency [] postings).lookup currency = some netMinor := by
    rw [tracks.lookup, if_pos occurs, same]
  rw [unbalanced]
  simp [found]

theorem derived_of_accepted [Zod] (accepted : parseRustLedgerValidation input = .ok validation)
    (balanced : validation.balanced = true) :
    ((netByCurrency [] validation.postings).filter fun entry => entry.2 ≠ 0).isEmpty = true := by
  unfold parseRustLedgerValidation at accepted
  rcases authority : assertNoExecutionAuthority input with err | _
  · rw [authority] at accepted
    cases accepted
  rcases taken : validationSchema input with _ | envelope
  · rw [authority, parse, taken] at accepted
    cases accepted
  rw [authority, parse, taken] at accepted
  simp only [Option.elim_some, bind, Except.bind] at accepted
  split at accepted
  · cases accepted
  rename_i derived
  have same : envelope = validation := by grind
  rw [← same] at balanced ⊢
  rw [not_not] at derived
  rw [derived, balanced]

/-- For postings with safe amounts and safe partial sums, the envelope of the gateway is
accepted with the content it was written with, and an envelope that says `balanced` is
accepted only if the debits and the credits of each currency agree. -/
theorem validation_is_consistent [Zod] (postings : List Posting) (amounts : SafeAmounts postings)
    (sums : SafeSums postings) :
    (∀ envelope, validatePostings postings = .ok envelope →
      ∃ imbalance, envelope = validationEnvelope postings imbalance ∧
        parseRustLedgerValidation envelope.received = .ok ⟨postings, imbalance.isNone, imbalance⟩) ∧
    (∀ input validation, parseRustLedgerValidation input = .ok validation →
      validation.postings = postings → validation.balanced = true →
        ∀ currency, debits currency postings = credits currency postings) := by
  constructor
  · intro envelope emitted
    obtain ⟨imbalance, written, verdict, some_, formed⟩ := validatePostings_ok sums emitted
    refine ⟨imbalance, written, ?_⟩
    rw [written]
    exact parse_of_verdict (validationEnvelope_without_authority postings imbalance)
      (validationSchema_received some_ amounts sums formed verdict) sums verdict
  intro input validation accepted carried balanced currency
  have derived := derived_of_accepted accepted balanced
  rw [carried] at derived
  have zero := (derived_balanced_iff (tracks_derived sums)).mp derived currency
  rw [net_eq] at zero
  omega

def balancedPair : List Posting := [⟨"cash", "KES", 100, 0⟩, ⟨"clearing", "KES", 0, 100⟩]

/-- A debit and its credit are accepted as balanced. -/
theorem balanced_pair_is_consistent :
    SafeAmounts balancedPair ∧ SafeSums balancedPair ∧
      validatePostings balancedPair = .ok (validationEnvelope balancedPair none) ∧
      @parseRustLedgerValidation refusing (validationEnvelope balancedPair none).received =
        .ok ⟨balancedPair, true, none⟩ ∧
      debits "KES" balancedPair = credits "KES" balancedPair := by
  have amounts : SafeAmounts balancedPair := by
    unfold SafeAmounts
    decide
  have sums : SafeSums balancedPair := by
    intro currency sum member
    by_cases same : "KES" = currency <;> simp [balancedPair, partialSums, same] at member
    rcases member with rfl | rfl | rfl | rfl <;> decide
  have emitted : validatePostings balancedPair = .ok (validationEnvelope balancedPair none) := by
    have passed : validateBalanced balancedPair = .ok () := by rfl
    rw [validatePostings, passed]
  obtain ⟨accepted, agrees⟩ := @validation_is_consistent refusing balancedPair amounts sums
  obtain ⟨imbalance, written, parsed⟩ := accepted _ emitted
  have balanced : imbalance = none := by
    rcases imbalance with _ | imbalance
    · rfl
    · simp [validationEnvelope] at written
  rw [balanced] at parsed
  exact ⟨amounts, sums, emitted, parsed, agrees _ _ parsed rfl rfl "KES"⟩

def largeDebit : List Posting :=
  [⟨"cash", "KES", 0, maxSafeInteger⟩, ⟨"clearing", "KES", 2 * maxSafeInteger, maxSafeInteger⟩]

/-- The postings balance and no partial sum leaves the safe range; the schema refuses the
envelope for the debit in it. -/
theorem large_debit_refused :
    SafeSums largeDebit ∧
      validatePostings largeDebit = .ok (validationEnvelope largeDebit none) ∧
      @parseRustLedgerValidation refusing (validationEnvelope largeDebit none).received =
        .error .schema := by
  refine ⟨fun currency sum member => ?_, rfl, by decide +kernel⟩
  by_cases same : "KES" = currency <;> simp [largeDebit, partialSums, same] at member
  rcases member with rfl | rfl | rfl | rfl <;> decide

end UmojaFlowOS.LedgerGateway
