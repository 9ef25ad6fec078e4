import UmojaFlowOS.Multirail.Counterparts

/-!
# Repeated calls in the counterparts

The Rust, TypeScript and Python coordinators remember accepted results only, and
nothing while a call runs. So every call that finds no result submits to the primary
once.
-/

namespace UmojaFlowOS.Multirail

open Interaction

inductive Peer where
  | rust
  | typescript
  | python

abbrev Peer.Record : Peer → Type
  | rust => ResultRecord
  | typescript => PeerRecord
  | python => PeerRecord

def Peer.execute : (peer : Peer) → PeerIntent → Rail → Rail →
    PeerExecution peer.Record (Except PeerError peer.Record)
  | rust => rustExecute
  | typescript => typescriptExecute
  | python => pythonExecute

def ResultRecord.accepted (record : ResultRecord) : Bool := record.status.accepted

def PeerRecord.accepted (record : PeerRecord) : Bool := record.submission.status.accepted

def Peer.accepted : (peer : Peer) → peer.Record → Bool
  | rust => ResultRecord.accepted
  | typescript => PeerRecord.accepted
  | python => PeerRecord.accepted

section
variable {ρ : Type}

def misses (key : String) : Event (peerRequests ρ) → Bool
  | ⟨.lookup asked, none⟩ => asked = key
  | _ => false

/-- The primary was submitted to under the key. -/
def submitsPrimary (key : String) : Event (peerRequests ρ) → Bool
  | ⟨.submit .primary intent, _⟩ => intent.idempotencyKey = key
  | _ => false

/-- An accepted result was recorded under the key. -/
def recordsAccepted (accepted : ρ → Bool) (key : String) : Event (peerRequests ρ) → Bool
  | ⟨.record recorded result, _⟩ => recorded = key && accepted result
  | _ => false

abbrev PeerConfig (ρ : Type) :=
  Config (peerRequests ρ) PeerCaller (Except PeerError ρ) (String → Option ρ)

/-! ## One call -/

/-- As many submissions as misses. -/
def Balanced (key : String) (past : List (Event (peerRequests ρ))) : Prop :=
  (past.filter (submitsPrimary key)).length = (past.filter (misses key)).length

/-- Before every request, no more submissions than misses; only accepted results are recorded. -/
abbrev peerContract (accepted : ρ → Bool) (key : String) :
    Contract (peerRequests ρ) (List (Event (peerRequests ρ))) :=
  onHistory anyAnswer fun past request =>
    (past.filter (submitsPrimary key)).length ≤ (past.filter (misses key)).length ∧
      ∀ recorded result, request = .record recorded result → accepted result = true

/-- After this past, the program keeps to the contract and ends with as many submissions as
misses. -/
abbrev EndsBalanced {α : Type} (accepted : ρ → Bool) (key : String)
    (past : List (Event (peerRequests ρ))) (program : PeerExecution ρ α) : Prop :=
  Meets (peerContract accepted key) (fun after _ => Balanced key after) past program

variable {accepted : ρ → Bool} {key : String} {past : List (Event (peerRequests ρ))} {i : PeerIntent}

theorem Balanced.snoc (balanced : Balanced key past) (other : submitsPrimary key event = false)
    (hit : misses key event = false) : Balanced key (past ++ [event]) := by
  simpa [Balanced, List.filter_append, List.filter_cons, other, hit] using balanced

theorem Balanced.miss (balanced : Balanced key past) :
    Balanced key (past ++ [⟨.lookup i.idempotencyKey, none⟩] ++ [⟨.submit .primary i, reply⟩]) := by
  unfold Balanced at *
  by_cases same : i.idempotencyKey = key <;>
    simp [List.filter_append, submitsPrimary, misses, same, balanced]

theorem balanced_ask {α : Type} {request : PeerRequest ρ}
    {rest : request.Answer → PeerExecution ρ α} (balanced : Balanced key past)
    (other : ∀ answer : request.Answer, submitsPrimary key ⟨request, answer⟩ = false)
    (hit : ∀ answer : request.Answer, misses key ⟨request, answer⟩ = false)
    (taken : ∀ recorded result, request = .record recorded result → accepted result = true)
    (later : ∀ answer, Balanced key (past ++ [⟨request, answer⟩]) →
      EndsBalanced accepted key (past ++ [⟨request, answer⟩]) (rest answer)) :
    EndsBalanced accepted key past (Program.ask (P := peerRequests ρ) request >>= rest) :=
  meets_ask_bind.mpr ⟨⟨Nat.le_of_eq balanced, taken⟩, fun answer _ =>
    later answer (balanced.snoc (other answer) (hit answer))⟩

theorem balanced_record {recorded : String} {result : ρ} (balanced : Balanced key past)
    (taken : accepted result = true) :
    EndsBalanced accepted key past (do
      let kept ← Program.ask (P := peerRequests ρ) (.record recorded result)
      return (.ok kept : Except PeerError ρ)) := by
  refine balanced_ask balanced (fun _ => rfl) (fun _ => rfl) ?_ fun _ balanced => balanced
  rintro _ _ ⟨⟩
  exact taken

theorem balanced_lookup (hit : ∀ past record, Balanced key past →
      EndsBalanced accepted key past (rest (some record)))
    (asks : rest none = (Program.ask (P := peerRequests ρ) (.submit .primary i) >>= asked))
    (later : ∀ past reply, Balanced key past → EndsBalanced accepted key past (asked reply)) :
    EndsBalanced accepted key []
      (Program.ask (P := peerRequests ρ) (.lookup i.idempotencyKey) >>= rest) := by
  refine meets_ask_bind.mpr ⟨⟨Nat.le_refl 0, nofun⟩, fun known _ => ?_⟩
  rcases known with _ | record
  case some => exact hit _ record (by simp [Balanced, submitsPrimary, misses])
  rw [asks]
  refine meets_ask_bind.mpr ⟨⟨?_, nofun⟩, fun reply _ => ?_⟩
  · simp [submitsPrimary]
  · exact later _ reply (Balanced.miss rfl)

/-- A step takes a key into the map where it records an accepted result under it. -/
theorem servePeer_none_iff {records later : String → Option ρ} {request : PeerRequest ρ}
    {answer : request.Answer} (done : servePeer records j caller request choice = some (answer, later))
    (taken : ∀ recorded result, request = .record recorded result → accepted result = true) :
    later key = none ↔
      records key = none ∧ recordsAccepted accepted key ⟨request, answer⟩ = false := by
  cases request with
  | record recorded result =>
    have taken := taken recorded result rfl
    rcases choice with _ | reply
    case some => cases done
    simp only [servePeer] at done
    split at done
    · rename_i kept
      cases done
      by_cases same : recorded = key
      · simp [recordsAccepted, ← same, kept, taken]
      · simp [recordsAccepted, same]
    · rename_i fresh
      cases done
      by_cases same : recorded = key
      · simp [recordsAccepted, same, taken]
      · simp [recordsAccepted, same, Function.update_of_ne (Ne.symm same)]
  | lookup | submit | query =>
    rcases choice with _ | reply <;> cases done
    exact (and_iff_left rfl).symm

end

theorem rustFallBack_balanced (balanced : Balanced key past) :
    EndsBalanced ResultRecord.accepted key past (rustFallBack i s safe) := by
  unfold rustFallBack
  split
  · exact balanced
  refine balanced_ask balanced (fun _ => rfl) (fun _ => rfl) nofun fun reply balanced => ?_
  rcases reply with fault | x
  · exact balanced
  dsimp only
  split
  · exact balanced
  · rename_i taken
    exact balanced_record balanced (by simpa [ResultRecord.accepted] using taken)

theorem decideOn_balanced (balanced : Balanced key past) :
    EndsBalanced PeerRecord.accepted key past (decideOn text i p s first) := by
  unfold decideOn
  split
  · rename_i taken
    exact balanced_record balanced taken
  split
  · exact balanced
  refine balanced_ask balanced (fun _ => rfl) (fun _ => rfl) nofun fun reply balanced => ?_
  rcases reply with fault | second
  · exact balanced
  dsimp only
  split
  · exact balanced
  · rename_i taken
    exact balanced_record balanced (not_not.mp taken)

section
variable (key : String) (i : PeerIntent) (p s : Rail)
include key i p s

theorem rustExecute_balanced :
    EndsBalanced ResultRecord.accepted key [] (rustExecute i p s) := by
  unfold rustExecute
  split
  · rfl
  refine balanced_lookup (fun _ _ balanced => balanced) rfl fun past reply balanced => ?_
  cases reply with
  | ok x =>
    dsimp only
    split
    · rename_i taken
      exact balanced_record balanced taken
    · exact rustFallBack_balanced balanced
  | error fault =>
    refine balanced_ask balanced (fun _ => rfl) (fun _ => rfl) nofun fun reply balanced => ?_
    cases reply with
    | ok | error => exact rustFallBack_balanced balanced

theorem typescriptExecute_balanced :
    EndsBalanced PeerRecord.accepted key [] (typescriptExecute i p s) := by
  unfold typescriptExecute
  split
  · rfl
  refine balanced_lookup (fun _ _ balanced => balanced) rfl fun past reply balanced => ?_
  rcases reply with fault | first
  case ok => exact decideOn_balanced balanced
  refine balanced_ask balanced (fun _ => rfl) (fun _ => rfl) nofun fun reply balanced => ?_
  cases reply with
  | ok first => exact decideOn_balanced balanced
  | error fault => exact balanced

theorem pythonExecute_balanced :
    EndsBalanced PeerRecord.accepted key [] (pythonExecute i p s) := by
  unfold pythonExecute
  split
  · rfl
  refine balanced_lookup (fun _ _ balanced => balanced) rfl fun past reply balanced => ?_
  match reply with
  | .ok first => exact decideOn_balanced balanced
  | .error .timeout =>
    refine balanced_ask balanced (fun _ => rfl) (fun _ => rfl) nofun fun reply balanced => ?_
    cases reply with
    | ok first => exact decideOn_balanced balanced
    | error fault => exact balanced
  | .error .unknownOutcome => exact balanced
  | .error (.other text) => exact balanced

end

theorem execute_balanced (peer : Peer) (key : String) (i : PeerIntent) (p s : Rail) :
    EndsBalanced peer.accepted key [] (peer.execute i p s) := by
  cases peer with
  | rust => exact rustExecute_balanced key i p s
  | typescript => exact typescriptExecute_balanced key i p s
  | python => exact pythonExecute_balanced key i p s

/-! ## All calls -/

section
variable {peer : Peer} {config : PeerConfig peer.Record}

/-- A caller submits no more often than it misses, and as often once it is over. -/
theorem caller_balanced (reached : (peers peer.execute).Reaches newPeer config) (key : String)
    (present : thread ∈ config.threads) :
    (thread.past.filter (submitsPrimary key)).length ≤ (thread.past.filter (misses key)).length ∧
      (thread.rest.returned.isSome = true → Balanced key thread.past) ∧
      ∀ recorded result next, thread.rest = .call (.record recorded result) next →
        peer.accepted result = true := by
  obtain ⟨_, program, started, ran⟩ := reached.run_of_thread rfl present
  cases started
  have meets := ((execute_balanced peer key _ _ _).run ran (relied_anyAnswer _ _)).2
  rw [foldl_observe_onHistory, List.nil_append] at meets
  cases rest : thread.rest with
  | ret value =>
    rw [rest] at meets
    exact ⟨Nat.le_of_eq meets, fun _ => meets, nofun⟩
  | call request next =>
    rw [rest] at meets
    refine ⟨meets.1.1, fun finished => absurd finished nofun, ?_⟩
    rintro recorded result _ ⟨⟩
    exact meets.1.2 recorded result rfl

/-- A key is in the map from the first accepted result on that is recorded under it. -/
theorem unrecorded_iff (reached : (peers peer.execute).Reaches newPeer config) (key : String) :
    config.shared key = none ↔ config.asked (recordsAccepted peer.accepted key) = [] := by
  induction reached with
  | refl => exact ⟨fun _ => rfl, fun _ => rfl⟩
  | tail action reached taken ih =>
    rcases Machine.next_cases taken with ⟨label, program, -, rfl⟩ |
      ⟨i, label, past, request, next, choice, answer, shared, active, done, rfl⟩ | ⟨event, -⟩
    · rw [ih]
      simp [Config.asked]
    · have caller := caller_balanced reached key (List.mem_of_getElem? active)
      have served : servePeer _ i label request choice = some (answer, shared) := done
      rw [Config.asked_exec_eq_nil_iff active rfl, ← ih]
      refine servePeer_none_iff served fun recorded result asked => ?_
      subst asked
      exact caller.2.2 recorded result next rfl
    · cases event

/-- What a look-up finds is what the map holds. -/
theorem lookup_misses_iff (reached : (peers peer.execute).Reaches newPeer config)
    (taken : (peers peer.execute).next config (.exec i choice) = some later)
    (present : config.threads[i]? = some thread) (then_ : later.threads[i]? = some after)
    (asked : after.past = thread.past ++ [⟨.lookup key, found⟩]) :
    found = none ↔ config.asked (recordsAccepted peer.accepted key) = [] := by
  obtain ⟨label, past, request, next, answer, shared, active, done, rfl⟩ := Machine.next_exec taken
  cases active.symm.trans present
  obtain ⟨bound, -⟩ := List.getElem?_eq_some_iff.mp present
  cases (List.getElem?_set_self bound).symm.trans then_
  cases List.append_cancel_left asked
  rw [← unrecorded_iff reached key]
  cases choice with
  | some => cases done
  | none =>
    cases done
    rfl

/-- In every run of any number of calls of a counterpart: as long as at most one call
of the key has found no result, the primary was submitted to at most once; and once
all calls are over, only then. A look-up of the key finds no result exactly when no
accepted one was recorded under the key before it. -/
theorem primary_is_submitted_once_iff (reached : (peers peer.execute).Reaches newPeer config)
    (key : String) :
    ((config.asked (misses key)).length ≤ 1 → (config.asked (submitsPrimary key)).length ≤ 1) ∧
    ((∀ thread ∈ config.threads, thread.rest.returned.isSome = true) →
      ((config.asked (submitsPrimary key)).length ≤ 1 ↔ (config.asked (misses key)).length ≤ 1)) ∧
    ∀ i choice later thread after found,
      (peers peer.execute).next config (.exec i choice) = some later →
      config.threads[i]? = some thread → later.threads[i]? = some after →
      after.past = thread.past ++ [⟨.lookup key, found⟩] →
      (found = none ↔ config.asked (recordsAccepted peer.accepted key) = []) := by
  have fewer : (config.asked (submitsPrimary key)).length ≤ (config.asked (misses key)).length := by
    refine Config.asked_length_le_of_each fun thread present => ?_
    exact (caller_balanced reached key present).1
  refine ⟨fun once => Nat.le_trans fewer once, fun finished => ?_, ?_⟩
  case refine_2 => exact fun i choice later thread after found => lookup_misses_iff reached
  have equal : (config.asked (misses key)).length ≤ (config.asked (submitsPrimary key)).length := by
    refine Config.asked_length_le_of_each fun thread present => ?_
    exact Nat.le_of_eq ((caller_balanced reached key present).2.1 (finished thread present)).symm
  rw [Nat.le_antisymm fewer equal]

end

/-! ## A second call after an unknown outcome -/

def repeatedCaller : PeerCaller := ⟨⟨"i1", "k1"⟩, ⟨"yellow_card"⟩, ⟨"bank"⟩⟩

/-- The first call ends in an unknown outcome; the second is made after it. -/
def repeatedSchedule : List (Action PeerCaller (Option (Except Fault Reply)) Empty) :=
  [.spawn repeatedCaller, .exec 0 none, .exec 0 (some (.ok { status := .unknown })),
    .spawn repeatedCaller, .exec 1 none, .exec 1 (some (.ok { status := .submitted })), .exec 1 none]

/-- In all three, the second call submits to the primary again. -/
theorem repeated_call_submits_again :
    (∃ config, (peers rustExecute).Reaches newPeer config ∧
      (config.asked (submitsPrimary "k1")).length = 2) ∧
    (∃ config, (peers typescriptExecute).Reaches newPeer config ∧
      (config.asked (submitsPrimary "k1")).length = 2) ∧
    ∃ config, (peers pythonExecute).Reaches newPeer config ∧
      (config.asked (submitsPrimary "k1")).length = 2 := by
  refine ⟨?_, ?_, ?_⟩
  · exact Machine.exists_of_replay repeatedSchedule (by decide)
  · exact Machine.exists_of_replay repeatedSchedule (by decide)
  · exact Machine.exists_of_replay repeatedSchedule (by decide)

/-- After the first call alone, one miss and one submission. -/
theorem first_call_submits_once :
    ∃ config, (peers Peer.rust.execute).Reaches newPeer config ∧
      (config.asked (submitsPrimary "k1")).length ≤ 1 := by
  have played : ∃ config, (peers Peer.rust.execute).Reaches newPeer config ∧
      (config.asked (misses "k1")).length = 1 :=
    Machine.exists_of_replay (repeatedSchedule.take 3) (by decide)
  obtain ⟨config, reached, once⟩ := played
  exact ⟨config, reached, (primary_is_submitted_once_iff reached "k1").1 (Nat.le_of_eq once)⟩

end UmojaFlowOS.Multirail
