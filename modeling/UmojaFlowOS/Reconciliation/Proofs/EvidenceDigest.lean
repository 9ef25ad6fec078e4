import UmojaFlowOS.Reconciliation.ConsumerSystem
import UmojaFlowOS.Reconciliation.Proofs.ConsumerPostings

/-!
# The digest of an event

`HandleRecord` compares `evidence_sha256` with the digest of the payload text that
contains it, and the tables refuse a row without a digest. As long as no text contains
its own digest, no event passes both.
-/

namespace UmojaFlowOS.Reconciliation

open Crypto Go Relational

/-- No payload text has its own digest in it. -/
def NoSelfDigest (d : Decoders) : Prop :=
  ∀ raw p, d.payload raw = .ok p → p.evidenceSHA256 ≠ hexEncode (sha256 raw)

/-- Some digest makes the event acceptable to `HandleRecord`, to the inbox and to the
table of decisions: for every event id, clock reading and intent of the run. -/
def Processable (d : Decoders) (p : SettlementReconciledPayload) : Prop :=
  ∃ evidence record envelope,
    acceptRecord d (some record) = .ok (envelope, { p with evidenceSHA256 := evidence }) ∧
    (∀ now, (InboxRow.received { p with evidenceSHA256 := evidence } envelope.eventID now).valid
      = true) ∧
    ∀ (row : IntentRow) (status : IntentStatus) (transferID : Column) (now : Int),
      row.intent.reconciliationRunID = p.reconciliationRunID →
      (row.decided { p with evidenceSHA256 := evidence } status transferID p.providerRef now).valid
        = true

section
variable {d : Decoders} {record : Option KafkaRecord} {envelope : Envelope}
  {p : SettlementReconciledPayload}

/-- An accepted event has no digest, or that of the payload it came in. -/
theorem digest_of_acceptRecord (accepted : acceptRecord d record = .ok (envelope, p)) :
    d.payload envelope.payload = .ok p ∧
      (p.evidenceSHA256 = "" ∨ p.evidenceSHA256 = hexEncode (sha256 envelope.payload)) := by
  unfold acceptRecord at accepted
  split at accepted
  · cases accepted
  split at accepted
  · cases accepted
  split at accepted
  · cases accepted
  split at accepted
  · cases accepted
  split at accepted
  · cases accepted
  split at accepted
  · cases accepted
  rename_i decoded
  split at accepted
  · cases accepted
  split at accepted
  · cases accepted
  rename_i digest
  cases accepted
  refine ⟨decoded, ?_⟩
  by_cases empty : p.evidenceSHA256 = ""
  · exact .inl empty
  · exact .inr (not_not.mp fun differs => digest ⟨empty, differs⟩)

theorem digest_eq_empty (distinct : NoSelfDigest d)
    (accepted : acceptRecord d record = .ok (envelope, p)) : p.evidenceSHA256 = "" := by
  obtain ⟨decoded, empty | own⟩ := digest_of_acceptRecord accepted
  · exact empty
  · exact absurd own (distinct _ _ decoded)

end

theorem received_valid_eq_false (empty : p.evidenceSHA256 = "")
    (eventID : String) (now : Int) : (InboxRow.received p eventID now).valid = false := by
  have refused : validLowerHex "" 64 = false := by decide
  show (validLowerHex p.evidenceSHA256 64 && _) = false
  rw [empty, refused, Bool.false_and]

/-- Whatever digest is put into an event, `HandleRecord` or the inbox refuses it. -/
theorem no_event_is_processable {d : Decoders} (distinct : NoSelfDigest d)
    (p : SettlementReconciledPayload) : ¬ Processable d p := by
  rintro ⟨evidence, record, envelope, accepted, inbox, -⟩
  have empty := digest_eq_empty distinct accepted
  have refused := received_valid_eq_false empty envelope.eventID 0
  rw [inbox 0] at refused
  cases refused

/-- The decoders on the texts of an event with any digest but the text's own. -/
def textDecoders (p : SettlementReconciledPayload) : Decoders :=
  decodersOf (fun raw evidence =>
    if evidence ≠ "" ∧ evidence = hexEncode (sha256 raw) then none else some evidence)
    [("event-1", p)]

theorem textDecoders_noSelfDigest (p : SettlementReconciledPayload) :
    NoSelfDigest (textDecoders p) := by
  intro raw found decoded own
  simp only [textDecoders, decodersOf, List.findSome?_singleton] at decoded
  split at decoded
  · rename_i q read
    cases decoded
    obtain ⟨evidence, kept, rfl⟩ := Option.map_eq_some_iff.mp read
    obtain ⟨written, -, kept⟩ := Option.bind_eq_some_iff.mp kept
    split at kept
    · cases kept
    rename_i differs
    cases kept
    refine differs ⟨fun empty => ?_, own⟩
    have size := congrArg String.length (empty.symm.trans own)
    simp [hexEncode, sha256_length] at size
  · cases decoded

def legitimateEvent : SettlementReconciledPayload := settledEvent 100

/-- On JSON texts, no digest makes the event processable. -/
theorem text_events_are_not_processable :
    NoSelfDigest (textDecoders legitimateEvent) ∧
      ¬ Processable (textDecoders legitimateEvent) legitimateEvent :=
  ⟨textDecoders_noSelfDigest _, no_event_is_processable (textDecoders_noSelfDigest _) _⟩

/-- A well-formed event: without a digest `HandleRecord` accepts it and the inbox does not,
and no digest helps. -/
theorem legitimate_event_is_refused :
    validatePayload legitimateEvent = none ∧
      validRunID legitimateEvent.reconciliationRunID = true ∧
      (acceptRecord (textDecoders legitimateEvent) (some (recordOf "event-1" legitimateEvent))).isOk =
        true ∧
      (InboxRow.received legitimateEvent "event-1" 0).valid = false ∧
      ∀ evidence record envelope, acceptRecord (textDecoders legitimateEvent) (some record) =
          .ok (envelope, { legitimateEvent with evidenceSHA256 := evidence }) →
        (InboxRow.received { legitimateEvent with evidenceSHA256 := evidence } envelope.eventID
          0).valid = false := by
  refine ⟨by decide, by decide, by decide +kernel, received_valid_eq_false rfl _ _, ?_⟩
  intro evidence record envelope accepted
  exact received_valid_eq_false (digest_eq_empty (textDecoders_noSelfDigest _) accepted) _ _

end UmojaFlowOS.Reconciliation
