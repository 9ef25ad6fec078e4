import UmojaFlowOS.Encoding.Delimited
import UmojaFlowOS.Fencing.Fence

/-!
# The text that is hashed

`canonicalCommand` writes the fields of a command as JSON. Two commands with one text have
the same fields, apart from the signature, so two commands with one hash and different
fields are a collision of SHA-256.
-/

namespace UmojaFlowOS.Fencing

open Crypto Encoding Go

/-! ## JSON strings -/

theorem toList_jsonString (s : String) :
    (jsonString s).toList = ['"'] ++ (s.toList.flatMap jsonRune ++ ['"']) := by
  have quote : "\"".toList = ['"'] := rfl
  rw [jsonString, String.toList_append, String.toList_append, quote, List.append_assoc,
    String.toList_ofList]

theorem delimited_jsonString : Delimited fun s => (jsonString s).toList := by
  have literal : Delimited fun text : List Char => text.flatMap jsonRune ++ ['"'] :=
    delimited_of_read fun text rest => by
      rw [List.append_assoc]
      exact readString_jsonString (.inl rfl) rest
  intro s t x y same
  dsimp only at same
  rw [toList_jsonString, toList_jsonString] at same
  obtain ⟨text, rest⟩ := literal.after ['"'] _ _ _ _ same
  exact ⟨String.toList_injective text, rest⟩

theorem delimited_jsonStrings : Delimited fun texts => (jsonStrings texts).toList := by
  have listed (a : String) (l : List String) : (jsonStrings (a :: l)).toList =
      '[' :: ([','].intercalate ((a :: l).map fun s => (jsonString s).toList) ++ [']']) := by
    have marks : "[".toList = ['['] ∧ ",".toList = [','] ∧ "]".toList = [']'] := by decide
    rw [jsonStrings, if_neg nofun, String.toList_append, String.toList_append,
      String.toList_intercalate, List.map_map, marks.1, marks.2.1, marks.2.2]
    rfl
  intro texts others x y same
  dsimp only at same
  cases texts with
  | nil =>
    cases others with
    | nil => exact ⟨rfl, List.append_cancel_left same⟩
    | cons b m =>
      rw [listed] at same
      exact absurd (List.cons.inj same).1 (by decide)
  | cons a l =>
    rcases others with _ | ⟨b, m⟩
    · rw [listed] at same
      exact absurd (List.cons.inj same).1 (by decide)
    rw [listed, listed, List.cons_append, List.cons_append] at same
    have inner := (List.cons.inj same).2
    rw [List.append_assoc, List.append_assoc] at inner
    exact delimited_jsonString.separated (by decide) inner

/-! ## Commands -/

/-- What of a command is signed. -/
def FenceCommand.unsigned (c : FenceCommand) : FenceCommand := { c with signature := "" }

def memberOf (key : String) : List Char := (jsonString key).toList ++ [':']

theorem toList_canonicalCommand (c : FenceCommand) :
    (canonicalCommand c).toList = '\x7b' :: memberOf "command_id" ++ ((jsonString c.commandID).toList ++
      (',' :: memberOf "action" ++ ((jsonString c.action.text).toList ++
      (',' :: memberOf "reason" ++ ((jsonString c.reason).toList ++
      (',' :: memberOf "environment" ++ ((jsonString c.environment).toList ++
      (',' :: memberOf "source_alerts" ++ ((jsonStrings c.sourceAlerts).toList ++
      (',' :: memberOf "issued_at" ++ ((jsonString c.issuedAt.text).toList ++
      (',' :: memberOf "expires_at" ++ ((jsonString c.expiresAt.text).toList ++
      (',' :: memberOf "nonce" ++ ((jsonString c.nonce).toList ++
      (',' :: memberOf "signer" ++ ((jsonString c.signer).toList ++
      (',' :: memberOf "signature" ++ ((jsonString "").toList ++ ['\x7d']))))))))))))))))))) := by
  have marks : "\x7b".toList = ['\x7b'] ∧ ",".toList = [','] ∧ ":".toList = [':'] ∧
      "\x7d".toList = ['\x7d'] := by decide
  obtain ⟨opens, comma, colon, closes⟩ := marks
  simp only [canonicalCommand, jsonFields, memberOf, String.toList_append, String.toList_intercalate,
    List.map_cons, List.map_nil, List.intercalate_cons_cons, List.intercalate_singleton, opens, comma,
    colon, closes, List.append_assoc, List.cons_append, List.nil_append]

/-- Two commands that are hashed over one text are the same but for the signature. The two
actions that are supported have texts of their own. -/
theorem unsigned_of_canonicalCommand (action : c.action = d.action)
    (same : canonicalCommand c = canonicalCommand d) : c.unsigned = d.unsigned := by
  have texts := congrArg String.toList same
  rw [toList_canonicalCommand, toList_canonicalCommand] at texts
  obtain ⟨commandID, texts⟩ := delimited_jsonString _ _ _ _ (List.append_cancel_left texts)
  obtain ⟨-, texts⟩ := delimited_jsonString _ _ _ _ (List.append_cancel_left texts)
  obtain ⟨reason, texts⟩ := delimited_jsonString _ _ _ _ (List.append_cancel_left texts)
  obtain ⟨environment, texts⟩ := delimited_jsonString _ _ _ _ (List.append_cancel_left texts)
  obtain ⟨alerts, texts⟩ := delimited_jsonStrings _ _ _ _ (List.append_cancel_left texts)
  obtain ⟨issued, texts⟩ := delimited_jsonString _ _ _ _ (List.append_cancel_left texts)
  obtain ⟨expires, texts⟩ := delimited_jsonString _ _ _ _ (List.append_cancel_left texts)
  obtain ⟨nonce, texts⟩ := delimited_jsonString _ _ _ _ (List.append_cancel_left texts)
  obtain ⟨signer, texts⟩ := delimited_jsonString _ _ _ _ (List.append_cancel_left texts)
  have stamps {a b : Stamp} (text : a.text = b.text) : a = b := by
    cases a
    cases b
    cases text
    rfl
  unfold FenceCommand.unsigned
  rw [commandID, action, reason, environment, alerts, stamps issued, stamps expires, nonce, signer]

/-! ## Hashes -/

/-- Different bytes have different hexadecimal texts. -/
theorem hexEncode_injective (same : hexEncode a = hexEncode b) : a = b := by
  have pairs : Delimited fun byte : UInt8 =>
      [hexDigits.getD (byte.toNat / 16) '0', hexDigits.getD (byte.toNat % 16) '0'] := by
    intro x y rest others equal
    obtain ⟨high, equal⟩ := List.cons.inj equal
    obtain ⟨low, equal⟩ := List.cons.inj equal
    have digits (byte : UInt8) : hexValue (hexDigits.getD (byte.toNat / 16) '0') =
        some (byte.toNat / 16) ∧ hexValue (hexDigits.getD (byte.toNat % 16) '0') =
        some (byte.toNat % 16) :=
      ⟨hexValue_hexDigit (by have := byte.toNat_lt; omega), hexValue_hexDigit (by omega)⟩
    have first := congrArg hexValue high
    have second := congrArg hexValue low
    rw [(digits x).1, (digits y).1] at first
    rw [(digits x).2, (digits y).2] at second
    have quotient := Option.some.inj first
    have remainder := Option.some.inj second
    exact ⟨UInt8.toNat_inj.mp (by omega), equal⟩
  have texts := congrArg String.toList same
  rw [hexEncode, hexEncode, String.toList_ofList, String.toList_ofList] at texts
  induction a generalizing b with
  | nil =>
    cases b with
    | nil => rfl
    | cons y b => cases texts
  | cons x a ih =>
    rcases b with _ | ⟨y, b⟩
    · cases texts
    rw [List.flatMap_cons, List.flatMap_cons] at texts
    obtain ⟨rfl, rest⟩ := pairs x y _ _ texts
    rw [ih (congrArg String.ofList rest) rest]

/-- Two different texts with one SHA-256 digest. -/
def Collision (first second : String) : Prop :=
  first ≠ second ∧ sha256 (bytes first) = sha256 (bytes second)

/-- Two commands with one hash and one action are the same but for the signature, or they
are a collision. -/
theorem unsigned_of_commandHash (action : c.action = d.action)
    (same : commandHash c = commandHash d) :
    c.unsigned = d.unsigned ∨ Collision (canonicalCommand c) (canonicalCommand d) := by
  by_cases text : canonicalCommand c = canonicalCommand d
  · exact .inl (unsigned_of_canonicalCommand action text)
  · exact .inr ⟨text, hexEncode_injective same⟩

end UmojaFlowOS.Fencing
