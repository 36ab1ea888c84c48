import TboxFramework.Log.Redactor
import Mathlib.Data.List.Forall2

/-!
# What redaction hides

Two field lists that differ only where the policy withholds something. The redacted
lists agree exactly when the identifiers that are not text already agreed: those
are shown as they are.
-/

namespace TboxFramework.Log

open TboxFramework.Store (Bytes text)

set_option autoImplicit false

namespace Redactor

variable (redactor : Redactor)

/-- The differences that the policy withholds at one position. -/
inductive Withheld (key : Bytes) : Sensitivity → FieldValue → FieldValue → Prop
  | secretKey (sensitivity : Sensitivity) (left right : FieldValue)
      (listed : isSecretKey key = true) : Withheld key sensitivity left right
  | secret (left right : FieldValue) : Withheld key .secret left right
  | rejected (left right : FieldValue)
      (policy : redactor.config.identifiers = text "reject") :
      Withheld key .identifier left right
  | maskedShort (left right : Bytes) (policy : redactor.config.identifiers = text "mask")
      (leftShort : left.length ≤ 4) (rightShort : right.length ≤ 4) :
      Withheld key .identifier (.string left) (.string right)
  | maskedLong (left right : Bytes) (policy : redactor.config.identifiers = text "mask")
      (leftLong : 4 < left.length) (rightLong : 4 < right.length)
      (heads : left.take 2 = right.take 2)
      (tails : left.drop (left.length - 2) = right.drop (right.length - 2)) :
      Withheld key .identifier (.string left) (.string right)
  | hashed (left right : Bytes) (unmasked : redactor.config.identifiers ≠ text "mask")
      (unrejected : redactor.config.identifiers ≠ text "reject")
      (lengths : left.length = right.length) :
      Withheld key .identifier (.string left) (.string right)
  | unprinted (left right : FieldValue) (types : left.type = right.type)
      (unprinted : left.type ≠ .kString) : Withheld key .identifier left right
  | truncated (left right : Bytes)
      (leftLong : redactor.config.rawPayloadMaxBytes.toNat < left.length)
      (rightLong : redactor.config.rawPayloadMaxBytes.toNat < right.length)
      (heads : left.take redactor.config.rawPayloadMaxBytes.toNat =
        right.take redactor.config.rawPayloadMaxBytes.toNat) :
      Withheld key .payload (.string left) (.string right)

/-- Two fields that an observer of the log should not tell apart. -/
structure Alike (left right : Field) : Prop where
  keys : left.key = right.key
  sensitivities : left.sensitivity = right.sensitivity
  values : left.value = right.value ∨
    redactor.Withheld left.key left.sensitivity left.value right.value

/-- An identifier that is not text, on either side, is the same on both. -/
def UnprintedAgree (left right : Field) : Prop :=
  left.sensitivity = .identifier → isSecretKey left.key = false →
    left.value.type ≠ .kString ∨ right.value.type ≠ .kString → left.value = right.value

variable {redactor}

theorem Alike.secret {left right : Field} (alike : redactor.Alike left right)
    (secret : Secret left) : Secret right := by
  cases secret with
  | inl listed =>
      rw [alike.keys] at listed
      exact .inl listed
  | inr declared =>
      rw [alike.sensitivities] at declared
      exact .inr declared

/-- Nothing but the key of a secret is left. -/
theorem redacted_secrets_equal {left right : Field} (alike : redactor.Alike left right)
    (secret : Secret left) : redactor.redactField left = redactor.redactField right := by
  rw [redact_secret redactor secret, redact_secret redactor (alike.secret secret)]
  unfold withheld
  rw [alike.keys]

/-- What the policies make of two identifiers that are text. -/
theorem redacted_identifiers_equal {left right : Field} {leftText rightText : Bytes}
    (keys : left.key = right.key) (sensitivities : left.sensitivity = right.sensitivity)
    (withheld : redactor.config.identifiers = text "reject" ∨
      (redactor.config.identifiers = text "mask" ∧ maskValue leftText = maskValue rightText) ∨
      (redactor.config.identifiers ≠ text "mask" ∧
        hashValue leftText = hashValue rightText)) :
    redactor.redactIdentifier left leftText = redactor.redactIdentifier right rightText := by
  unfold redactIdentifier Redactor.withheld
  rw [keys, sensitivities]
  by_cases masked : redactor.config.identifiers = text "mask"
  · have same : maskValue leftText = maskValue rightText := by
      cases withheld with
      | inl rejected =>
          rw [rejected] at masked
          exact absurd masked (by decide)
      | inr shown =>
          cases shown with
          | inl masks => exact masks.2
          | inr hashes => exact absurd masked hashes.1
    rw [if_pos masked, if_pos masked, same]
  · rw [if_neg masked, if_neg masked]
    by_cases rejected : redactor.config.identifiers = text "reject"
    · rw [if_pos rejected, if_pos rejected]
    · have same : hashValue leftText = hashValue rightText := by
        cases withheld with
        | inl policy => exact absurd policy rejected
        | inr shown =>
            cases shown with
            | inl masks => exact absurd masks.1 masked
            | inr hashes => exact hashes.2
      rw [if_neg rejected, if_neg rejected, same]

theorem masks_equal {left right : Bytes} (leftLong : 4 < left.length)
    (rightLong : 4 < right.length) (heads : left.take 2 = right.take 2)
    (tails : left.drop (left.length - 2) = right.drop (right.length - 2)) :
    maskValue left = maskValue right := by
  unfold maskValue
  rw [if_neg (by omega), if_neg (by omega), heads, tails]

theorem short_masks_equal {left right : Bytes} (leftShort : left.length ≤ 4)
    (rightShort : right.length ≤ 4) : maskValue left = maskValue right := by
  unfold maskValue
  rw [if_pos leftShort, if_pos rightShort]

theorem hashes_equal {left right : Bytes} (lengths : left.length = right.length) :
    hashValue left = hashValue right := by
  unfold hashValue
  rw [lengths]

theorem truncations_equal {left right : Bytes}
    (leftLong : redactor.config.rawPayloadMaxBytes.toNat < left.length)
    (rightLong : redactor.config.rawPayloadMaxBytes.toNat < right.length)
    (heads : left.take redactor.config.rawPayloadMaxBytes.toNat =
      right.take redactor.config.rawPayloadMaxBytes.toNat) :
    redactor.truncatePayload left = redactor.truncatePayload right := by
  unfold truncatePayload
  rw [if_neg (by omega), if_neg (by omega), heads]

theorem withheld_ne {field other : Field} (notice : Bytes) (keys : field.key = other.key) :
    withheld field notice ≠ other := by
  intro same
  have lengths := congrArg (fun shown => shown.key.length) same
  simp only [withheld, keys, List.length_append] at lengths
  have suffix : (text "_redacted").length = 9 := rfl
  omega

theorem redact_rejected {field : Field} (shown : ¬ Secret field)
    (identifier : field.sensitivity = .identifier)
    (policy : redactor.config.identifiers = text "reject") {value : Bytes}
    (string : field.value = .string value) :
    redactor.redactField field = withheld field (text "[REDACTED:identifier]") := by
  rw [redact_identifier redactor shown identifier string]
  unfold redactIdentifier
  rw [if_neg (by rw [policy]; decide), if_pos policy]

/-- What the policy withholds of two identifiers of which one is text. -/
theorem Withheld.rejects {key : Bytes} {left right : FieldValue}
    (withheld : redactor.Withheld key .identifier left right) (open_key : isSecretKey key = false)
    (mixed : left.type ≠ right.type) : redactor.config.identifiers = text "reject" := by
  cases withheld with
  | secretKey sensitivity left right listed => rw [open_key] at listed; cases listed
  | rejected left right policy => exact policy
  | maskedShort => exact absurd rfl mixed
  | maskedLong => exact absurd rfl mixed
  | hashed => exact absurd rfl mixed
  | unprinted left right types unprinted => exact absurd types mixed

theorem Alike.equal {left right : Field} (alike : redactor.Alike left right)
    (values : left.value = right.value) : left = right :=
  Field.ext alike.keys values alike.sensitivities

theorem open_key_of_shown {field : Field} (shown : ¬ Secret field) :
    isSecretKey field.key = false := by
  cases listed : isSecretKey field.key with
  | false => rfl
  | true => exact absurd (.inl listed) shown

theorem Alike.shown {left right : Field} (alike : redactor.Alike left right)
    (shown : ¬ Secret left) : ¬ Secret right := by
  intro secret
  cases secret with
  | inl listed =>
      rw [← alike.keys] at listed
      exact shown (.inl listed)
  | inr declared =>
      rw [← alike.sensitivities] at declared
      exact shown (.inr declared)

/-- An identifier that is not text tells its value. -/
theorem unprinted_tells {left right : Field} (alike : redactor.Alike left right)
    (shown : ¬ Secret left) (identifier : left.sensitivity = .identifier)
    (unprinted : left.value.type ≠ .kString ∨ right.value.type ≠ .kString) :
    redactor.redactField left = redactor.redactField right ↔ left.value = right.value := by
  have rightIdentifier : right.sensitivity = .identifier := by
    rw [← alike.sensitivities, identifier]
  constructor
  · intro same
    by_cases types : left.value.type = right.value.type
    · have leftUnprinted : left.value.type ≠ .kString := by
        cases unprinted with
        | inl leftUnprinted => exact leftUnprinted
        | inr rightUnprinted => rw [types]; exact rightUnprinted
      rw [redact_unprinted redactor shown leftUnprinted,
        redact_unprinted redactor (alike.shown shown) (types ▸ leftUnprinted)] at same
      rw [same]
    · cases alike.values with
      | inl values => exact values
      | inr withheld =>
          rw [identifier] at withheld
          have policy := withheld.rejects (open_key_of_shown shown) types
          cases left.value.string_or_unprinted with
          | inl string =>
              obtain ⟨value, string⟩ := string
              have rightUnprinted : right.value.type ≠ .kString := by
                rw [string] at types
                exact fun type => types type.symm
              rw [redact_rejected shown identifier policy string,
                redact_unprinted redactor (alike.shown shown) rightUnprinted] at same
              exact absurd same (withheld_ne _ alike.keys)
          | inr leftUnprinted =>
              cases right.value.string_or_unprinted with
              | inl string =>
                  obtain ⟨value, string⟩ := string
                  rw [redact_rejected (alike.shown shown) rightIdentifier policy string,
                    redact_unprinted redactor shown leftUnprinted] at same
                  exact absurd same.symm (withheld_ne _ alike.keys.symm)
              | inr rightUnprinted =>
                  rw [redact_unprinted redactor shown leftUnprinted,
                    redact_unprinted redactor (alike.shown shown) rightUnprinted] at same
                  rw [same]
  · intro values
    rw [alike.equal values]

/-- Text is shown alike wherever the policy withholds the difference. -/
theorem redacted_strings_equal {left right : Field} {leftText rightText : Bytes}
    (alike : redactor.Alike left right) (shown : ¬ Secret left)
    (leftString : left.value = .string leftText) (rightString : right.value = .string rightText) :
    redactor.redactField left = redactor.redactField right := by
  cases alike.values with
  | inl values => rw [alike.equal values]
  | inr withheld =>
      rw [leftString, rightString] at withheld
      rw [redact_string redactor shown leftString,
        redact_string redactor (alike.shown shown) rightString]
      unfold redactString
      rw [effective_of_open shown, effective_of_open (alike.shown shown), ← alike.sensitivities]
      generalize declared : left.sensitivity = sensitivity at withheld ⊢
      cases withheld with
      | secretKey _ _ _ listed => exact absurd (.inl listed) shown
      | secret => exact absurd (.inr declared) shown
      | rejected _ _ policy =>
          exact redacted_identifiers_equal alike.keys alike.sensitivities (.inl policy)
      | maskedShort _ _ policy leftShort rightShort =>
          exact redacted_identifiers_equal alike.keys alike.sensitivities
            (.inr (.inl ⟨policy, short_masks_equal leftShort rightShort⟩))
      | maskedLong _ _ policy leftLong rightLong heads tails =>
          exact redacted_identifiers_equal alike.keys alike.sensitivities
            (.inr (.inl ⟨policy, masks_equal leftLong rightLong heads tails⟩))
      | hashed _ _ unmasked unrejected lengths =>
          exact redacted_identifiers_equal alike.keys alike.sensitivities
            (.inr (.inr ⟨unmasked, hashes_equal lengths⟩))
      | unprinted _ _ types unprinted => exact absurd rfl unprinted
      | truncated _ _ leftLong rightLong heads =>
          simp only
          rw [truncations_equal leftLong rightLong heads, alike.keys]

/-- Of a class other than identifier, values that are not text are the same. -/
theorem Withheld.identifier_of_unprinted {key : Bytes} {sensitivity : Sensitivity}
    {left right : FieldValue} (withheld : redactor.Withheld key sensitivity left right)
    (open_key : isSecretKey key = false) (open_class : sensitivity ≠ .secret)
    (unprinted : left.type ≠ .kString ∨ right.type ≠ .kString) : sensitivity = .identifier := by
  cases withheld with
  | secretKey sensitivity left right listed => rw [open_key] at listed; cases listed
  | secret => exact absurd rfl open_class
  | truncated =>
      cases unprinted with
      | inl leftUnprinted => exact absurd rfl leftUnprinted
      | inr rightUnprinted => exact absurd rfl rightUnprinted
  | _ => rfl

/-- One position: the redacted fields agree exactly when unprinted identifiers did. -/
theorem redacted_alike_iff {left right : Field} (alike : redactor.Alike left right) :
    redactor.redactField left = redactor.redactField right ↔ UnprintedAgree left right := by
  by_cases secret : Secret left
  · refine iff_of_true (redacted_secrets_equal alike secret) ?_
    intro identifier open_key
    cases secret with
    | inl listed => rw [open_key] at listed; cases listed
    | inr declared => rw [declared] at identifier; cases identifier
  · by_cases unprinted : left.value.type ≠ .kString ∨ right.value.type ≠ .kString
    · by_cases identifier : left.sensitivity = .identifier
      · rw [unprinted_tells alike secret identifier unprinted]
        constructor
        · intro values _ _ _
          exact values
        · intro agree
          exact agree identifier (open_key_of_shown secret) unprinted
      · have values : left.value = right.value := by
          cases alike.values with
          | inl values => exact values
          | inr withheld =>
              have := withheld.identifier_of_unprinted (open_key_of_shown secret)
                (fun declared => secret (.inr declared)) unprinted
              exact absurd this identifier
        rw [alike.equal values]
        exact iff_of_true rfl fun _ _ _ => rfl
    · refine iff_of_true ?_ fun _ _ mixed => absurd mixed unprinted
      cases left.value.string_or_unprinted with
      | inr leftUnprinted => exact absurd (.inl leftUnprinted) unprinted
      | inl leftString =>
          cases right.value.string_or_unprinted with
          | inr rightUnprinted => exact absurd (.inr rightUnprinted) unprinted
          | inl rightString =>
              obtain ⟨leftText, leftString⟩ := leftString
              obtain ⟨rightText, rightString⟩ := rightString
              exact redacted_strings_equal alike secret leftString rightString

/-- Redaction hides what the policy withholds exactly when the identifiers that are
not text agree. -/
theorem redact_hides_iff (redactor : Redactor) {left right : List Field}
    (alike : List.Forall₂ redactor.Alike left right) :
    redactor.redact left = redactor.redact right ↔ List.Forall₂ UnprintedAgree left right := by
  unfold redact
  induction alike with
  | nil => exact iff_of_true rfl .nil
  | cons head tail induction =>
      rw [List.map_cons, List.map_cons, List.cons.injEq, induction, List.forall₂_cons,
        redacted_alike_iff head]

def vin (number : Bytes) : Field := ⟨text "vin", .string number, .identifier⟩

def deviceNumber (number : Int64) : Field := ⟨text "device_sn", .int64 number, .identifier⟩

/-- Two vehicles of one maker whose numbers end alike cannot be told apart. -/
theorem vins_hidden :
    redact ⟨{}⟩ [vin (text "LVSHFFAN5KF000001"), deviceNumber 7] =
      redact ⟨{}⟩ [vin (text "LVGBE40K28G300001"), deviceNumber 7] := by
  have alike : List.Forall₂ (Redactor.Alike ⟨{}⟩)
      [vin (text "LVSHFFAN5KF000001"), deviceNumber 7]
      [vin (text "LVGBE40K28G300001"), deviceNumber 7] := by
    refine .cons ⟨rfl, rfl, .inr ?_⟩ (.cons ⟨rfl, rfl, .inl rfl⟩ .nil)
    apply Withheld.maskedLong <;> decide
  rw [redact_hides_iff ⟨{}⟩ alike]
  refine .cons ?_ (.cons (fun _ _ _ => rfl) .nil)
  intro _ _ mixed
  exact absurd mixed (by decide)

/-- The default policy masks identifiers, and yet device numbers are told apart. -/
theorem device_numbers_shown :
    List.Forall₂ (Redactor.Alike ⟨{}⟩) [deviceNumber 7] [deviceNumber 8] ∧
      redact ⟨{}⟩ [deviceNumber 7] ≠ redact ⟨{}⟩ [deviceNumber 8] := by
  constructor
  · refine .cons ⟨rfl, rfl, .inr ?_⟩ .nil
    apply Withheld.unprinted <;> decide
  · decide

end Redactor

end TboxFramework.Log
