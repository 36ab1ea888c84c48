import TboxFramework.Log.Fields

/-!
# The redactor

The declared class of a field decides what is shown of a string; a secret key, in
any letter case, overrides the declared class. A value that is not a string is
shown as it is, whatever its class.
-/

namespace TboxFramework.Log

open TboxFramework.Store (Bytes text)

set_option autoImplicit false

structure Redactor where
  config : RedactConfig

namespace Redactor

def secretKeys : List Bytes :=
  [text "password", text "passwd", text "token", text "secret", text "private_key", text "seed",
    text "key_material", text "access_key", text "secret_key"]

def isSecretKey (key : Bytes) : Bool := secretKeys.contains (key.map toLower)

def maskValue (value : Bytes) : Bytes :=
  if value.length ≤ 4 then text "****"
  else value.take 2 ++ text "****" ++ value.drop (value.length - 2)

def truncatePayload (redactor : Redactor) (value : Bytes) : Bytes :=
  if value.length ≤ redactor.config.rawPayloadMaxBytes.toNat then value
  else value.take redactor.config.rawPayloadMaxBytes.toNat ++ text "...[truncated]"

def hashValue (value : Bytes) : Bytes := text "[hash:" ++ decimal value.length ++ text "]"

def effectiveSensitivity (field : Field) : Sensitivity :=
  if isSecretKey field.key then .secret else field.sensitivity

/-- What takes the place of a value that must not appear; the new field is `Normal`. -/
def withheld (field : Field) (notice : Bytes) : Field :=
  ⟨field.key ++ text "_redacted", .string notice, .normal⟩

/-- What an identifier's text becomes under each policy. -/
def redactIdentifier (redactor : Redactor) (field : Field) (value : Bytes) : Field :=
  if redactor.config.identifiers = text "mask" then
    { field with value := .string (maskValue value) }
  else if redactor.config.identifiers = text "reject" then
    withheld field (text "[REDACTED:identifier]")
  else { field with value := .string (hashValue value) }

/-- What the class of a field makes of its text. -/
def redactString (redactor : Redactor) (field : Field) (value : Bytes) : Field :=
  match effectiveSensitivity field with
  | .identifier => redactor.redactIdentifier field value
  | .payload => { field with value := .string (redactor.truncatePayload value) }
  | _ => field

/-- The body of the loop over the fields. -/
def redactField (redactor : Redactor) (field : Field) : Field :=
  if effectiveSensitivity field = .secret then withheld field (text "[REDACTED:secret]")
  else
    match field.value with
    | .string value => redactor.redactString field value
    | _ => field

def redact (redactor : Redactor) (fields : List Field) : List Field :=
  fields.map redactor.redactField

/-- Secret by its key or by its class. -/
def Secret (field : Field) : Prop := isSecretKey field.key = true ∨ field.sensitivity = .secret

instance (field : Field) : Decidable (Secret field) := inferInstanceAs (Decidable (_ ∨ _))

variable (redactor : Redactor)

theorem effective_of_secret {field : Field} (secret : Secret field) :
    effectiveSensitivity field = .secret := by
  unfold effectiveSensitivity
  cases secret with
  | inl listed => rw [if_pos listed]
  | inr declared => rw [declared, ite_self]

theorem effective_of_open {field : Field} (shown : ¬ Secret field) :
    effectiveSensitivity field = field.sensitivity := by
  unfold effectiveSensitivity
  rw [if_neg fun listed => shown (.inl listed)]

theorem effective_ne_secret {field : Field} (shown : ¬ Secret field) :
    effectiveSensitivity field ≠ .secret := by
  rw [effective_of_open shown]
  intro declared
  exact shown (.inr declared)

theorem redact_secret {field : Field} (secret : Secret field) :
    redactor.redactField field = withheld field (text "[REDACTED:secret]") := by
  unfold redactField
  rw [if_pos (effective_of_secret secret)]

theorem redact_string {field : Field} {value : Bytes} (shown : ¬ Secret field)
    (string : field.value = .string value) :
    redactor.redactField field = redactor.redactString field value := by
  unfold redactField
  rw [if_neg (effective_ne_secret shown), string]

theorem redact_identifier {field : Field} {value : Bytes} (shown : ¬ Secret field)
    (identifier : field.sensitivity = .identifier) (string : field.value = .string value) :
    redactor.redactField field = redactor.redactIdentifier field value := by
  rw [redact_string redactor shown string, redactString, effective_of_open shown, identifier]

theorem redact_payload {field : Field} {value : Bytes} (shown : ¬ Secret field)
    (payload : field.sensitivity = .payload) (string : field.value = .string value) :
    redactor.redactField field =
      { field with value := .string (redactor.truncatePayload value) } := by
  rw [redact_string redactor shown string, redactString, effective_of_open shown, payload]

/-- The policies apply to strings only. -/
theorem redact_unprinted {field : Field} (shown : ¬ Secret field)
    (unprinted : field.value.type ≠ .kString) : redactor.redactField field = field := by
  unfold redactField
  rw [if_neg (effective_ne_secret shown)]
  cases found : field.value with
  | string value => rw [found] at unprinted; exact absurd rfl unprinted
  | int64 number => rfl
  | double number => rfl
  | bool flag => rfl

theorem redact_normal {field : Field} (shown : ¬ Secret field)
    (normal : field.sensitivity = .normal) : redactor.redactField field = field := by
  cases field.value.string_or_unprinted with
  | inl string =>
      obtain ⟨value, string⟩ := string
      rw [redact_string redactor shown string, redactString, effective_of_open shown, normal]
  | inr unprinted => exact redact_unprinted redactor shown unprinted

end Redactor

end TboxFramework.Log
