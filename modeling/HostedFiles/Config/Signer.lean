import HostedFiles.Config.Basic
import HostedFiles.Credential.Basic

/-!
# Config/Signer — the signer that a configuration describes

Valid settings always describe one (`Config.exists_signer`): their secret is long enough not to be
empty, and their bounds are in order.
-/

namespace HostedFiles.Config

/-- The signer with the secret, the name and the bounds of the settings. -/
def signer (c : Config) : Except SignerError Signer :=
  Signer.make (Text.bytes c.tokenSecret) c.tokenIssuer c.leastLifetime c.mostLifetime

variable {c : Config} {signer : Signer}

/-- **The signer is as the settings say**, if there is one. -/
theorem of_signer (h : c.signer = .ok signer) :
    signer.secret = Text.bytes c.tokenSecret ∧ signer.issuer = c.tokenIssuer ∧
      signer.least = c.leastLifetime ∧ signer.most = c.mostLifetime := by
  rw [Config.signer, Signer.make] at h
  split at h
  · split at h
    · rw [← Except.ok.inj h]
      exact ⟨rfl, rfl, rfl, rfl⟩
    · cases h
  · cases h

/-- The secret of valid settings is not empty, and their bounds are in order. -/
theorem of_validate (h : c.validate = .ok ()) :
    Text.bytes c.tokenSecret ≠ [] ∧ c.leastLifetime.nanoseconds ≤ c.mostLifetime.nanoseconds := by
  rw [validate] at h
  split at h
  · cases h
  next hsecret =>
  split at h
  · cases h
  split at h
  · cases h
  next hbounds =>
  rw [not_or] at hbounds
  refine ⟨fun hnil => hsecret ?_, Nat.not_lt.1 hbounds.2⟩
  -- The settings count the bytes of the secret, and the signer looks whether it has any.
  have hsize := congrArg ByteArray.size (Text.toByteArray_bytes c.tokenSecret)
  rw [hnil] at hsize
  rw [minSecretBytes, ← String.size_toByteArray, ← hsize]
  decide

/-- **Valid settings describe a signer.** -/
theorem exists_signer (h : c.validate = .ok ()) : ∃ signer, c.signer = .ok signer := by
  have hok : c.signer.isOk = true := Signer.make_isOk_iff.2 (of_validate h)
  cases hsigner : c.signer with
  | ok signer => exact ⟨signer, rfl⟩
  | error e => rw [hsigner] at hok; cases hok

end HostedFiles.Config
