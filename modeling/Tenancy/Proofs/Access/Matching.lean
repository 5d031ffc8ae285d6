import Mathlib.Tactic.MkIffOfInductiveProp
import Tenancy.Access.Credential
import Tenancy.Proofs.Text.Utf8

/-!
# Secrets that match

A secret matches a token when it gives the role of a user and holds the token, octet
by octet.  These are the secrets whose credentials accept the token.
-/

namespace Tenancy.Access

open Cluster

/-- A secret gives the role of a user and, octet by octet, this token. -/
@[mk_iff]
structure Matches (token : String) (secret : Secret) : Prop where
  role : secret.metadata.annotation? roleAnnotation = some userRole
  token : secret.datum? tokenKey = some token.toUTF8

instance (token : String) (secret : Secret) : Decidable (Matches token secret) :=
  haveI := ByteArray.instDecidableEq
  decidable_of_iff' _ (matches_iff token secret)

theorem accepts_iff {token : String} {secret : Secret} :
    (Credential.ofSecret secret).accepts token = true ↔ Matches token secret := by
  have held : (Credential.ofSecret secret).token = some token ↔
      secret.datum? tokenKey = some token.toUTF8 := by
    simp [Credential.ofSecret, Option.bind_eq_some_iff, Text.fromUTF8?_eq_some_iff]
  simp only [Credential.accepts, Credential.isEligible, Bool.and_eq_true, beq_iff_eq]
  constructor
  · intro accepted
    obtain ⟨⟨role, _⟩, token⟩ := accepted
    exact ⟨role, held.1 token⟩
  · intro matched
    have token := held.2 matched.token
    exact ⟨⟨matched.role, by rw [token]; rfl⟩, token⟩

/-- The secrets of a listing that match a token, in its order. -/
def accepted (token : String) (secrets : List Secret) : List Secret :=
  secrets.filter fun secret => Matches token secret

theorem filter_accepts (token : String) (secrets : List Secret) :
    (secrets.map .ofSecret).filter (Credential.accepts · token) =
      (accepted token secrets).map .ofSecret := by
  rw [List.filter_map, accepted]
  congr 2
  funext secret
  rw [Bool.eq_iff_iff, decide_eq_true_iff]
  exact accepts_iff

end Tenancy.Access
