import Tenancy.Proofs.Access.Grants
import Tenancy.Proofs.Text.Utf8

/-!
# The only match

How the gate decides by a listing of the credentials, whatever control plane the
listing came from.  Exactly one secret in it has to match the token.  Where that
secret stands, and what else is in the listing, makes no difference.
-/

namespace Tenancy.Access

open Cluster Lifecycle

/-- A secret of a listing matches, and no other one does. -/
def OnlyMatch (token : String) (listing : List Secret) (secret : Secret) : Prop :=
  ∃ before after, listing = before ++ secret :: after ∧ Matches token secret ∧
    ∀ other ∈ before ++ after, ¬Matches token other

/-- Whatever control plane lists these credentials, the gate then decides so. -/
def Decides (space : String) (presented : Option String) (listing : List Secret)
    (decision : Decision) : Prop :=
  ∀ (State : Type) (plane : Plane State) (start : State),
    (plane.answer (.listSecrets space) start).1 = .ok listing →
      (plane.run (authorize space presented) start).1 = .ok (.ok decision)

/-- What the gate makes of a listing. -/
def decisionBy (presented : Option String) (listing : List Secret) : Decision :=
  match presented with
  | none => .denied
  | some token =>
      if token = "" then .denied else .ofCredentials token (listing.map .ofSecret)

section

variable {token : String} {listing other : List Secret} {secret : Secret}

theorem accepted_eq_nil_iff :
    accepted token listing = [] ↔ ∀ secret ∈ listing, ¬Matches token secret := by
  simp [accepted, List.filter_eq_nil_iff]

theorem accepted_eq_singleton_iff :
    accepted token listing = [secret] ↔ OnlyMatch token listing secret := by
  have none (part : List Secret) :
      (part.filter fun held => decide (Matches token held)) = [] ↔
        ∀ held ∈ part, ¬Matches token held := accepted_eq_nil_iff
  rw [accepted, List.filter_eq_cons_iff]
  simp only [none, decide_eq_true_iff]
  constructor
  · intro split
    obtain ⟨before, after, rfl, early, matched, late⟩ := split
    refine ⟨before, after, rfl, matched, ?_⟩
    intro held member
    rcases List.mem_append.1 member with first | second
    · exact early held first
    · exact late held second
  · intro only
    obtain ⟨before, after, rfl, matched, others⟩ := only
    refine ⟨before, after, rfl, ?_, matched, ?_⟩
    · intro held member
      exact others held (List.mem_append_left after member)
    · intro held member
      exact others held (List.mem_append_right before member)

theorem ofCredentials_eq_granted_iff {owner : String} :
    Decision.ofCredentials token (listing.map .ofSecret) = .granted owner ↔
      ∃ secret, OnlyMatch token listing secret ∧ owner = secret.metadata.name.getD "" := by
  rw [ofCredentials_eq]
  simp only [← accepted_eq_singleton_iff]
  rcases accepted token listing with _ | ⟨only, _ | ⟨second, rest⟩⟩
  · simp
  · simp [eq_comm]
  · simp

theorem ofCredentials_eq_denied_iff :
    Decision.ofCredentials token (listing.map .ofSecret) = .denied ↔
      ¬∃ secret, OnlyMatch token listing secret := by
  rw [ofCredentials_eq]
  simp only [← accepted_eq_singleton_iff]
  rcases accepted token listing with _ | ⟨only, _ | ⟨second, rest⟩⟩ <;> simp

/-- The order of the matching secrets does not matter to the gate. -/
theorem ofCredentials_congr (same : (accepted token listing).Perm (accepted token other)) :
    Decision.ofCredentials token (listing.map .ofSecret) =
      Decision.ofCredentials token (other.map .ofSecret) := by
  rw [ofCredentials_eq, ofCredentials_eq]
  match found : accepted token listing, accepted token other, same with
  | [], [], _ => rfl
  | [], _ :: _, same => simp at same
  | [only], second, same =>
      rw [List.singleton_perm.1 same]
  | first :: second :: rest, [], same => simp at same
  | first :: second :: rest, [single], same => simpa using same.length_eq
  | first :: second :: rest, third :: fourth :: remaining, _ => rfl

end

section

variable {space : String} {presented : Option String} {listing other : List Secret}

theorem decides_decisionBy : Decides space presented listing (decisionBy presented listing) := by
  intro State plane start listed
  rw [run_authorize_by, listed]
  cases presented with
  | none => rfl
  | some token =>
      by_cases empty : token = ""
      · simp only [verdict, decisionBy, if_pos empty]
      · simp only [verdict, decisionBy, if_neg empty]

theorem decisionBy_eq_granted_iff {owner : String} :
    decisionBy presented listing = .granted owner ↔ ∃ token secret, presented = some token ∧
      token ≠ "" ∧ OnlyMatch token listing secret ∧ owner = secret.metadata.name.getD "" := by
  cases presented with
  | none => simp [decisionBy]
  | some token =>
      by_cases empty : token = ""
      · simp [decisionBy, empty]
      · simp [decisionBy, empty, ofCredentials_eq_granted_iff]

theorem decisionBy_eq_denied_iff :
    decisionBy presented listing = .denied ↔
      ¬∃ token secret, presented = some token ∧ token ≠ "" ∧ OnlyMatch token listing secret := by
  cases presented with
  | none => simp [decisionBy]
  | some token =>
      by_cases empty : token = ""
      · simp [decisionBy, empty]
      · simp [decisionBy, empty, ofCredentials_eq_denied_iff]

/-- Only the secrets that match a token can make a difference. -/
theorem decisionBy_congr
    (same : ∀ token, presented = some token → token ≠ "" →
      (accepted token listing).Perm (accepted token other)) :
    decisionBy presented listing = decisionBy presented other := by
  cases presented with
  | none => rfl
  | some token =>
      by_cases empty : token = ""
      · simp only [decisionBy, if_pos empty]
      · simp only [decisionBy, if_neg empty]
        exact ofCredentials_congr (same token rfl empty)

theorem Decides.of_eq {decision : Decision} (same : decisionBy presented other = decision) :
    Decides space presented other decision :=
  same ▸ decides_decisionBy

/-- Secrets that do not match may come and go. -/
theorem decisionBy_insert {before added after : List Secret}
    (unmatched : ∀ token, presented = some token → token ≠ "" →
      ∀ secret ∈ added, ¬Matches token secret) :
    decisionBy presented (before ++ added ++ after) = decisionBy presented (before ++ after) := by
  apply decisionBy_congr
  intro token asked nonempty
  have none : accepted token added = [] :=
    accepted_eq_nil_iff.2 (unmatched token asked nonempty)
  have dropped : accepted token (before ++ added ++ after) = accepted token (before ++ after) := by
    simp only [accepted, List.filter_append] at none ⊢
    rw [none, List.append_nil]
  exact dropped ▸ .refl _

end

/-- A second match spoils the first one, wherever it stands. -/
theorem not_onlyMatch_of_two {token : String} {before after : List Secret} {first second : Secret}
    (member : first ∈ before ++ after) (matched : Matches token first)
    (matchedToo : Matches token second) :
    ∀ secret, ¬OnlyMatch token (before ++ second :: after) secret := by
  intro secret only
  have two : (accepted token (before ++ second :: after)).length =
      (accepted token (before ++ after)).length + 1 := by
    simp [accepted, matchedToo, Nat.add_assoc]
  have found : 0 < (accepted token (before ++ after)).length :=
    List.length_pos_of_mem (List.mem_filter.2 ⟨member, decide_eq_true matched⟩)
  have single : (accepted token (before ++ second :: after)).length = 1 := by
    rw [accepted_eq_singleton_iff.2 only, List.length_singleton]
  omega

theorem not_matches_blank {token : String} {secret : Secret}
    (blank : secret.datum? tokenKey = some "".toUTF8) (nonempty : token ≠ "") :
    ¬Matches token secret := by
  intro matched
  have same : "".toUTF8 = token.toUTF8 := Option.some.inj (blank.symm.trans matched.token)
  have read := Text.fromUTF8?_toUTF8 token
  rw [← same, Text.fromUTF8?_toUTF8] at read
  exact nonempty (Option.some.inj read).symm

/-- Every listing leads to one decision.  The gate lets an owner in if and only if
exactly one secret matches the token, which is not empty.  The order of a
listing and the secrets in it that do not match make no difference, a second
match locks everybody out, and a secret with an empty token counts for nothing. -/
theorem only_match_decides (space : String) (presented : Option String) (listing : List Secret) :
    ∃ decision, Decides space presented listing decision ∧
      (∀ owner, decision = .granted owner ↔ ∃ token secret, presented = some token ∧
        token ≠ "" ∧ OnlyMatch token listing secret ∧ owner = secret.metadata.name.getD "") ∧
      (decision = .denied ↔
        ¬∃ token secret, presented = some token ∧ token ≠ "" ∧ OnlyMatch token listing secret) ∧
      (∀ other, listing.Perm other → Decides space presented other decision) ∧
      (∀ before added after, listing = before ++ after →
        (∀ token, presented = some token → ∀ secret ∈ added, ¬Matches token secret) →
          Decides space presented (before ++ added ++ after) decision) ∧
      (∀ before removed after, listing = before ++ removed ++ after →
        (∀ token, presented = some token → ∀ secret ∈ removed, ¬Matches token secret) →
          Decides space presented (before ++ after) decision) ∧
      (∀ token before second after, presented = some token → listing = before ++ after →
        (∃ first ∈ listing, Matches token first) → Matches token second →
          Decides space presented (before ++ second :: after) .denied) ∧
      ∀ before blank after, listing = before ++ after →
        blank.datum? tokenKey = some "".toUTF8 →
          Decides space presented (before ++ blank :: after) decision := by
  refine ⟨decisionBy presented listing, decides_decisionBy, fun _ => decisionBy_eq_granted_iff,
    decisionBy_eq_denied_iff, ?_, ?_, ?_, ?_, ?_⟩
  · intro other permuted
    apply Decides.of_eq
    apply decisionBy_congr
    intro token _ _
    exact (permuted.filter _).symm
  · intro before added after same unmatched
    rw [same]
    exact .of_eq (decisionBy_insert fun token asked _ => unmatched token asked)
  · intro before removed after same unmatched
    rw [same]
    exact .of_eq (decisionBy_insert fun token asked _ => unmatched token asked).symm
  · intro token before second after asked same found matchedToo
    obtain ⟨first, member, matched⟩ := found
    apply Decides.of_eq
    rw [decisionBy_eq_denied_iff]
    rintro ⟨other, secret, askedToo, _, only⟩
    cases asked.symm.trans askedToo
    exact not_onlyMatch_of_two (same ▸ member) matched matchedToo secret only
  · intro before blank after same empty
    rw [same]
    have added : before ++ blank :: after = before ++ [blank] ++ after := by simp
    rw [added]
    apply Decides.of_eq
    apply decisionBy_insert
    intro token _ nonempty secret member
    rw [List.mem_singleton.1 member]
    exact not_matches_blank empty nonempty

end Tenancy.Access
