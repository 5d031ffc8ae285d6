import Tenancy.Proofs.Settings.Reading
import Tenancy.Proofs.Text.Blank

/-!
# The namespace of the credentials

Which namespace a configuration names for the credentials, and when it names
none.  The variable is passed over when nothing but blank characters are in it;
the file is not.
-/

namespace Tenancy.Settings

open Text

/-- Nothing, or nothing but blank characters, is in the variable. -/
def Unnamed (environment : Variables) : Prop :=
  ∀ value, environment "POD_NAMESPACE" = some value → AllBlank value.toList

/-- Where the name of a namespace comes from: from the variable, or from the file
when the variable has none. -/
inductive NamedBy (environment : Variables) (file : NamespaceFile) (name : String) : Prop where
  | ofVariable {value : String} (set : environment "POD_NAMESPACE" = some value)
      (stripped : Stripped value name) (filled : name ≠ "")
  | ofFile {text : String} (unnamed : Unnamed environment) (read : file.text = .ok text)
      (stripped : Stripped text name)

section

variable {environment : Variables} {file : NamespaceFile} {name : String}

theorem unnamed_iff : Unnamed environment ↔
    (environment "POD_NAMESPACE").filter (fun value => trim value != "") = none := by
  simp only [Unnamed, Option.filter_eq_none_iff, bne_iff_ne, ne_eq, Classical.not_not,
    trim_eq_empty_iff]

theorem readCredentialSpace_of_unnamed (unnamed : Unnamed environment) :
    Config.readCredentialSpace environment file =
      (file.text.map trim).mapError .missingNamespace := by
  rw [Config.readCredentialSpace, unnamed_iff.1 unnamed]
  cases file.text <;> rfl

theorem readCredentialSpace_of_set {value : String}
    (set : environment "POD_NAMESPACE" = some value) (filled : trim value ≠ "") :
    Config.readCredentialSpace environment file = .ok (trim value) := by
  have kept : (environment "POD_NAMESPACE").filter (fun value => trim value != "") =
      some value := by
    simpa [Option.filter_eq_some_iff, set] using filled
  rw [Config.readCredentialSpace, kept]

theorem readCredentialSpace_eq_ok_iff :
    Config.readCredentialSpace environment file = .ok name ↔ NamedBy environment file name := by
  constructor
  · intro read
    cases chosen : (environment "POD_NAMESPACE").filter fun value => trim value != "" with
    | some value =>
        obtain ⟨set, filled⟩ := Option.filter_eq_some_iff.1 chosen
        have filled : trim value ≠ "" := bne_iff_ne.1 filled
        rw [readCredentialSpace_of_set set filled] at read
        cases read
        exact .ofVariable set (stripped_trim value) filled
    | none =>
        have unnamed : Unnamed environment := unnamed_iff.2 chosen
        rw [readCredentialSpace_of_unnamed unnamed] at read
        cases text : file.text with
        | error fault =>
            rw [text] at read
            cases read
        | ok contents =>
            rw [text] at read
            cases read
            exact .ofFile unnamed text (stripped_trim contents)
  · intro named
    cases named with
    | ofVariable set stripped filled =>
        obtain rfl := trim_eq_iff.2 stripped
        exact readCredentialSpace_of_set set filled
    | ofFile unnamed read stripped =>
        obtain rfl := trim_eq_iff.2 stripped
        rw [readCredentialSpace_of_unnamed unnamed, read]
        rfl

theorem NamedBy.trimmed (named : NamedBy environment file name) : Trimmed name := by
  cases named with
  | ofVariable _ stripped _ => exact stripped.trimmed
  | ofFile _ _ stripped => exact stripped.trimmed

/-- Only a blank file gives the empty name. -/
theorem NamedBy.eq_empty_iff (named : NamedBy environment file name) :
    name = "" ↔ Unnamed environment ∧ ∃ text, file.text = .ok text ∧ AllBlank text.toList := by
  cases named with
  | ofVariable set stripped filled =>
      constructor
      · intro empty
        exact absurd empty filled
      · intro blank
        have empty := trim_eq_empty_iff.2 (blank.1 _ set)
        exact absurd ((trim_eq_iff.2 stripped).symm.trans empty) filled
  | ofFile unnamed read stripped =>
      obtain rfl := trim_eq_iff.2 stripped
      rw [trim_eq_empty_iff]
      constructor
      · intro blank
        exact ⟨unnamed, _, read, blank⟩
      · intro blank
        obtain ⟨_, text, same, blank⟩ := blank
        cases read.symm.trans same
        exact blank

end

/-- A configuration that comes about names the namespace that the variable or the
file gives, without blank ends.  Where neither gives a text there is an error.
The name is empty just when the file that is read is blank. -/
theorem credential_space_named (environment : Variables) (file : NamespaceFile) :
    (∀ config, Config.read environment file = .ok config →
      NamedBy environment file config.credentialSpace ∧ Trimmed config.credentialSpace ∧
        (config.credentialSpace = "" ↔
          Unnamed environment ∧ ∃ text, file.text = .ok text ∧ AllBlank text.toList)) ∧
    (Unnamed environment → (∀ text, file.text ≠ .ok text) →
      ∃ cause, Config.read environment file = .error cause) := by
  refine ⟨?_, ?_⟩
  · intro config read
    have named := readCredentialSpace_eq_ok_iff.1 (read_eq_ok_iff.1 read).credentialSpace
    exact ⟨named, named.trimmed, named.eq_empty_iff⟩
  · intro unnamed unreadable
    apply exists_error_of_not_ok
    intro config read
    cases readCredentialSpace_eq_ok_iff.1 (read_eq_ok_iff.1 read).credentialSpace with
    | ofVariable set stripped filled =>
        have empty := trim_eq_empty_iff.2 (unnamed _ set)
        exact filled ((trim_eq_iff.2 stripped).symm.trans empty)
    | ofFile _ text _ => exact unreadable _ text

/-- A blank variable is passed over for the file, and there is an error without one. -/
theorem credential_space_named_by_file :
    let environment : Variables := fun name => if name = "POD_NAMESPACE" then some " " else none
    (∃ config, Config.read environment (.contents ⟨#[32, 97, 10]⟩) = .ok config ∧
      Trimmed config.credentialSpace ∧ config.credentialSpace ≠ "") ∧
    ∃ cause, Config.read environment .missing = .error cause := by
  intro environment
  have unnamed : Unnamed environment := unnamed_iff.2 (by decide)
  have textless : ∀ text, NamespaceFile.missing.text ≠ .ok text := by simp [NamespaceFile.text]
  refine ⟨?_, (credential_space_named environment .missing).2 unnamed textless⟩
  have succeeds : (Config.read environment (.contents ⟨#[32, 97, 10]⟩)).isOk = true := by decide
  cases read : Config.read environment (.contents ⟨#[32, 97, 10]⟩) with
  | error cause =>
      rw [read] at succeeds
      cases succeeds
  | ok config =>
      obtain ⟨_, trimmed, empty⟩ := (credential_space_named environment _).1 config read
      refine ⟨config, rfl, trimmed, ?_⟩
      intro nothing
      obtain ⟨_, text, same, blank⟩ := empty.1 nothing
      have contents : (NamespaceFile.contents ⟨#[32, 97, 10]⟩).text = .ok " a\n" := by rfl
      cases contents.symm.trans same
      exact absurd (blank 'a' (by decide)) (by decide)

/-- A blank file passes for a name. -/
theorem blank_file_names_nothing :
    ∃ config, Config.read (fun _ => none) (.contents ⟨#[32, 10]⟩) = .ok config ∧
      config.credentialSpace = "" := by
  have empty : (Config.read (fun _ => none) (.contents ⟨#[32, 10]⟩)).map (·.credentialSpace) =
      .ok "" := by rfl
  cases read : Config.read (fun _ => none) (.contents ⟨#[32, 10]⟩) with
  | error cause =>
      rw [read] at empty
      cases empty
  | ok config =>
      rw [read] at empty
      exact ⟨config, rfl, Except.ok.inj empty⟩

end Tenancy.Settings
