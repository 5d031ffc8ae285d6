import Tenancy.Proofs.Cluster.Footprint
import Tenancy.Proofs.Text.Digits

/-!
# Well-formed contents

What objects have in common that nothing but calls has ever changed.  Each of
them has a place of its own in a namespace that exists, and no call breaks this.
As long as the versions do not start over, each of them also has a version of its
own, by which the objects of a kind are in order.
-/

namespace Tenancy.Cluster

variable {before after : Contents} {version stamps number : Nat} {space : String}

/-- The first object is of an earlier version than the second one. -/
def Metadata.Precedes (first second : Metadata) : Prop :=
  ∃ earlier later, first.HasVersion earlier ∧ second.HasVersion later ∧ earlier < later

/-- The metadata of the objects of every kind. -/
def Contents.kinds (contents : Contents) : List (List Metadata) :=
  [contents.namespaces.map (·.metadata), contents.pods.map (·.metadata),
    contents.secrets.map (·.metadata), contents.accounts.map (·.metadata),
    contents.bindings.map (·.metadata)]

/-- Every object has a version that was given out to it alone, and later ones
have later versions. -/
structure Numbered (kinds : List (List Metadata)) (version : Nat) : Prop where
  bounded : ∀ kind ∈ kinds, ∀ held ∈ kind,
    ∃ number, 0 < number ∧ number ≤ version ∧ held.HasVersion number
  distinct : (kinds.flatten.map (·.version)).Nodup
  increasing : ∀ kind ∈ kinds, kind.Pairwise Metadata.Precedes

/-- Objects of one kind that live in existing namespaces, with a name of its own
for each of them. -/
structure Housed (contents : Contents) (objects : List Metadata) : Prop where
  placed : ∀ held ∈ objects, ∃ space name,
    held.space = some space ∧ held.name = some name ∧ contents.Has space
  distinct : (objects.map fun held => (held.space, held.name)).Nodup

structure WellFormed (contents : Contents) : Prop where
  named : ∀ held ∈ contents.namespaces, ∃ name, held.metadata.name = some name
  distinct : DistinctNames contents
  secrets : Housed contents (contents.secrets.map (·.metadata))
  accounts : Housed contents (contents.accounts.map (·.metadata))
  bindings : Housed contents (contents.bindings.map (·.metadata))

theorem nodup_map_concat {Object Key : Type} {key : Object → Key} {objects : List Object}
    {added : Object} (distinct : (objects.map key).Nodup)
    (apart : ∀ held ∈ objects, key held ≠ key added) :
    ((objects ++ [added]).map key).Nodup := by
  rw [List.map_append, List.map_singleton]
  refine List.nodup_append.2 ⟨distinct, by simp, ?_⟩
  intro value old other new same
  obtain ⟨held, member, known⟩ := List.mem_map.1 old
  exact apart held member (known.trans (same.trans (List.mem_singleton.1 new)))

section

variable {kind : List Metadata} {later kinds : List (List Metadata)}
variable {held : Metadata}

theorem Numbered.apart (numbered : Numbered kinds version) (member : held ∈ kinds.flatten)
    {added : Metadata} (fresh : added.HasVersion (version + 1)) :
    held.version ≠ added.version := by
  obtain ⟨kind, listed, inside⟩ := List.mem_flatten.1 member
  obtain ⟨number, _, atMost, known⟩ := numbered.bounded kind listed held inside
  intro same
  have texts : Text.decimal number = Text.decimal (version + 1) :=
    Option.some.inj (known.symm.trans (same.trans fresh))
  have equal := Text.decimal_injective texts
  omega

/-- The next version goes to an object at the end of its kind. -/
theorem Numbered.add (earlier : List (List Metadata))
    (numbered : Numbered (earlier ++ kind :: later) version)
    (fresh : held.HasVersion (version + 1)) :
    Numbered (earlier ++ (kind ++ [held]) :: later) (version + 1) where
  bounded := by
    intro row listed other member
    have old : other = held ∨ ∃ row ∈ earlier ++ kind :: later, other ∈ row := by
      simp only [List.mem_append, List.mem_cons] at listed ⊢
      rcases listed with before | rfl | after
      · exact .inr ⟨row, .inl before, member⟩
      · rcases List.mem_append.1 member with inside | last
        · exact .inr ⟨kind, .inr (.inl rfl), inside⟩
        · exact .inl (List.mem_singleton.1 last)
      · exact .inr ⟨row, .inr (.inr after), member⟩
    rcases old with rfl | ⟨row, listed, member⟩
    · exact ⟨version + 1, Nat.succ_pos version, Nat.le_refl _, fresh⟩
    · obtain ⟨number, positive, atMost, known⟩ := numbered.bounded row listed other member
      exact ⟨number, positive, Nat.le_succ_of_le atMost, known⟩
  distinct := by
    have moved : (earlier ++ (kind ++ [held]) :: later).flatten.Perm
        ((earlier ++ kind :: later).flatten ++ [held]) := by
      simp only [List.flatten_append, List.flatten_cons, List.append_assoc]
      exact ((List.perm_append_comm.append_left kind).append_left _)
    refine (moved.map _).nodup_iff.2 (nodup_map_concat numbered.distinct ?_)
    intro other member
    exact numbered.apart member fresh
  increasing := by
    intro row listed
    simp only [List.mem_append, List.mem_cons] at listed
    rcases listed with before | rfl | after
    · exact numbered.increasing row (by simp [before])
    · have listed : kind ∈ earlier ++ kind :: later := by simp
      refine List.pairwise_append.2
        ⟨numbered.increasing kind listed, List.pairwise_singleton _ _, ?_⟩
      intro other member last isLast
      obtain ⟨number, _, atMost, known⟩ := numbered.bounded kind listed other member
      rw [List.mem_singleton.1 isLast]
      exact ⟨number, version + 1, known, fresh, Nat.lt_succ_of_le atMost⟩
    · exact numbered.increasing row (by simp [after])

end

/-- Some of the objects, in the same order. -/
structure Contents.Part (part whole : Contents) : Prop where
  namespaces : part.namespaces.Sublist whole.namespaces
  pods : part.pods.Sublist whole.pods
  secrets : part.secrets.Sublist whole.secrets
  accounts : part.accounts.Sublist whole.accounts
  bindings : part.bindings.Sublist whole.bindings

theorem part_without (contents : Contents) (space : String) :
    (contents.without space).Part contents :=
  ⟨List.filter_sublist, List.filter_sublist, List.filter_sublist, List.filter_sublist,
    List.filter_sublist⟩

theorem part_withoutPod (contents : Contents) (space name : String) :
    (contents.withoutPod space name).Part contents :=
  ⟨List.Sublist.refl _, List.filter_sublist, List.Sublist.refl _, List.Sublist.refl _,
    List.Sublist.refl _⟩

/-- Versions stay in order when objects are taken away. -/
theorem Numbered.part {part whole : Contents} (numbered : Numbered whole.kinds version)
    (taken : part.Part whole) : Numbered part.kinds version := by
  obtain ⟨namespaces, pods, secrets, accounts, bindings⟩ := taken
  have fewer : part.kinds.flatten.Sublist whole.kinds.flatten := by
    simp only [Contents.kinds, List.flatten_cons]
    exact (namespaces.map _).append ((pods.map _).append ((secrets.map _).append
      ((accounts.map _).append ((bindings.map _).append (List.Sublist.refl _)))))
  have thinner : ∀ kind ∈ part.kinds, ∃ full ∈ whole.kinds, kind.Sublist full := by
    simp only [Contents.kinds, List.mem_cons, List.not_mem_nil, or_false]
    rintro kind (rfl | rfl | rfl | rfl | rfl)
    · exact ⟨_, .inl rfl, namespaces.map _⟩
    · exact ⟨_, .inr (.inl rfl), pods.map _⟩
    · exact ⟨_, .inr (.inr (.inl rfl)), secrets.map _⟩
    · exact ⟨_, .inr (.inr (.inr (.inl rfl))), accounts.map _⟩
    · exact ⟨_, .inr (.inr (.inr (.inr rfl))), bindings.map _⟩
  constructor
  · intro kind listed held member
    obtain ⟨full, known, sublist⟩ := thinner kind listed
    exact numbered.bounded full known held (sublist.subset member)
  · exact numbered.distinct.sublist (fewer.map _)
  · intro kind listed
    obtain ⟨full, known, sublist⟩ := thinner kind listed
    exact (numbered.increasing full known).sublist sublist

theorem Contents.Has.append {contents : Contents} (has : contents.Has space) (added : Contents) :
    (contents ++ added).Has space := by
  obtain ⟨held, member, named⟩ := has
  exact ⟨held, List.mem_append_left _ member, named⟩

theorem Contents.Has.without {contents : Contents} {removed : String}
    (has : contents.Has space) (apart : space ≠ removed) :
    (contents.without removed).Has space := by
  obtain ⟨held, member, named⟩ := has
  refine ⟨held, List.mem_filter.2 ⟨member, ?_⟩, named⟩
  simp [isNamed_of_isNamed apart.symm named]

section

variable {objects : List Metadata} {asked added : Metadata}

theorem Housed.mono (housed : Housed before objects)
    (covers : ∀ space, before.Has space → after.Has space) : Housed after objects where
  placed held member := by
    obtain ⟨space, name, inside, named, has⟩ := housed.placed held member
    exact ⟨space, name, inside, named, covers space has⟩
  distinct := housed.distinct

theorem Housed.add (housed : Housed before objects)
    (placed : Placed before stamps space asked added objects) :
    Housed before (objects ++ [added]) where
  placed := by
    intro held member
    rcases List.mem_append.1 member with old | new
    · exact housed.placed held old
    · obtain ⟨name, atPlace, _⟩ := placed.free
      simp only [Store.isAt, Metadata.isIn, Metadata.isNamed, Bool.and_eq_true,
        beq_iff_eq] at atPlace
      rw [List.mem_singleton.1 new]
      exact ⟨space, name, atPlace.1, atPlace.2, placed.has⟩
  distinct := by
    refine nodup_map_concat housed.distinct ?_
    intro held member same
    obtain ⟨name, atPlace, free⟩ := placed.free
    have elsewhere := free held member
    simp only [Prod.mk.injEq] at same
    simp only [Store.isAt, Metadata.isIn, Metadata.isNamed, same.1, same.2] at elsewhere atPlace
    rw [atPlace] at elsewhere
    cases elsewhere

/-- The objects of a kind that do not live in a deleted namespace keep theirs. -/
theorem Housed.without {Object : Type} {metadata : Object → Metadata} {objects : List Object}
    (housed : Housed before (objects.map metadata)) (removed : String) :
    Housed (before.without removed)
      ((objects.filter fun held => !(metadata held).isIn removed).map metadata) where
  placed := by
    intro kept member
    obtain ⟨held, listed, rfl⟩ := List.mem_map.1 member
    obtain ⟨old, outside⟩ := List.mem_filter.1 listed
    obtain ⟨space, name, inside, named, has⟩ :=
      housed.placed (metadata held) (List.mem_map_of_mem old)
    have apart : space ≠ removed := by
      rintro rfl
      simp [Metadata.isIn, inside] at outside
    exact ⟨space, name, inside, named, has.without apart⟩
  distinct := housed.distinct.sublist ((List.filter_sublist.map _).map _)

end

section

variable (wellFormed : WellFormed before)

include wellFormed

/-- Objects other than namespaces may come in where they are housed. -/
theorem WellFormed.add {added : Contents} (apart : added.namespaces = [])
    (secrets : Housed before ((before ++ added).secrets.map (·.metadata)))
    (accounts : Housed before ((before ++ added).accounts.map (·.metadata)))
    (bindings : Housed before ((before ++ added).bindings.map (·.metadata))) :
    WellFormed (before ++ added) where
  named := by
    rw [Contents.namespaces_append, apart, List.append_nil]
    exact wellFormed.named
  distinct := by
    rw [DistinctNames, Contents.namespaces_append, apart, List.append_nil]
    exact wellFormed.distinct
  secrets := secrets.mono fun _ has => has.append added
  accounts := accounts.mono fun _ has => has.append added
  bindings := bindings.mono fun _ has => has.append added

theorem WellFormed.addNamespace {held : Namespace} {name : String}
    (known : held.metadata.name = some name) (free : ¬before.Has name) :
    WellFormed (before ++ { namespaces := [held] }) where
  named := by
    intro other member
    rcases List.mem_append.1 member with old | new
    · exact wellFormed.named other old
    · rw [List.mem_singleton.1 new]
      exact ⟨name, known⟩
  distinct := by
    have isNamed : held.metadata.isNamed name = true := by simp [Metadata.isNamed, known]
    exact wellFormed.distinct.append free (within_namespace isNamed) (Nat.le_refl 1)
  secrets := by simpa using wellFormed.secrets.mono fun _ has => has.append _
  accounts := by simpa using wellFormed.accounts.mono fun _ has => has.append _
  bindings := by simpa using wellFormed.bindings.mono fun _ has => has.append _

theorem WellFormed.without (removed : String) : WellFormed (before.without removed) where
  named := fun held member => wellFormed.named held (List.mem_filter.1 member).1
  distinct := wellFormed.distinct.without removed
  secrets := wellFormed.secrets.without removed
  accounts := wellFormed.accounts.without removed
  bindings := wellFormed.bindings.without removed

/-- No call makes well-formed contents ill-formed. -/
theorem WellFormed.kept {call : Call} (effect : Effect before stamps call after number) :
    WellFormed after := by
  cases effect with
  | unchanged => exact wellFormed
  | madeNamespace named free => exact wellFormed.addNamespace named free
  | madeSecret placed =>
      apply wellFormed.add rfl
      · simpa using wellFormed.secrets.add placed
      · simpa using wellFormed.accounts
      · simpa using wellFormed.bindings
  | madeAccount placed =>
      apply wellFormed.add rfl
      · simpa using wellFormed.secrets
      · simpa using wellFormed.accounts.add placed
      · simpa using wellFormed.bindings
  | madeBinding placed =>
      apply wellFormed.add rfl
      · simpa using wellFormed.secrets
      · simpa using wellFormed.accounts
      · simpa using wellFormed.bindings.add placed
  | deletedNamespace => exact wellFormed.without _
  | @deletedPod space name =>
      have same : ∀ other, before.Has other → (before.withoutPod space name).Has other :=
        fun _ has => has
      exact ⟨wellFormed.named, wellFormed.distinct, wellFormed.secrets.mono same,
        wellFormed.accounts.mono same, wellFormed.bindings.mono same⟩

end

/-- Before the versions start over, they count the stamps. -/
theorem toNat_version (fits : stamps < UInt64.size) : (UInt64.ofNat stamps).toNat = stamps :=
  UInt64.toNat_ofNat_of_lt fits

theorem toNat_nextVersion (fits : stamps + 1 < UInt64.size) :
    (UInt64.ofNat stamps + 1).toNat = stamps + 1 := by
  rw [← UInt64.ofNat_one, ← UInt64.ofNat_add]
  exact toNat_version fits

/-- The version of a new object is the number of its stamp. -/
theorem Metadata.HasVersion.ofStamp {held : Metadata}
    (given : held.HasVersion (UInt64.ofNat stamps + 1).toNat) (fits : stamps + 1 < UInt64.size) :
    held.HasVersion (stamps + 1) := by
  rw [toNat_nextVersion fits] at given
  exact given

/-- A call that does not make the versions start over keeps them in order. -/
theorem Numbered.kept {call : Call} (numbered : Numbered before.kinds stamps)
    (effect : Effect before stamps call after number) (fits : number < UInt64.size) :
    Numbered after.kinds number := by
  cases effect with
  | unchanged => exact numbered
  | @madeNamespace object name store named free current =>
      have given : (store.stamped object.metadata).HasVersion (UInt64.ofNat stamps + 1).toNat :=
        current ▸ rfl
      simpa [Contents.kinds] using Numbered.add [] numbered (given.ofStamp fits)
  | madeSecret placed =>
      have fresh := placed.numbered.ofStamp fits
      simpa [Contents.kinds] using Numbered.add [_, _] numbered fresh
  | madeAccount placed =>
      have fresh := placed.numbered.ofStamp fits
      simpa [Contents.kinds] using Numbered.add [_, _, _] numbered fresh
  | madeBinding placed =>
      have fresh := placed.numbered.ofStamp fits
      simpa [Contents.kinds] using Numbered.add [_, _, _, _] numbered fresh
  | deletedNamespace => exact numbered.part (part_without before _)
  | deletedPod => exact numbered.part (part_withoutPod before _ _)

end Tenancy.Cluster
