import Mathlib.Logic.Relation
import Tenancy.Proofs.Json.Text
import Tenancy.Proofs.Time.Rfc3339
import Tenancy.Workspace.Wire

/-!
# Records read back from their objects

An object may be rewritten without saying anything else: members with other
names come in, a null that may be left out goes, a time is told by the clocks
at another offset, and the order of the members changes.  However often this is
done to the object of a record, the record is what is read.
-/

namespace Tenancy

namespace Json

variable {name : String} {members : List (String × Json)}

theorem membersNamed_append (name : String) (before after : List (String × Json)) :
    membersNamed name (before ++ after) = membersNamed name before ++ membersNamed name after := by
  simp [membersNamed]

theorem membersNamed_cons_self (name : String) (value : Json) (members : List (String × Json)) :
    membersNamed name ((name, value) :: members) = value :: membersNamed name members := by
  simp [membersNamed]

theorem membersNamed_cons_of_ne {other : String} (different : other ≠ name) (value : Json)
    (members : List (String × Json)) :
    membersNamed name ((other, value) :: members) = membersNamed name members := by
  simp [membersNamed, different]

theorem membersNamed_perm {reordered : List (String × Json)} (same : members.Perm reordered)
    (name : String) : (membersNamed name members).Perm (membersNamed name reordered) :=
  (same.filter _).map _

/-- An object in which no field is there twice gives each one's value, if it has one. -/
theorem recordFields?_object {names : List String}
    (single : ∀ name ∈ names, (membersNamed name members).length ≤ 1) :
    recordFields? names (.object members) =
      some (names.map fun name => (membersNamed name members).head?) := by
  rw [recordFields?, fieldsFrom?]
  induction names with
  | nil => rfl
  | cons name names induction =>
      have others := induction fun other member => single other (List.mem_cons_of_mem _ member)
      have one := single name List.mem_cons_self
      rw [List.mapM_cons, others]
      match found : membersNamed name members with
      | [] => simp [found]
      | [value] => simp [found]
      | first :: second :: rest => simp [found] at one

end Json

namespace Workspace

open Json Rfc3339

/-- The members of a record's object: all names, those that may be missing, and those of times. -/
structure Fields where
  names : List String
  optional : List String
  times : List String

/-- A change to an object after which it says the same. -/
inductive Rewrites (fields : Fields) : Json → Json → Prop where
  | addUnknown {name : String} (unknown : name ∉ fields.names) (value : Json)
      (before after : List (String × Json)) :
      Rewrites fields (.object (before ++ after)) (.object (before ++ (name, value) :: after))
  | dropNull {name : String} (optional : name ∈ fields.optional)
      (before after : List (String × Json)) :
      Rewrites fields (.object (before ++ (name, .null) :: after)) (.object (before ++ after))
  | moveTime {name text moved : String} {instant : Instant} (time : name ∈ fields.times)
      (shown : Shows text instant) (elsewhere : Shows moved instant)
      (before after : List (String × Json)) :
      Rewrites fields (.object (before ++ (name, .string text) :: after))
        (.object (before ++ (name, .string moved) :: after))
  | reorder {members reordered : List (String × Json)} (same : members.Perm reordered) :
      Rewrites fields (.object members) (.object reordered)

/-- Any number of changes. -/
def Rewritten (fields : Fields) : Json → Json → Prop := Relation.ReflTransGen (Rewrites fields)

/-- What is found under a name says what the value said there. -/
inductive Stands (fields : Fields) (name : String) (value : Json) : List Json → Prop where
  | same : Stands fields name value [value]
  | dropped (optional : name ∈ fields.optional) (null : value = .null) :
      Stands fields name value []
  | moved {text later : String} {instant : Instant} (time : name ∈ fields.times)
      (told : value = .string text) (shown : Shows text instant)
      (elsewhere : Shows later instant) : Stands fields name value [.string later]

/-- Each of a record's fields is found in the object's members, or may be missing. -/
def Carries (fields : Fields) (valueOf : String → Json) (members : List (String × Json)) : Prop :=
  ∀ name ∈ fields.names, Stands fields name (valueOf name) (membersNamed name members)

/-- What an object has under a name first. -/
def valueIn (members : List (String × Json)) (name : String) : Json :=
  (membersNamed name members).head?.getD .null

theorem carries_self {fields : Fields} {members : List (String × Json)}
    (once : ∀ name ∈ fields.names, (membersNamed name members).length = 1) :
    Carries fields (valueIn members) members := by
  intro name known
  obtain ⟨value, alone⟩ := List.length_eq_one_iff.1 (once name known)
  rw [valueIn, alone]
  exact .same

section

variable {fields : Fields} {name : String} {value : Json} {found : List Json}

theorem Stands.length_le_one (stands : Stands fields name value found) : found.length ≤ 1 := by
  cases stands <;> simp

theorem Stands.perm {reordered : List Json} (stands : Stands fields name value found)
    (same : found.Perm reordered) : Stands fields name value reordered := by
  have unchanged : reordered = found := by
    cases stands with
    | same => exact List.perm_singleton.1 same.symm
    | dropped => exact List.nil_perm.1 same
    | moved => exact List.perm_singleton.1 same.symm
  rw [unchanged]
  exact stands

/-- A value between others stands alone. -/
theorem Stands.alone {before after : List Json} {one : Json}
    (stands : Stands fields name value (before ++ one :: after)) : before = [] ∧ after = [] := by
  have short := stands.length_le_one
  simp only [List.length_append, List.length_cons] at short
  exact ⟨List.eq_nil_of_length_eq_zero (by omega), List.eq_nil_of_length_eq_zero (by omega)⟩

theorem Stands.drop_null (stands : Stands fields name value [.null])
    (optional : name ∈ fields.optional) : Stands fields name value [] := by
  cases stands with
  | same => exact .dropped optional rfl

theorem Stands.move {text later : String} {instant : Instant}
    (stands : Stands fields name value [.string text]) (time : name ∈ fields.times)
    (shown : Shows text instant) (elsewhere : Shows later instant) :
    Stands fields name value [.string later] := by
  cases stands with
  | same => exact .moved time rfl shown elsewhere
  | @moved first _ origin _ told before now =>
      have same : origin = instant := Option.some.inj (now.read?.symm.trans shown.read?)
      exact .moved time told before (same ▸ elsewhere)

/-- Every change leaves each field what it was. -/
theorem Carries.rewritten_once {valueOf : String → Json} {members : List (String × Json)}
    {json : Json} (carries : Carries fields valueOf members)
    (rewrites : Rewrites fields (.object members) json) :
    ∃ changed, json = .object changed ∧ Carries fields valueOf changed := by
  generalize origin : Json.object members = object at rewrites
  -- A change that concerns a field meets its only member, and one that does not leaves
  -- what is found under its name.
  cases rewrites with
  | @addUnknown other unknown value before after =>
      obtain rfl := Json.object.inj origin
      refine ⟨_, rfl, ?_⟩
      intro name known
      have different : other ≠ name := fun same => unknown (same ▸ known)
      have stands := carries name known
      rw [membersNamed_append] at stands ⊢
      rwa [membersNamed_cons_of_ne different]
  | @dropNull other optional before after =>
      obtain rfl := Json.object.inj origin
      refine ⟨_, rfl, ?_⟩
      intro name known
      have stands := carries name known
      rw [membersNamed_append] at stands ⊢
      by_cases same : other = name
      · subst same
        rw [membersNamed_cons_self] at stands
        obtain ⟨noneBefore, noneAfter⟩ := stands.alone
        rw [noneBefore, noneAfter] at stands ⊢
        exact stands.drop_null optional
      · rwa [membersNamed_cons_of_ne same] at stands
  | @moveTime other text moved instant time shown elsewhere before after =>
      obtain rfl := Json.object.inj origin
      refine ⟨_, rfl, ?_⟩
      intro name known
      have stands := carries name known
      rw [membersNamed_append] at stands ⊢
      by_cases same : other = name
      · subst same
        rw [membersNamed_cons_self] at stands ⊢
        obtain ⟨noneBefore, noneAfter⟩ := stands.alone
        rw [noneBefore, noneAfter] at stands ⊢
        exact stands.move time shown elsewhere
      · rwa [membersNamed_cons_of_ne same] at stands ⊢
  | reorder same =>
      obtain rfl := Json.object.inj origin
      exact ⟨_, rfl, fun name known => (carries name known).perm (membersNamed_perm same name)⟩

/-- An object that has each field once still tells them all after any number of changes. -/
theorem Rewritten.carries {members : List (String × Json)} {json : Json}
    (rewritten : Rewritten fields (.object members) json)
    (once : ∀ name ∈ fields.names, (membersNamed name members).length = 1) :
    ∃ changed, json = .object changed ∧ Carries fields (valueIn members) changed := by
  induction rewritten with
  | refl => exact ⟨members, rfl, carries_self once⟩
  | tail _ rewrites induction =>
      obtain ⟨changed, rfl, carries⟩ := induction
      exact carries.rewritten_once rewrites

theorem Carries.recordFields? {valueOf : String → Json} {members : List (String × Json)}
    (carries : Carries fields valueOf members) :
    Json.recordFields? fields.names (.object members) =
      some (fields.names.map fun name => (membersNamed name members).head?) :=
  recordFields?_object fun name known => (carries name known).length_le_one

theorem Stands.required (stands : Stands fields name value found)
    (needed : name ∉ fields.optional) (timeless : name ∉ fields.times) :
    found.head? = some value := by
  cases stands with
  | same => rfl
  | dropped optional => exact absurd optional needed
  | moved time => exact absurd time timeless

theorem Stands.optionalText {text : Option String}
    (stands : Stands fields name (.ofOption (text.map .string)) found)
    (timeless : name ∉ fields.times) : Status.optionalText? found.head? = some text := by
  cases stands with
  | same => cases text <;> rfl
  | dropped _ null =>
      cases text with
      | none => rfl
      | some text => cases null
  | moved time => exact absurd time timeless

theorem optionalTime?_string {text : String} {instant : Instant}
    (read : read? text = some instant) :
    Status.optionalTime? (some (.string text)) = some (some instant) := by
  simp [Status.optionalTime?, Status.optionalText?, asOptionalString?, read]

theorem Stands.optionalTime {created : Option Instant}
    (atEnd : ∀ instant ∈ created, instant.LeapsAtMinuteEnd)
    (stands : Stands fields name (.ofOption (created.map fun instant => .string (write instant)))
      found) : Status.optionalTime? found.head? = some created := by
  cases created with
  | none =>
      cases stands with
      | same => rfl
      | dropped => rfl
      | moved _ told => cases told
  | some instant =>
      have read : read? (write instant) = some instant := read?_write (atEnd instant rfl)
      cases stands with
      | same => exact optionalTime?_string read
      | dropped _ null => cases null
      | @moved _ later origin _ told shown elsewhere =>
          obtain rfl := Json.string.inj told
          have same : origin = instant := Option.some.inj (shown.read?.symm.trans read)
          exact optionalTime?_string (same ▸ elsewhere.read?)

end

/-- Whatever the object of a record is rewritten to, the record is read from it,
and from its text if the rest of the object can be printed exactly.  This holds of
some records, and the others are not read back. -/
structure RoundTrip {Record : Type} (fields : Fields) (toJson : Record → Json)
    (ofJson? : Json → Option Record) (Kept : Record → Prop) : Prop where
  value : ∀ record json, Kept record → Rewritten fields (toJson record) json →
    ofJson? json = some record
  text : ∀ record json, Kept record → Rewritten fields (toJson record) json → Fits 127 json →
    (parse? json.render).bind ofJson? = some record
  printable : ∀ record, Fits 127 (toJson record)
  only : ∀ record, ofJson? (toJson record) = some record → Kept record

theorem RoundTrip.of_value {Record : Type} {fields : Fields} {toJson : Record → Json}
    {ofJson? : Json → Option Record} {Kept : Record → Prop}
    (value : ∀ record json, Kept record → Rewritten fields (toJson record) json →
      ofJson? json = some record)
    (printable : ∀ record, Fits 127 (toJson record))
    (only : ∀ record, ofJson? (toJson record) = some record → Kept record) :
    RoundTrip fields toJson ofJson? Kept := by
  refine ⟨value, ?_, printable, only⟩
  intro record json kept rewritten fits
  rw [parse?_render fits]
  exact value record json kept rewritten

def Descriptor.fields : Fields := ⟨["namespace", "token", "message"], [], []⟩

def Status.fields : Fields :=
  ⟨["namespace", "status", "creationTime", "uid", "resourceVersion"],
    ["status", "creationTime", "uid", "resourceVersion"], ["creationTime"]⟩

def Roster.fields : Fields := ⟨["namespaces"], [], []⟩

/-- The time of a status is in no leap second within a minute. -/
def Status.Timely (status : Status) : Prop :=
  ∀ created ∈ status.created, created.LeapsAtMinuteEnd

theorem Descriptor.roundTrip :
    RoundTrip Descriptor.fields toJson ofJson? fun _ => True := by
  apply RoundTrip.of_value
  · intro descriptor json _ rewritten
    obtain ⟨members, rfl, carries⟩ := rewritten.carries (by simp [fields, membersNamed])
    have name : Stands fields "namespace" (.string descriptor.name) _ := carries _ (by decide)
    have token : Stands fields "token" (.string descriptor.token) _ := carries _ (by decide)
    have message : Stands fields "message" (.string descriptor.message) _ := carries _ (by decide)
    have read := carries.recordFields?
    simp only [fields, List.map_cons, List.map_nil, name.required (by decide) (by decide),
      token.required (by decide) (by decide), message.required (by decide) (by decide)] at read
    simp [ofJson?, read, asString?]
  · intro descriptor
    refine .object ?_
    simp only [List.forall_mem_cons, List.not_mem_nil, false_imp_iff, implies_true, and_true]
    exact ⟨.string _, .string _, .string _⟩
  · exact fun _ _ => trivial

theorem fits_ofOption {depth : Nat} (text : Option String) :
    Fits depth (.ofOption (text.map .string)) := by
  cases text with
  | none => exact .null
  | some text => exact .string text

theorem Status.ofJson?_of_rewritten {status : Status} {json : Json} (timely : status.Timely)
    (rewritten : Rewritten Status.fields (toJson status) json) : ofJson? json = some status := by
  obtain ⟨members, rfl, carries⟩ := rewritten.carries (by simp [fields, membersNamed])
  have name : Stands fields "namespace" (.string status.name) _ := carries _ (by decide)
  have phase : Stands fields "status" (.ofOption (status.phase.map .string)) _ :=
    carries _ (by decide)
  have created : Stands fields "creationTime"
      (.ofOption (status.created.map fun created => .string (write created))) _ :=
    carries _ (by decide)
  have uid : Stands fields "uid" (.ofOption (status.uid.map .string)) _ := carries _ (by decide)
  have version : Stands fields "resourceVersion" (.ofOption (status.version.map .string)) _ :=
    carries _ (by decide)
  have read := carries.recordFields?
  simp only [fields, List.map_cons, List.map_nil, name.required (by decide) (by decide)] at read
  simp [ofJson?, read, asString?, phase.optionalText (by decide), created.optionalTime timely,
    uid.optionalText (by decide), version.optionalText (by decide)]

/-- A leap second within a minute comes back as the second after it. -/
theorem Status.ofJson?_early {status : Status} {created : Instant}
    (known : status.created = some created) (early : ¬created.LeapsAtMinuteEnd) :
    ∃ later : Instant, later.seconds = created.seconds + 1 ∧
      later.nanoseconds + 1000000000 = created.nanoseconds ∧
      ofJson? (toJson status) = some { status with created := some later } := by
  obtain ⟨later, atEnd, written, seconds, nanoseconds⟩ := exists_write_eq early
  refine ⟨later, seconds, nanoseconds, ?_⟩
  have timely : Timely { status with created := some later } := by
    rintro instant ⟨⟩
    exact atEnd
  have read := ofJson?_of_rewritten timely .refl
  simpa only [toJson, known, Option.map_some, written] using read

theorem Status.timely_of_read {status : Status}
    (read : ofJson? (toJson status) = some status) : status.Timely := by
  intro created known
  refine Classical.byContradiction fun early => ?_
  obtain ⟨later, seconds, _, reread⟩ := ofJson?_early known early
  have same : status = { status with created := some later } :=
    Option.some.inj (read.symm.trans reread)
  have instant : created = later :=
    Option.some.inj (known.symm.trans (congrArg Status.created same))
  rw [← instant] at seconds
  omega

theorem Status.roundTrip : RoundTrip Status.fields toJson ofJson? Timely := by
  apply RoundTrip.of_value
  · exact fun status json timely rewritten => ofJson?_of_rewritten timely rewritten
  · intro status
    refine .object ?_
    simp only [List.forall_mem_cons, List.not_mem_nil, false_imp_iff, implies_true, and_true]
    have created : Fits 126 (.ofOption ((status.created.map write).map .string)) :=
      fits_ofOption _
    rw [Option.map_map] at created
    exact ⟨.string _, fits_ofOption _, created, fits_ofOption _, fits_ofOption _⟩
  · exact fun status read => timely_of_read read

theorem Roster.roundTrip : RoundTrip Roster.fields toJson ofJson? fun _ => True := by
  apply RoundTrip.of_value
  · intro roster json _ rewritten
    obtain ⟨members, rfl, carries⟩ := rewritten.carries (by simp [fields, membersNamed])
    have names : Stands fields "namespaces" (.array (roster.names.map .string)) _ :=
      carries _ (by decide)
    have each : (roster.names.map Json.string).mapM asString? = some roster.names := by
      induction roster.names with
      | nil => rfl
      | cons name names induction => simp [asString?, induction]
    have read := carries.recordFields?
    simp only [fields, List.map_cons, List.map_nil, names.required (by decide) (by decide)] at read
    simp [ofJson?, read, asArray?, each]
  · intro roster
    refine .object ?_
    simp only [List.forall_mem_cons, List.not_mem_nil, false_imp_iff, implies_true, and_true]
    refine .array ?_
    intro item member
    obtain ⟨name, _, rfl⟩ := List.mem_map.1 member
    exact .string name
  · exact fun _ _ => trivial

/-- What the service tells its callers is read back from its objects as it was, for
all names and texts and every instant but a leap second within a minute, also with
unknown members, without the nulls that may be left out, with the time told at another
offset, and in another order. -/
theorem records_read_back :
    RoundTrip Descriptor.fields Descriptor.toJson Descriptor.ofJson? (fun _ => True) ∧
      RoundTrip Status.fields Status.toJson Status.ofJson? Status.Timely ∧
      RoundTrip Roster.fields Roster.toJson Roster.ofJson? (fun _ => True) :=
  ⟨Descriptor.roundTrip, Status.roundTrip, Roster.roundTrip⟩

/-- Half a second into the leap second at the end of 2016. -/
def leapSecond : Instant := ⟨1483228799, 1500000000, by decide, by decide, by decide⟩

def fiveAndAHalfHoursEast : Offset := ⟨false, 5, 30, by decide, by decide⟩

/-- A leap second, told by clocks in the east, without the phase and with a member that no
status has. -/
theorem leap_second_read_back_from_the_east :
    Status.ofJson? (.object [("kind", .array [.null]), ("namespace", .string "zombie-1"),
        ("creationTime", .string "2017-01-01T05:29:60.500+05:30"), ("uid", .null),
        ("resourceVersion", .string "7")]) =
      some ⟨"zombie-1", none, some leapSecond, none, some "7"⟩ := by
  have atEnd : leapSecond.LeapsAtMinuteEnd := fun _ => by decide
  have east : Shows "2017-01-01T05:29:60.500+05:30" leapSecond := by
    have text : stamp (fiveAndAHalfHoursEast.clocks leapSecond (by decide) (by decide))
        fiveAndAHalfHoursEast.text = "2017-01-01T05:29:60.500+05:30" := by decide +kernel
    rw [← text]
    exact .atOffset _ atEnd _ _
  have kind : "kind" ∉ Status.fields.names := by decide
  have phase : "status" ∈ Status.fields.optional := by decide
  have time : "creationTime" ∈ Status.fields.times := by decide
  apply records_read_back.2.1.value
  · rintro created ⟨⟩
    exact atEnd
  · apply Relation.ReflTransGen.tail (Relation.ReflTransGen.tail
      (.single (.addUnknown kind _ [] _)) (.dropNull phase [_, _] _))
    exact .moveTime time (.utc atEnd) east [_, _] _

/-- Half a second into a leap second that is not at the end of a minute. -/
def earlyLeapSecond : Instant := ⟨1483228800, 1500000000, by decide, by decide, by decide⟩

/-- It is read back as half a second into the next second. -/
theorem early_leap_second_not_read_back :
    Status.ofJson? (Status.toJson ⟨"zombie-1", none, some earlyLeapSecond, none, none⟩) ≠
      some ⟨"zombie-1", none, some earlyLeapSecond, none, none⟩ := by
  have early : ¬earlyLeapSecond.LeapsAtMinuteEnd := fun atEnd => absurd (atEnd rfl) (by decide)
  intro read
  exact early (Status.timely_of_read read _ rfl)

end Workspace

end Tenancy
