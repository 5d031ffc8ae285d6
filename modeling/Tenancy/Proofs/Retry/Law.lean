import Mathlib.Data.List.Iterate
import Tenancy.Number.Word
import Tenancy.Proofs.Retry

/-!
# The law of repeated attempts

A run of attempts is a row of calls with one pause between each two of them.
How many calls there are depends on what they come to and on the limit alone, so
a higher limit adds calls at the end and changes none that were made before.
The number of an attempt fits in the word that the limit fits in.
-/

namespace Tenancy.Retry

open Number

/-- One part of a run of attempts. -/
inductive Move where
  | call
  | rest (length : Span)
deriving DecidableEq, Repr

/-- A call, and one more after each of some pauses. -/
def movesOf (pauses : List Span) : List Move :=
  .call :: pauses.flatMap fun length => [.rest length, .call]

/-- What comes before the next call: a pause after each call. -/
def leadIn (pauses : List Span) : List Move :=
  pauses.flatMap fun length => [.call, .rest length]

theorem movesOf_append (pauses more : List Span) :
    movesOf (pauses ++ more) =
      movesOf pauses ++ more.flatMap fun length => [.rest length, .call] := by
  simp [movesOf, List.flatMap_append]

theorem movesOf_isPrefix (longer : Span → Span) (first : Span) {fewer more : Nat}
    (less : fewer ≤ more) :
    movesOf (List.iterate longer first fewer) <+: movesOf (List.iterate longer first more) := by
  obtain ⟨further, rfl⟩ := Nat.exists_eq_add_of_le less
  rw [List.iterate_add, movesOf_append]
  exact List.prefix_append _ _

namespace Policy

/-- The first pauses. -/
def pauses (policy : Policy) (count : Nat) : List Span :=
  List.iterate policy.longer policy.initialDelay count

/-- What so many attempts consist of. -/
def moves (policy : Policy) (count : Nat) : List Move := movesOf (policy.pauses (count - 1))

end Policy

/-- Whether an outcome leaves nothing to try again for. -/
def Settles {Failure Value : Type} (repeatable : Failure → Bool)
    (outcome : Except Failure Value) : Prop :=
  ∀ failure, outcome = .error failure → repeatable failure = false

/-- As many attempts as a higher limit allows, unless fewer settle the matter. -/
theorem Attempts.raised {settles : Nat → Prop} {limit higher count more : Nat}
    (fewer : Attempts settles limit count) (further : Attempts settles higher more)
    (above : limit ≤ higher) : count ≤ more ∧ (settles (count - 1) → more = count) := by
  have started := fewer.started
  have least : count ≤ more := by
    rcases further.last with exhausted | settled
    · exact exhausted ▸ Nat.le_trans fewer.bounded above
    · by_contra less
      have positive := further.started
      have early : more - 1 + 1 < count := by omega
      exact fewer.unsettled (more - 1) early settled
  refine ⟨least, ?_⟩
  intro settled
  by_contra different
  exact further.unsettled (count - 1) (by omega) settled

section

variable {Query : Type} {Answer : Query → Type} {Value Failure State : Type}

/-- What a part of a run does to the state of a handler. -/
def perform (handler : Handler Query Answer State)
    (operation : Program Query Answer (Except Failure Value)) (state : State) : Move → State
  | .call => (handler.run operation state).2
  | .rest length => handler.pause length state

def play (handler : Handler Query Answer State)
    (operation : Program Query Answer (Except Failure Value)) (moves : List Move)
    (state : State) : State :=
  moves.foldl (perform handler operation) state

/-- An operation, with the outcomes that its calls have one after the other. -/
def Meets (handler : Handler Query Answer State)
    (operation : Program Query Answer (Except Failure Value)) (pauses : Nat → List Span)
    (start : State) (outcome : Nat → Except Failure Value) : Prop :=
  ∀ index, (handler.run operation (play handler operation (leadIn (pauses index)) start)).1 =
    .ok (outcome index)

/-- The run of a policy is so many attempts, and their last outcome, however the jitter
of its pauses falls. -/
structure CarriedOut (handler : Handler Query Answer State) (policy : Policy)
    (repeatable : Failure → Bool) (operation : Program Query Answer (Except Failure Value))
    (start : State) (outcome : Nat → Except Failure Value) (count : Nat) : Prop where
  counted : Attempts (fun index => Settles repeatable (outcome index)) policy.limit count
  ran : ∀ draws, handler.run (run policy repeatable operation draws) start =
    (.ok (outcome (count - 1)), play handler operation (policy.moves count) start)

variable {handler : Handler Query Answer State} {repeatable : Failure → Bool}
variable {operation : Program Query Answer (Except Failure Value)}
variable {outcome : Nat → Except Failure Value}

/-- The first attempt is made, and what follows a failure that repeating may mend
is a run with one attempt fewer from where the pause leaves off. -/
theorem run_attempt (repeatable : Failure → Bool) {longer : Span → Span} (more : Nat)
    (delay : Span) (start : State)
    (meets : Meets handler operation (List.iterate longer delay) start outcome) :
    ∃ count, Attempts (fun index => Settles repeatable (outcome index)) (more + 1) count ∧
      handler.run
          (attempt repeatable (fun _ delay => .pause delay (.done (longer delay))) operation more
            delay) start =
        (.ok (outcome (count - 1)),
          play handler operation (movesOf (List.iterate longer delay (count - 1))) start) := by
  induction more generalizing delay start outcome with
  | zero =>
      refine ⟨1, ⟨by decide, by decide, by omega, .inl rfl⟩, ?_⟩
      exact Prod.ext (meets 0) rfl
  | succ more induction =>
      have first : handler.run operation start =
          (.ok (outcome 0), play handler operation [.call] start) := Prod.ext (meets 0) rfl
      rw [attempt, Handler.run_bind, first]
      by_cases settled : Settles repeatable (outcome 0)
      · refine ⟨1, ⟨by decide, by omega, by omega, .inr settled⟩, ?_⟩
        cases came : outcome 0 with
        | ok value => rfl
        | error failure =>
            simp only [settled failure came, Bool.false_eq_true, if_false]
            rfl
      · obtain ⟨failure, failed, mendable⟩ :
            ∃ failure, outcome 0 = .error failure ∧ repeatable failure = true := by
          simpa [Settles] using settled
        have later : Meets handler operation (List.iterate longer (longer delay))
            (play handler operation [.call, .rest delay] start) fun index => outcome (index + 1) :=
          fun index => meets (index + 1)
        obtain ⟨count, counted, ran⟩ := induction (longer delay) _ later
        have started := counted.started
        have bounded := counted.bounded
        refine ⟨count + 1, ⟨by omega, by omega, ?_, ?_⟩, ?_⟩
        · intro index before
          cases index with
          | zero => exact settled
          | succ index => exact counted.unsettled index (by omega)
        · refine counted.last.imp (by omega) ?_
          intro last
          rwa [Nat.sub_add_cancel started] at last
        · simp only [failed, mendable, if_true]
          have rested (next : Span → Program Query Answer (Except Failure Value)) :
              handler.run ((Program.pause delay (.done (longer delay))).bind next)
                  (play handler operation [.call] start) =
                handler.run (next (longer delay))
                  (play handler operation [.call, .rest delay] start) := rfl
          rw [rested, ran, Nat.sub_add_cancel started, Nat.add_sub_cancel]
          obtain ⟨fewer, rfl⟩ : ∃ fewer, count = fewer + 1 := ⟨count - 1, by omega⟩
          rfl

theorem exists_carriedOut (repeatable : Failure → Bool) (policy : Policy)
    (steady : policy.Steady) {start : State}
    (meets : Meets handler operation policy.pauses start outcome) :
    ∃ count, CarriedOut handler policy repeatable operation start outcome count := by
  obtain ⟨count, counted, ran⟩ :=
    run_attempt repeatable (policy.attempts - 1) policy.initialDelay start meets
  have limit : policy.attempts - 1 + 1 = policy.limit := by
    simp only [Policy.limit]
    omega
  refine ⟨count, limit ▸ counted, ?_⟩
  intro draws
  rw [run_of_steady steady]
  exact ran

/-- An operation that succeeds within some attempts does so within more, also when the
pauses of later attempts could not be counted. -/
theorem run_attempt_further {policy : Policy} {value : Value} {more : Nat} {delay : Span}
    {start finish : State} (sustained : policy.Sustains more delay)
    (ran : handler.run
      (attempt repeatable (fun _ delay => .pause delay (.done (policy.longer delay))) operation more
        delay) start = (.ok (.ok value), finish))
    (draws : Nat → Jitter) (further : Nat) :
    handler.run
      (attempt repeatable (fun more => policy.rest (draws more)) operation (more + further) delay)
        start = (.ok (.ok value), finish) := by
  induction more generalizing delay start with
  | zero =>
      cases further with
      | zero => exact ran
      | succ further =>
          have succeeded : handler.run operation start = (.ok (.ok value), finish) := ran
          rw [Nat.zero_add, attempt, Handler.run_bind, succeeded]
          rfl
  | succ more induction =>
      obtain ⟨counted, longer, grown, sustainedLonger⟩ := sustained
      obtain ⟨length, drawn⟩ := counted (draws (more + further))
      have next : policy.longer delay = longer := by simp only [Policy.longer, grown]
      rw [attempt, Handler.run_bind] at ran
      rw [Nat.add_right_comm, attempt, Handler.run_bind]
      generalize handler.run operation start = tried at ran ⊢
      obtain ⟨result, after⟩ := tried
      cases result with
      | error fault => exact ran
      | ok first =>
          cases first with
          | ok value => exact ran
          | error failure =>
              cases mendable : repeatable failure with
              | false =>
                  simp only [mendable, Bool.false_eq_true, if_false] at ran ⊢
                  exact ran
              | true =>
                  simp only [mendable, if_true, run_rest, drawn, grown] at ran ⊢
                  refine induction sustainedLonger ?_
                  rw [← next]
                  exact ran

theorem toNat_add_one {number : UInt32} (room : number.toNat ≠ greatestUnsigned32) :
    (number + 1).toNat = number.toNat + 1 := by
  have small := number.toNat_lt
  rw [greatestUnsigned32] at room
  rw [UInt32.toNat_add, UInt32.toNat_one]
  omega

/-- The same attempts, numbered by a word of 32 bits.  There is no outcome when
a number does not fit. -/
def attemptNumbered (repeatable : Failure → Bool)
    (rest : UInt32 → Span → Program Query Answer Span)
    (operation : Program Query Answer (Except Failure Value)) (limit number : UInt32)
    (delay : Span) : Program Query Answer (Option (Except Failure Value)) :=
  if _ : number.toNat = greatestUnsigned32 then .done none
  else
    operation.bind fun
      | .ok value => .done (some (.ok value))
      | .error failure =>
          if _ : limit ≤ number + 1 ∨ repeatable failure = false then
            .done (some (.error failure))
          else
            (rest (number + 1) delay).bind fun longer =>
              attemptNumbered repeatable rest operation limit (number + 1) longer
termination_by limit.toNat - number.toNat
decreasing_by
  rename_i full last
  have below : ¬limit.toNat ≤ (number + 1).toNat := fun reached => last (.inl reached)
  have next := toNat_add_one full
  omega

/-- As long as the limit fits in the word, every number does. -/
theorem attemptNumbered_eq (rest : Nat → Span → Program Query Answer Span)
    {limit number : UInt32} (more : Nat) (delay : Span)
    (left : number.toNat + more + 1 = limit.toNat) :
    attemptNumbered repeatable (fun number => rest (limit.toNat - number.toNat - 1)) operation
        limit number delay =
      (attempt repeatable rest operation more delay).bind fun outcome => .done (some outcome) := by
  have small := limit.toNat_lt
  have room : number.toNat ≠ greatestUnsigned32 := by
    rw [greatestUnsigned32]
    omega
  have next := toNat_add_one room
  have last : limit ≤ number + 1 ↔ more = 0 := by
    rw [UInt32.le_iff_toNat_le]
    omega
  induction more generalizing number delay with
  | zero =>
      rw [attemptNumbered, dif_neg room, attempt]
      apply congrArg (Program.bind · operation)
      funext outcome
      cases outcome with
      | ok value => rfl
      | error failure => simp [last]
  | succ more induction =>
      have index : limit.toNat - (number + 1).toNat - 1 = more := by omega
      rw [attemptNumbered, dif_neg room, attempt, Program.bind_bind]
      apply congrArg (Program.bind · operation)
      funext outcome
      cases outcome with
      | ok value => rfl
      | error failure =>
          cases mendable : repeatable failure with
          | false => simp [mendable, Program.bind]
          | true =>
              simp only [last, mendable, Nat.add_one_ne_zero, Bool.true_eq_false, or_self,
                dite_false, if_true, Program.bind_bind, index]
              apply congrArg (Program.bind · (rest more delay))
              funext longer
              have remaining : (number + 1).toNat + more + 1 = limit.toNat := by omega
              have fits : (number + 1).toNat ≠ greatestUnsigned32 := by
                rw [greatestUnsigned32]
                omega
              refine induction longer remaining fits (toNat_add_one fits) ?_
              rw [UInt32.le_iff_toNat_le, toNat_add_one fits]
              omega

/-- A steady policy makes as many attempts as there are up to the first that settles the
matter, and no more than its limit: it is a row of that many calls with one pause
between each two, and comes to the last outcome.  The attempts can be numbered by
a word in which the limit fits.  With more attempts it comes to a success all the same, and
as long as it is steady then too, it makes the same calls and pauses, and others after them
only when the last outcome was a failure. -/
theorem attempts_follow_law (handler : Handler Query Answer State) (policy : Policy)
    (repeatable : Failure → Bool) (operation : Program Query Answer (Except Failure Value))
    (start : State) (outcome : Nat → Except Failure Value) (steady : policy.Steady)
    (meets : Meets handler operation policy.pauses start outcome) :
    ∃ count, CarriedOut handler policy repeatable operation start outcome count ∧
      (∀ (limit : UInt32) (draws : Nat → Jitter), policy.limit = limit.toNat →
        attemptNumbered repeatable
            (fun number => policy.rest (draws (limit.toNat - number.toNat - 1))) operation limit 0
            policy.initialDelay =
          (run policy repeatable operation draws).bind fun outcome => .done (some outcome)) ∧
      ∀ attempts, policy.attempts ≤ attempts →
        (∀ value, outcome (count - 1) = .ok value → ∀ draws,
          handler.run (run { policy with attempts } repeatable operation draws) start =
            (.ok (.ok value), play handler operation (policy.moves count) start)) ∧
        (({ policy with attempts } : Policy).Steady → ∃ more,
          CarriedOut handler { policy with attempts } repeatable operation start outcome more ∧
            policy.moves count <+: policy.moves more ∧
            ∀ value, outcome (count - 1) = .ok value → more = count) := by
  obtain ⟨count, carried⟩ := exists_carriedOut repeatable policy steady meets
  refine ⟨count, carried, ?_, ?_⟩
  · intro limit draws fits
    apply attemptNumbered_eq fun more => policy.rest (draws more)
    simp only [Policy.limit] at fits
    rw [UInt32.toNat_zero]
    omega
  · intro attempts above
    constructor
    · intro value succeeded draws
      have ran := carried.ran draws
      rw [run_of_steady steady, succeeded] at ran
      have further := run_attempt_further steady ran draws
        (attempts - 1 - (policy.attempts - 1))
      rwa [Nat.add_sub_cancel' (by omega)] at further
    · intro steadyThen
      obtain ⟨more, further⟩ :=
        exists_carriedOut repeatable { policy with attempts } steadyThen meets
      have higher : policy.limit ≤ ({ policy with attempts } : Policy).limit := by
        simp only [Policy.limit]
        omega
      obtain ⟨least, same⟩ := carried.counted.raised further.counted higher
      refine ⟨more, further, movesOf_isPrefix _ _ (by omega), ?_⟩
      intro value succeeded
      apply same
      intro failure failed
      rw [succeeded] at failed
      cases failed

/-- Of four attempts an operation that fails twice in passing and then for good gets
three. -/
theorem attempts_follow_law_until_down :
    let handler : Handler Unit (fun _ => Except String Nat) Nat :=
      .ofAnswer fun _ tried => (.error (if tried < 2 then "flaky" else "down"), tried + 1)
    let outcome (index : Nat) : Except String Nat := .error (if index < 2 then "flaky" else "down")
    (Policy.immediate 4).Steady ∧
      Meets handler (Program.query ()) (Policy.immediate 4).pauses 0 outcome ∧
      CarriedOut handler (Policy.immediate 4) (· == "flaky") (Program.query ()) 0 outcome 3 := by
  intro handler outcome
  have steady : (Policy.immediate 4).Steady := Policy.steady_immediate 4
  have called (pauses : List Span) (tried : Nat) :
      play handler (Program.query ()) (leadIn pauses) tried = tried + pauses.length := by
    induction pauses generalizing tried with
    | nil => rfl
    | cons length pauses induction =>
        have shifted := induction (tried + 1)
        rw [List.length_cons, ← Nat.add_assoc, Nat.add_right_comm]
        exact shifted
  have meets : Meets handler (Program.query ()) (Policy.immediate 4).pauses 0 outcome := by
    intro index
    rw [called, Policy.pauses, List.length_iterate, Nat.zero_add]
    rfl
  refine ⟨steady, meets, ?_⟩
  obtain ⟨count, carried, _⟩ := attempts_follow_law handler (Policy.immediate 4) (· == "flaky")
    (Program.query ()) 0 outcome steady meets
  have settles (index : Nat) :
      Settles (fun failure => failure == "flaky") (outcome index) ↔ 2 ≤ index := by
    constructor
    · intro settled
      by_contra early
      have passing : outcome index = .error "flaky" := congrArg Except.error (if_pos (by omega))
      exact absurd (settled "flaky" passing) (by decide)
    · intro later failure failed
      have lasting : outcome index = .error "down" := congrArg Except.error (if_neg (by omega))
      rw [lasting] at failed
      cases failed
      rfl
  have passing (earlier : Nat) (before : earlier < 2) :
      ¬Settles (fun failure => failure == "flaky") (outcome earlier) := by
    rw [settles]
    omega
  obtain rfl : count = 3 :=
    carried.counted.count_eq (by decide) passing ((settles 2).2 (Nat.le_refl 2))
  exact carried

/-- An infinite factor that leaps to the longest maximal delay allows one attempt of three:
the second delay cannot be counted. -/
theorem second_delay_overflows :
    let handler : Handler Unit (fun _ => Except String Nat) Nat :=
      .ofAnswer fun _ tried => (.error "down", tried + 1)
    Policy.leaping.factor.isNegative = false ∧ Policy.leaping.limit = 3 ∧
      (∀ draws, handler.run (run Policy.leaping (fun _ => true) (Program.query ()) draws) 0 =
        (.error .overlongPause, 1)) ∧
      ∀ outcome count,
        ¬CarriedOut handler Policy.leaping (fun _ => true) (Program.query ()) 0 outcome count := by
  intro handler
  have faults (draws : Nat → Jitter) :
      handler.run (run Policy.leaping (fun _ => true) (Program.query ()) draws) 0 =
        (.error .overlongPause, 1) :=
    run_rest_leaping (draws 1) _ 1
  refine ⟨rfl, rfl, faults, ?_⟩
  intro outcome count carried
  have ended := carried.ran fun _ => .neutral
  rw [faults] at ended
  cases ended

end

end Tenancy.Retry
