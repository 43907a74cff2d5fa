import Mathlib.Data.List.DropRight
import Packfile.Executor.Recorder

/-!
# What a recorder answers

A recorder is called and cleared in any order. What it holds is the calls since the last clearing,
whether they failed or not, and how it answers the next call is decided by the planned failures and
by one number: how many calls to the same operation it holds. Everything else follows from that.
Failing calls are counted too, so an operation that has failed goes on failing; other operations
have counts of their own; and a clearing sets all counts back.
-/

namespace Packfile

/-- A planned failure strikes the call to an operation before which so many others were made. -/
def PlannedFailure.Strikes (failure : PlannedFailure) (method : String) (earlier : Nat) : Prop :=
  failure.method = method ∧ failure.successes ≤ earlier

instance (failure : PlannedFailure) (method : String) (earlier : Nat) :
    Decidable (failure.Strikes method earlier) :=
  inferInstanceAs (Decidable (_ ∧ _))

theorem PlannedFailure.Strikes.mono {failure : PlannedFailure} {method : String} {n m : Nat}
    (strikes : failure.Strikes method n) (more : n ≤ m) : failure.Strikes method m :=
  ⟨strikes.1, strikes.2.trans more⟩

namespace Recorder

/-- The first planned failure that strikes the call to an operation before which so many others were
made. -/
def FirstToStrike (failures : List PlannedFailure) (method : String) (earlier : Nat)
    (failure : PlannedFailure) : Prop :=
  failure.Strikes method earlier ∧ ∃ passed later, failures = passed ++ failure :: later ∧
    ∀ other ∈ passed, ¬ other.Strikes method earlier

/-- A recorder that has been told to produce the given failures, one after the other. -/
def planning (failures : List PlannedFailure) : Recorder :=
  failures.foldl (fun recorder failure =>
    recorder.failAfter failure.method failure.successes failure.message) {}

/-- What is done with a recorder. -/
inductive Use where
  | call (call : Call)
  | clear
  deriving DecidableEq

/-- The call that is made. -/
def Use.call? : Use → Option Call
  | .call made => some made
  | .clear => none

/-- Whether a use is anything but a call to another operation. -/
def Use.concerns (method : String) : Use → Bool
  | .call made => made.method = method
  | .clear => true

/-- Puts a recorder to a use. -/
def perform (recorder : Recorder) : Use → Recorder
  | .call call => (recorder.step call).state
  | .clear => recorder.clear

/-- The recorder after a history. -/
def afterUses (recorder : Recorder) (uses : List Use) : Recorder :=
  uses.foldl perform recorder

/-- How a call is answered after a history. -/
def answer (recorder : Recorder) (uses : List Use) (call : Call) : Except RunnerError Unit :=
  ((recorder.afterUses uses).step call).outcome

/-- The calls of a history behind its last clearing. -/
def sinceClear (uses : List Use) : List Call :=
  (uses.rtakeWhile (· ≠ .clear)).filterMap Use.call?

/-- How many calls to an operation a history has behind its last clearing. -/
def earlierCalls (uses : List Use) (method : String) : Nat :=
  (sinceClear uses).countP (·.method = method)

variable {failures : List PlannedFailure} {failure : PlannedFailure} {uses other : List Use}
variable {call : Call} {method : String} {e : RunnerError}

/-! ## Histories -/

@[simp]
theorem sinceClear_nil : sinceClear [] = [] := rfl

@[simp]
theorem sinceClear_concat_call (uses : List Use) (call : Call) :
    sinceClear (uses ++ [.call call]) = sinceClear uses ++ [call] := by
  simp [sinceClear, Use.call?]

@[simp]
theorem sinceClear_concat_clear (uses : List Use) : sinceClear (uses ++ [.clear]) = [] := by
  simp [sinceClear]

theorem sinceClear_append_calls (uses : List Use) (calls : List Call) :
    sinceClear (uses ++ calls.map .call) = sinceClear uses ++ calls := by
  induction calls using List.reverseRecOn with
  | nil => simp
  | append_singleton calls call ih =>
      rw [List.map_append, ← List.append_assoc, List.map_singleton, sinceClear_concat_call, ih,
        List.append_assoc]

/-- What stands before a clearing is forgotten. -/
theorem sinceClear_append_clear (before uses : List Use) :
    sinceClear (before ++ .clear :: uses) = sinceClear uses := by
  induction uses using List.reverseRecOn with
  | nil => exact sinceClear_concat_clear before
  | append_singleton uses use ih =>
      rw [← List.cons_append, ← List.append_assoc]
      cases use with
      | call call => rw [sinceClear_concat_call, sinceClear_concat_call, ih]
      | clear => rw [sinceClear_concat_clear, sinceClear_concat_clear]

theorem sinceClear_filter (method : String) (uses : List Use) :
    sinceClear (uses.filter (Use.concerns method)) =
      (sinceClear uses).filter (·.method = method) := by
  induction uses using List.reverseRecOn with
  | nil => rfl
  | append_singleton uses use ih =>
      rw [List.filter_append]
      cases use with
      | call call =>
          rw [sinceClear_concat_call, List.filter_append, ← ih]
          by_cases same : call.method = method <;> simp [Use.concerns, same]
      | clear => exact (sinceClear_concat_clear _).trans (by simp)

theorem earlierCalls_filter (method : String) (uses : List Use) :
    earlierCalls (uses.filter (Use.concerns method)) method = earlierCalls uses method := by
  rw [earlierCalls, earlierCalls, sinceClear_filter, List.countP_filter]
  exact List.countP_congr fun call _ => by simp

/-! ## The recorder after a history -/

theorem planning_eq (failures : List PlannedFailure) : planning failures = { failures } := by
  induction failures using List.reverseRecOn with
  | nil => rfl
  | append_singleton failures failure ih =>
      have told : planning (failures ++ [failure]) =
          (planning failures).failAfter failure.method failure.successes failure.message :=
        List.foldl_concat ..
      rw [told, ih]
      rfl

theorem afterUses_concat (recorder : Recorder) (uses : List Use) (use : Use) :
    recorder.afterUses (uses ++ [use]) = (recorder.afterUses uses).perform use :=
  List.foldl_concat ..

@[simp]
theorem failures_perform (recorder : Recorder) (use : Use) :
    (recorder.perform use).failures = recorder.failures := by
  cases use <;> rfl

theorem failures_afterUses (failures : List PlannedFailure) (uses : List Use) :
    ((planning failures).afterUses uses).failures = failures := by
  induction uses using List.reverseRecOn with
  | nil => rw [planning_eq]; rfl
  | append_singleton uses use ih => rw [afterUses_concat, failures_perform, ih]

/-- A call is held whatever its answer is. -/
theorem calls_afterUses (failures : List PlannedFailure) (uses : List Use) :
    ((planning failures).afterUses uses).calls = sinceClear uses := by
  induction uses using List.reverseRecOn with
  | nil => rw [planning_eq]; rfl
  | append_singleton uses use ih =>
      rw [afterUses_concat]
      cases use with
      | call call => rw [perform, calls_step, ih, sinceClear_concat_call]
      | clear => rw [sinceClear_concat_clear]; rfl

theorem length_callsTo (failures : List PlannedFailure) (uses : List Use) (method : String) :
    (((planning failures).afterUses uses).callsTo method).length = earlierCalls uses method := by
  rw [callsTo, calls_afterUses, earlierCalls, List.countP_eq_length_filter]

/-- The failure that is due depends on the number of calls to the operation alone. -/
theorem failure?_afterUses (failures : List PlannedFailure) (uses : List Use) (method : String) :
    ((planning failures).afterUses uses).failure? method =
      failures.find? fun failure => failure.Strikes method (earlierCalls uses method) := by
  rw [failure?, failures_afterUses, length_callsTo]
  refine congrArg (List.find? · failures) (funext fun failure => ?_)
  exact (Bool.decide_and _ _).symm

theorem failure?_eq_none :
    ((planning failures).afterUses uses).failure? method = none ↔
      ∀ failure ∈ failures, ¬ failure.Strikes method (earlierCalls uses method) := by
  simp [failure?_afterUses]

theorem failure?_eq_some :
    ((planning failures).afterUses uses).failure? method = some failure ↔
      FirstToStrike failures method (earlierCalls uses method) failure := by
  simp [failure?_afterUses, List.find?_eq_some_iff_append, FirstToStrike]

/-! ## Answers -/

theorem answer_of_failure? :
    (planning failures).answer uses call =
      match ((planning failures).afterUses uses).failure? call.method with
      | some failure => .error (.executionFailed failure.message)
      | none => .ok () := rfl

theorem answer_eq_ok :
    (planning failures).answer uses call = .ok () ↔
      ∀ failure ∈ failures, ¬ failure.Strikes call.method (earlierCalls uses call.method) := by
  rw [← failure?_eq_none, answer_of_failure?]
  cases ((planning failures).afterUses uses).failure? call.method <;> simp

theorem answer_eq_error :
    (planning failures).answer uses call = .error e ↔
      ∃ failure, FirstToStrike failures call.method (earlierCalls uses call.method) failure ∧
        e = .executionFailed failure.message := by
  simp only [← failure?_eq_some, answer_of_failure?]
  cases ((planning failures).afterUses uses).failure? call.method <;> simp [eq_comm]

theorem answer_congr (same : earlierCalls uses call.method = earlierCalls other call.method) :
    (planning failures).answer uses call = (planning failures).answer other call := by
  rw [answer_of_failure?, answer_of_failure?, failure?_afterUses, failure?_afterUses, same]

/-- An operation that has failed goes on failing: the failure that struck it strikes every later
call as well, though one that is planned before it may come to be due and give the message. -/
theorem answer_of_failed (failed : (planning failures).answer uses call ≠ .ok ())
    (later : List Call) {again : Call} (same : again.method = call.method) :
    (planning failures).answer (uses ++ .call call :: later.map .call) again ≠ .ok () := by
  have more : earlierCalls uses call.method ≤
      earlierCalls (uses ++ .call call :: later.map .call) call.method := by
    rw [← List.map_cons, earlierCalls, earlierCalls, sinceClear_append_calls, List.countP_append]
    exact Nat.le_add_right _ _
  rw [Ne, answer_eq_ok] at failed ⊢
  rw [same]
  intro spared
  exact failed fun failure planned strikes => spared failure planned (strikes.mono more)

/-- The first call is struck by the second failure and the next one by the first. -/
example :
    let recorder := planning [⟨"run", 1, "disk full"⟩, ⟨"run", 0, "timeout"⟩]
    let run := Call.release .run { workDir := "." }
    recorder.answer [] run = .error (.executionFailed "timeout") ∧
      recorder.answer [.call run] run = .error (.executionFailed "disk full") := by
  decide

/-- A recorder holds the calls since the last clearing, failed or not. It answers one with an error
exactly if a planned failure of its operation lets no more calls succeed than were made to it since
then, and the first such failure gives the message. So an operation that has failed goes on failing
as long as nothing is cleared, calls to other operations make no difference, and behind a clearing
all is as in a new recorder. -/
theorem answer_planned (failures : List PlannedFailure) (uses : List Use) :
    let recorder := planning failures
    (recorder.afterUses uses).calls = sinceClear uses ∧
    ∀ call,
      let earlier := earlierCalls uses call.method
      (recorder.answer uses call = .ok () ↔
        ∀ failure ∈ failures, ¬ failure.Strikes call.method earlier) ∧
      (∀ e, recorder.answer uses call = .error e ↔
        ∃ failure, FirstToStrike failures call.method earlier failure ∧
          e = .executionFailed failure.message) ∧
      (recorder.answer uses call ≠ .ok () →
        ∀ later : List Call, ∀ again, again.method = call.method →
          recorder.answer (uses ++ .call call :: later.map .call) again ≠ .ok ()) ∧
      recorder.answer (uses.filter (Use.concerns call.method)) call = recorder.answer uses call ∧
      ∀ before, recorder.answer (before ++ .clear :: uses) call = recorder.answer uses call := by
  intro recorder
  refine ⟨calls_afterUses failures uses, ?_⟩
  intro call earlier
  refine ⟨answer_eq_ok, fun e => answer_eq_error, ?_, ?_, ?_⟩
  · intro failed later again same
    exact answer_of_failed failed later same
  · exact answer_congr (earlierCalls_filter call.method uses)
  · intro before
    exact answer_congr (congrArg (List.countP _) (sinceClear_append_clear before uses))

/-- Two failures of one operation, of which the later one strikes sooner, and one of another. -/
def overlapping : List PlannedFailure :=
  [⟨"run", 2, "disk full"⟩, ⟨"plan", 0, "no plan"⟩, ⟨"run", 1, "timeout"⟩]

/-- A command applied to some release. -/
def applied (command : PackCommand) : Call :=
  .release command { workDir := "." }

/-- A history that leaves one call to `run`. -/
def overlappingUses : List Use :=
  [.call (applied .run), .call (applied .run), .clear, .call (applied .run), .call (applied .plan)]

/-- The second call behind the clearing fails, and so does every later one up to the next. -/
theorem answer_planned_overlapping :
    let recorder := planning overlapping
    recorder.answer overlappingUses (applied .run) = .error (.executionFailed "timeout") ∧
      (∀ later : List Call, recorder.answer
        (overlappingUses ++ .call (applied .run) :: later.map .call) (applied .run) ≠ .ok ()) ∧
      recorder.answer (overlappingUses ++ [.clear]) (applied .run) = .ok () := by
  intro recorder
  obtain ⟨-, answers⟩ := answer_planned overlapping overlappingUses
  obtain ⟨-, failing, goesOn, -, -⟩ := answers (applied .run)
  have failed : recorder.answer overlappingUses (applied .run) =
      .error (.executionFailed "timeout") :=
    (failing _).mpr ⟨⟨"run", 1, "timeout"⟩,
      ⟨by decide, overlapping.take 2, [], rfl, by decide⟩, rfl⟩
  refine ⟨failed, fun later => ?_, ?_⟩
  · refine goesOn ?_ later _ rfl
    rw [failed]
    nofun
  · obtain ⟨-, fresh⟩ := answer_planned overlapping []
    obtain ⟨succeeds, -, -, -, cleared⟩ := fresh (applied .run)
    rw [cleared overlappingUses]
    exact succeeds.mpr (by decide)

end Recorder

end Packfile
