import FuzzyGrid.Proofs.Evaluation.Success
import FuzzyGrid.Proofs.Number.Exact

/-!
# What a failing node leaves behind

A node that fails has published nothing, and as a rule it has written nothing
either: results are read, layers computed and the file of a report opened before
anything is written.  Two things can leave a report behind.  The name of the node
is looked up only after its report has been written, so a report under a name that
is taken is written and then refused; and the system may cut the writing short.
-/

namespace FuzzyGrid

variable {α : Type} [Scalar α]

/-- Whether a fault is that of a write which the system cuts short. -/
def Fault.isOfWriting : Fault α → Bool
  | .invalidArgument _ (.notWritten _ _) => true
  | .invalidArgument _ (.notPrinted _) => true
  | _ => false

namespace Node

/-- A node that gets to write a report, what the writing leaves, and how it ends. -/
def Writes (node : Node α) (session : Session α) (written : Workspace)
    (outcome : Except (CommandError α) Unit) : Prop :=
  ∃ fields destination lines, node.operation = .report fields destination ∧
    readAll (reportLine node.command.origin session.context) fields = .ok lines ∧
    session.workspace.deliver node.command.origin ⟨destination, lines⟩ =
      (written, outcome)

/-- A node that writes a report and has a name that is taken. -/
structure ReportsInVain (node : Node α) (session : Session α)
    (written : Workspace) : Prop where
  taken : (session.context.get? node.name).isSome
  delivers : node.Writes session written (.ok ())

/-- A node whose report the system cuts short. -/
structure ReportsInPart (node : Node α) (session : Session α)
    (written : Workspace) (error : CommandError α) : Prop where
  cut : error.fault.isOfWriting = true
  delivers : node.Writes session written (.error error)

theorem Writes.compute {node : Node α} {session : Session α} {written : Workspace}
    {outcome : Except (CommandError α) Unit}
    (writes : node.Writes session written outcome) :
    ∃ report, node.compute session.context =
        .ok ⟨⟨.flag true, .bool, false⟩, some report⟩ ∧
      session.workspace.deliver node.command.origin report = (written, outcome) := by
  obtain ⟨fields, destination, lines, reporting, read, delivered⟩ := writes
  refine ⟨⟨destination, lines⟩, ?_, delivered⟩
  rw [Node.compute, reporting, Operation.compute, read]
  rfl

theorem writes_of_compute {node : Node α} {session : Session α} {written : Workspace}
    {computed : Computed α} {outcome : Except (CommandError α) Unit}
    (success : node.compute session.context = .ok computed)
    (delivered : session.workspace.deliverAny node.command.origin computed.report =
      (written, outcome)) :
    (written, outcome) = (session.workspace, .ok ()) ∨
      node.Writes session written outcome := by
  rcases Operation.report_of_compute success with
    ⟨none_, _⟩ | ⟨fields, destination, lines, reporting, read, reports⟩
  · rw [none_] at delivered
    exact .inl delivered.symm
  · rw [reports] at delivered
    exact .inr ⟨fields, destination, lines, reporting, read, delivered⟩

/-- A report that is not delivered leaves nothing, unless it has been cut short. -/
theorem Writes.unchanged_or_cut {node : Node α} {session : Session α}
    {written : Workspace} {error : CommandError α}
    (writes : node.Writes session written (.error error)) :
    written = session.workspace ∨ error.fault.isOfWriting = true := by
  obtain ⟨_, destination, lines, _, _, delivered⟩ := writes
  have ways := Workspace.delivered (α := α) session.workspace node.command.origin
    (some ⟨destination, lines⟩)
  rw [Workspace.deliverAny, delivered] at ways
  cases ways with
  | notCreated _ => exact .inl rfl
  | notPrinted _ => exact .inr rfl
  | notWritten _ _ => exact .inr rfl

/-- A node that fails leaves its session as it was, but for two cases.  It may have
written a report and its name then turns out to be taken: the report is all that is
left, and the failure names the result.  Or the system cuts its report short: the
part that was taken is all that is left, and the failure tells the reason. -/
theorem execute_failure_effect (node : Node α) (session : Session α) :
    (∀ after error, node.execute session = (after, .error error) →
      after = session ∨
        (node.ReportsInVain session after.workspace ∧
          after.context = session.context ∧
          error = ⟨.duplicateResult node.name, node.command.origin⟩) ∨
        node.ReportsInPart session after.workspace error ∧
          after.context = session.context) ∧
    (∀ written, node.ReportsInVain session written →
      node.execute session = (⟨session.context, written⟩,
        .error ⟨.duplicateResult node.name, node.command.origin⟩)) ∧
    ∀ written error, node.ReportsInPart session written error →
      node.execute session = (⟨session.context, written⟩, .error error) := by
  refine ⟨?_, ?_, ?_⟩
  · intro after error failed
    have ways := node.executed session
    rw [failed] at ways
    cases ways with
    | failed _ => exact .inl rfl
    | undelivered success failure =>
        rcases writes_of_compute success failure with whole | writes
        · cases whole
        · rcases writes.unchanged_or_cut with rfl | cut
          · exact .inl rfl
          · exact .inr (.inr ⟨⟨cut, writes⟩, rfl⟩)
    | refused success delivered failure =>
        obtain ⟨taken, rfl⟩ := ResultContext.publish_error_iff.mp failure
        rcases writes_of_compute success delivered with nothing | writes
        · cases nothing
          exact .inl rfl
        · exact .inr (.inl ⟨⟨taken, writes⟩, rfl, rfl⟩)
  · rintro written ⟨taken, writes⟩
    obtain ⟨report, computes, delivered⟩ := writes.compute
    have refused : session.context.publish node.command.origin node.name
        ⟨.flag true, .bool, false⟩ =
          .error ⟨.duplicateResult node.name, node.command.origin⟩ :=
      ResultContext.publish_error_iff.mpr ⟨taken, rfl⟩
    simp [execute, perform, computes, delivered, Session.withWorkspace, refused]
  · rintro written error ⟨_, writes⟩
    obtain ⟨report, computes, delivered⟩ := writes.compute
    simp [execute, perform, computes, delivered, Session.withWorkspace]

end Node

namespace Sample

/-- A session in which two flags are held, one of them under the name of the
report. -/
def reported : Session ℚ :=
  ⟨⟨.standard, .ofList [("Both", ⟨.flag true, .bool, false⟩),
    ("Shown", ⟨.flag true, .bool, false⟩)]⟩, .ofFiles []⟩

/-- A report of what is missing is not begun, and one under its own name again is
written. -/
theorem execute_failure_effect_shown :
    (∃ error, shown.execute unstarted = (unstarted, .error error)) ∧
      shown.ReportsInVain reported (reported.workspace.print "Both: True\n") ∧
      shown.execute reported =
        (⟨reported.context, reported.workspace.print "Both: True\n"⟩,
          .error ⟨.duplicateResult "Shown", shown.command.origin⟩) := by
  obtain ⟨unaffected, _, _⟩ := shown.execute_failure_effect unstarted
  obtain ⟨_, written, _⟩ := shown.execute_failure_effect reported
  have inVain : shown.ReportsInVain reported
      (reported.workspace.print "Both: True\n") :=
    ⟨rfl, ["Both"], none, ["Both: True"], rfl, rfl, rfl⟩
  refine ⟨?_, inVain, written _ inVain⟩
  obtain ⟨after, error, failed⟩ :
      ∃ after error, shown.execute unstarted = (after, .error error) := ⟨_, _, rfl⟩
  rcases unaffected after error failed with rfl | ⟨vain, _⟩ | ⟨part, _⟩
  · exact ⟨error, failed⟩
  · cases vain.taken
  · obtain ⟨_, computes, _⟩ := part.delivers.compute
    cases computes

/-- What has been printed stays printed though the node fails, and not because the
system has cut anything short. -/
theorem shown_again :
    reported.workspace.printed = "" ∧
      (shown.execute reported).2 =
        .error ⟨.duplicateResult "Shown", shown.command.origin⟩ ∧
      (shown.execute reported).1.workspace.printed = "Both: True\n" ∧
      ¬∀ (node : Node ℚ) (session after : Session ℚ) (error : CommandError ℚ),
        node.execute session = (after, .error error) →
          error.fault.isOfWriting = false →
          after.workspace.printed = session.workspace.printed := by
  have printed : (shown.execute reported).1.workspace.printed = "Both: True\n" := rfl
  refine ⟨rfl, rfl, printed, ?_⟩
  intro silent
  have nothing := silent shown reported (shown.execute reported).1 _ rfl rfl
  rw [printed] at nothing
  exact absurd nothing (by decide)

end Sample

end FuzzyGrid
