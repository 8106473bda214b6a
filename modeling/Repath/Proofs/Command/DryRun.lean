import Repath.Proofs.Command.Arguments
import Repath.Proofs.Command.Stages
import Repath.Proofs.Run.Accounting

namespace Repath

variable {fs fs' : FileSystem}

namespace FileSystem

end FileSystem

namespace Event

/-- The event as it is logged by a run that writes. -/
def written : Event → Event
  | runStarted root extension rules _ => runStarted root extension rules false
  | e => e

@[simp] theorem isShown_written (verbose : Bool) (e : Event) :
    e.written.isShown verbose = e.isShown verbose := by
  cases e <;> rfl

end Event

namespace Command

/-- A line about a candidate: the name of one that is changed, or a line about another. -/
inductive Item
  | changed (name : String)
  | other (line : String)

def Item.text (mode : WriteMode) : Item → String
  | changed name =>
    (match mode with | .apply => "changed: " | .dryRun => "would change: ") ++ name
  | other line => line

/-- One text is what a dry run prints and another what a run prints in its place: the banner says
that it is a dry run, and files are said to be about to change. The lines between the banner and
the end can be in any order. -/
def Foretells (dry real : String) : Prop :=
  dry = real ∨ ∃ (front : String) (items items' : List Item) (closing : List String),
    items'.Perm items ∧
    dry = lines ((front ++ ", dry run)") :: items.map (·.text .dryRun) ++ closing) ∧
    real = lines ((front ++ ")") :: items'.map (·.text .apply) ++ closing)

/-- One log is that of a dry run and another that of a run in its place: the start says which it is.
The events between the start and the end can be in another order, each file's together. -/
def ForetellsLog (dry real : List Event) : Prop :=
  ∃ (front : List Event) (files files' : List (List Event)) (closing : List Event),
    files'.Perm files ∧ dry = front ++ files.flatten ++ closing ∧
    real = (front ++ files'.flatten ++ closing).map Event.written

namespace ForetellsLog

variable {dry real events : List Event}

theorem append (h : ForetellsLog dry real) (hfixed : events.map Event.written = events) :
    ForetellsLog (events ++ dry) (events ++ real) := by
  obtain ⟨front, files, files', closing, hperm, rfl, rfl⟩ := h
  refine ⟨events ++ front, files, files', closing, hperm, ?_, ?_⟩
  · simp only [List.append_assoc]
  · simp only [List.map_append, List.append_assoc, hfixed]

theorem filter (h : ForetellsLog dry real) (verbose : Bool) :
    ForetellsLog (dry.filter (·.isShown verbose)) (real.filter (·.isShown verbose)) := by
  obtain ⟨front, files, files', closing, hperm, rfl, rfl⟩ := h
  refine ⟨front.filter (·.isShown verbose), files.map (·.filter (·.isShown verbose)),
    files'.map (·.filter (·.isShown verbose)), closing.filter (·.isShown verbose),
    hperm.map _, ?_, ?_⟩
  · simp only [List.filter_append, List.filter_flatten]
  · have hshown : (·.isShown verbose) ∘ Event.written = (·.isShown verbose) :=
      funext (Event.isShown_written verbose)
    rw [List.filter_map, hshown]
    simp only [List.filter_append, List.filter_flatten]

end ForetellsLog

def items (r : FileReport) : List Item :=
  match r.outcome with
  | .changed => [.changed r.relative.display]
  | .unchanged => []
  | .failed reason => [.other ("failed: " ++ r.relative.display ++ " (" ++ reason ++ ")")]

/-- One end of a command is that of a dry run and another that of a run in its place. -/
structure Announces (dry real : CommandResult) : Prop where
  code : real.code = dry.code
  message : real.message = dry.message
  stdout : Foretells dry.stdout real.stdout
  log : ForetellsLog dry.log real.log

namespace Announces

variable {dry real : CommandResult}

theorem after {events : List Event} (h : Announces dry real)
    (hfixed : events.map Event.written = events) :
    Announces (dry.after events) (real.after events) :=
  ⟨h.code, h.message, h.stdout, h.log.append hfixed⟩

theorem shown (h : Announces dry real) (verbose : Bool) :
    Announces (dry.shown verbose) (real.shown verbose) :=
  ⟨h.code, h.message, h.stdout, h.log.filter verbose⟩

end Announces

end Command

end Repath
