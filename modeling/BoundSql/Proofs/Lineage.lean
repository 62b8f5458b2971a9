import BoundSql.Session

/-! Where a draft of a session comes from. The lineage of a name has the changes of what the name was
copied from, up to the copying, and then the changes made under the name itself. -/
namespace BoundSql

/-- What a command does to the changes that stand behind each name. -/
def Command.record (history : String → List Change) : Command → String → List Change
  | .change name (.ok c) =>
    fun other => if other = name then history name ++ [c] else history other
  | .renew name => fun other => if other = name then [] else history other
  | .clone source target => fun other => if other = target then history source else history other
  | _ => history

def lineage (program : List Command) : String → List Change :=
  program.foldl Command.record fun _ => []

namespace Session

variable {σ row : Type}

/-- Each draft is the empty one after the changes of its history. -/
def Follows (s : Session σ) (history : String → List Change) : Prop :=
  ∀ name, s.drafts name = Draft.empty.applyAll (history name)

theorem run_follows (service : Service σ row) (s : Session σ) (history : String → List Change)
    (c : Command) (follows : s.Follows history) :
    (s.run service c).1.Follows (c.record history) := by
  intro other
  cases c with
  | change name attempt =>
    cases attempt with
    | error e => exact follows other
    | ok c =>
      simp only [run, setDraft, Command.record]
      split
      · rw [Draft.applyAll_concat, ← follows name]
      · exact follows other
  | renew name =>
    simp only [run, setDraft, Command.record]
    split
    · rfl
    · exact follows other
  | clone source target =>
    simp only [run, setDraft, Command.record]
    split
    · exact follows source
    · exact follows other
  | compile name => exact follows other
  | toSql name => exact follows other
  | execute name timing => exact follows other
  | fetchFirst name timing => exact follows other

theorem runAll_follows (service : Service σ row) (s : Session σ) (history : String → List Change)
    (program : List Command) (follows : s.Follows history) :
    (s.runAll service program).1.Follows (program.foldl Command.record history) := by
  induction program generalizing s history with
  | nil => exact follows
  | cons c rest ih => exact ih _ _ (run_follows service s history c follows)

theorem drafts_runAll (service : Service σ row) {s : Session σ}
    (fresh : ∀ name, s.drafts name = .empty) (program : List Command) (name : String) :
    (s.runAll service program).1.drafts name = Draft.empty.applyAll (lineage program name) :=
  runAll_follows service s (fun _ => []) program fresh name

theorem runAll_append (service : Service σ row) (s : Session σ) (before after : List Command) :
    (s.runAll service (before ++ after)).1 =
      ((s.runAll service before).1.runAll service after).1 := by
  induction before generalizing s with
  | nil => rfl
  | cons c rest ih => exact ih _

end Session
end BoundSql
