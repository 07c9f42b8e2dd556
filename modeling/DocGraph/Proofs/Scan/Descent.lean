import DocGraph.Proofs.Scan.Visits

/-!
# A walk as a recursion

A walk goes round by round, and the subdirectories that a round comes to have to wait on the stack.
If links are passed over, this comes to the same as going down: a directory is listed, its entries are
dealt with, and then each of its subdirectories is gone through with everything below it, one after
the other. `descend` is this recursion.

The two are compared by what a walk owes. What was done so far, followed by the descents from the
directories on the stack, is the same walk before and after a round. At first this is the descent from
the root, and at the end it is what was done.
-/

set_option autoImplicit false

namespace DocGraph

namespace WalkPlan

/-- Go down from a directory: deal with its entries, and then go down from its subdirectories. -/
def descend (plan : WalkPlan) (site : Site) (path : Path) : Walk :=
  (Walk.ofCourse (plan.round site false path).1).andThen
    (.sequence ((plan.round site false path).2.attach.map fun d => descend plan site d.1))
termination_by path.room
decreasing_by
  have deeper := room_of_subdirectory d.2
  omega

variable {plan : WalkPlan} {site : Site}

/-- What going down from a directory is. -/
theorem descend_eq (path : Path) :
    plan.descend site path = (Walk.ofCourse (plan.round site false path).1).andThen
      (.sequence ((plan.round site false path).2.map (plan.descend site))) := by
  rw [descend, List.attach_map_val]

/-- What holds of a directory if it holds of its subdirectories holds of every directory. -/
theorem descent_induction (plan : WalkPlan) (site : Site) {motive : Path → Prop}
    (step : ∀ path, (∀ d ∈ (plan.round site false path).2, motive d) → motive path) (path : Path) :
    motive path := by
  induction path using (measure Path.room).wf.induction with
  | h path ih =>
    refine step path fun d later => ih d ?_
    have deeper := room_of_subdirectory later
    change d.room < path.room
    omega

end WalkPlan

namespace Exploration

variable {plan : WalkPlan} {site : Site} {x y : Exploration}

/-- What was done so far, and then the descents from the directories that are still to be listed. -/
def owed (plan : WalkPlan) (site : Site) (x : Exploration) : Walk :=
  (Walk.ofCourse x.course).andThen (.sequence (x.stack.map (plan.descend site)))

/-- A round pays for itself. The subdirectories are in front of the stack in their own order, so they
take the place of what goes down from their directory. -/
theorem owed_next (goes : x.next? plan site false = some y) :
    y.owed plan site = x.owed plan site := by
  obtain ⟨path, stack, pending, ⟨⟨impossible, -⟩, -⟩ | ⟨-, rfl⟩⟩ := next_eq_some_iff.mp goes
  · cases impossible
  · rw [owed, owed, pending, List.map_append, List.map_cons, Walk.ofCourse_append,
      Walk.sequence_append, Walk.andThen_assoc, ← Walk.andThen_assoc (Walk.ofCourse _) (.sequence _),
      ← WalkPlan.descend_eq]
    rfl

end Exploration

/-- A walk that passes links over is the descent from its root. -/
theorem WalkPlan.walk_eq_descend (plan : WalkPlan) (site : Site) :
    plan.walk site false = plan.descend site plan.root := by
  have same := @Exploration.explore_induction plan site false { stack := [plan.root] }
    (fun x => x.owed plan site = plan.descend site plan.root)
    (Walk.andThen_nothing (plan.descend site plan.root))
    fun x y before goes => (Exploration.owed_next goes).trans before
  have ends := @Exploration.next_explore plan site false { stack := [plan.root] }
  have nothing := Exploration.stack_of_end ends
  rw [Exploration.owed, nothing] at same
  exact (Walk.andThen_nothing _).symm.trans same

end DocGraph
