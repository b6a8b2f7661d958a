import BalancerImport.Proofs.Flow.Ending

/-!
# The turn of a flow

What a worker does with one flow that it took from the queue, said once for everything that is
proved about rounds and passes.

* `Worker.Fared`: the four ways in which a flow fares, with what each leaves;
* **`Worker.runItem_fared`**: there are no others.
-/

namespace BalancerImport

namespace Worker

variable {σ : Type} (h : Handlers σ) {f : Flow} {e : Engine} {s : σ}

/-- How a flow fares that was taken from the queue: the answer of the worker, the engine and the
state of the handlers afterwards. -/
inductive Fared (f : Flow) (e : Engine) (s : σ) : Except FlowError Fate × Engine × σ → Prop where
  /-- It is over. -/
  | dropped (hover : f.state.isTerminal = true) : Fared f e s (.ok .dropped, e, s)
  /-- It is a watch of a flow that is not over. -/
  | requeued {w : Watch} {g : Flow} (hopen : f.state.isTerminal = false) (hw : f.watch = some w)
      (hg : e.get w.flow = .ok g) (hwaits : g.state.isTerminal = false) :
      Fared f e s (.ok .requeued, e, s)
  /-- It is a watch of a flow that is over, which was announced. -/
  | finished {w : Watch} {g : Flow} (hopen : f.state.isTerminal = false) (hw : f.watch = some w)
      (hg : e.get w.flow = .ok g) (hended : g.state.isTerminal = true) :
      Fared f e s (.ok .watchFinished, e.modify f.id (finishWatch (h.announce w g.state s).1),
        (h.announce w g.state s).2)
  /-- It is no watch, and its tasks were tried. -/
  | ran (hopen : f.state.isTerminal = false) (hw : f.watch = none) :
      Fared f e s (.ok (.ran (outcome (runTasks h [] f.tasks s).1)),
        e.modify f.id (fun g => { g with
          tasks := (runTasks h [] f.tasks s).1, state := outcome (runTasks h [] f.tasks s).1 }),
        (runTasks h [] f.tasks s).2)

/-- **A flow fares in one of these ways**, if it exists, and what it watches. -/
theorem runItem_fared (hf : e.get f.id = .ok f)
    (hknown : ∀ w, f.watch = some w → ∃ g, e.get w.flow = .ok g) :
    Fared h f e s (runItem h f.id e s) := by
  unfold runItem
  rw [hf]
  cases hover : f.state.isTerminal with
  | true =>
    simp only [hover, if_true]
    exact .dropped hover
  | false =>
    simp only [hover, Bool.false_eq_true, if_false]
    cases hw : f.watch with
    | none => exact .ran hover hw
    | some w =>
      obtain ⟨g, hg⟩ := hknown w hw
      simp only [hg]
      cases hended : g.state.isTerminal with
      | true => exact .finished hover hw hg hended
      | false => exact .requeued hover hw hg hended

end Worker

end BalancerImport
