import Walkthrough.Proofs.Effect
import Walkthrough.World

/-! # Small works

How the works end that all others are made of: a look at the clock, a call to the browser, an attempt
to write a file. -/

namespace Walkthrough

open Effect

variable {σ α : Type}

/-- The world after a call, with the browser's reply to it. -/
def World.after (w : World σ) (c : Call) (reply : Reply σ α) : World σ :=
  { w with
    browser := reply.state
    now := w.now + reply.elapsed
    events := w.events ++ [.call c] }

theorem outcome_now (w : World σ) : outcome (Work.now : Work σ Instant) w = (.ok w.now, w) :=
  rfl

theorem outcome_call (c : Call) (reply : σ → Reply σ α) (w : World σ) :
    outcome (Work.call c reply) w = ((reply w.browser).answer, w.after c (reply w.browser)) := by
  simp only [Work.call, Work.record, Work.receive, outcome_bind, outcome_get, outcome_modify,
    outcome_ofExcept]
  rfl

theorem outcome_receive (reply : σ → Reply σ α) (w : World σ) :
    outcome (Work.receive reply) w = ((reply w.browser).answer,
      { w with browser := (reply w.browser).state, now := w.now + (reply w.browser).elapsed }) := by
  simp only [Work.receive, outcome_bind, outcome_get, outcome_modify, outcome_ofExcept]

theorem outcome_writeFile (path : Path) (content : Text.Content) (w : World σ) :
    outcome (Work.writeFile path content) w = match w.files.write path content with
      | .ok files => (.ok (), { w with files := files, events := w.events ++ [.write path.text true] })
      | .error failure =>
        (.error failure, { w with events := w.events ++ [.write path.text false] }) := by
  simp only [Work.writeFile, outcome_bind, outcome_get]
  split <;> simp [*, Work.record, outcome_bind]

theorem write_of_writeFile {path : Path} {content : Text.Content} {w w' : World σ}
    (h : outcome (Work.writeFile path content) w = (.ok (), w')) :
    w.files.write path content = .ok w'.files := by
  rw [outcome_writeFile] at h
  split at h
  · rename_i files hfiles
    rw [hfiles, ← (Prod.mk.inj h).2]
  · cases (Prod.mk.inj h).1

section Follows

variable {r : World σ → World σ → Prop}

theorem follows_now : Follows r (Work.now : Work σ Instant) :=
  follows_get.bind fun _ => follows_pure _

theorem follows_look (f : Files → Except Failure α) : Follows r (Work.look f : Work σ α) :=
  follows_get.bind fun _ => follows_ofExcept _

end Follows

end Walkthrough
