import Flyover.Run
/-!
A provider at work. It serves one run after the other, each from the store that the one before has left, and passes the
events of a run on to its feed.
-/

namespace Flyover

structure Provider where
  settings : Settings
  store : Store
  feed : Feed
  held : List Lock

namespace Provider

def start (settings : Settings) : Provider := ⟨settings, .empty, .silent, []⟩

def surroundings (p : Provider) (c : Circumstances) : Surroundings :=
  { c with settings := p.settings, held := p.held.contains }

def serve {α : Type} (p : Provider) (c : Circumstances) (x : Run α) : Outcome α × Provider :=
  let outcome := x.exec (p.surroundings c) p.store
  (outcome, { p with store := outcome.trace.store, feed := p.feed.publishAll outcome.trace.events })

def hold (p : Provider) (l : Lock) : Option Provider :=
  if p.held.contains l then none else some { p with held := l :: p.held }

def release (p : Provider) (l : Lock) : Provider := { p with held := p.held.erase l }

def signal (p : Provider) (e : Event) : Except Error Provider := do
  let feed ← p.feed.publish e
  return { p with feed }

end Provider

end Flyover
