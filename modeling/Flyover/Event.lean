import Flyover.Quote
import Flyover.Settlement
/-!
Events about quotes, and the feed that a subscriber reads them from. The feed keeps a bounded number of unread events and
lets go of the oldest.
-/

namespace Flyover

inductive Event
  | accepted (quote : Quote) (settlement : Settlement)
  | calledForUser (quote : Quote) (settlement : Settlement) (error : Option String)
  | registeredPegin (settlement : Settlement) (error : Option String)
deriving DecidableEq

namespace Event

def settlement : Event → Settlement
  | accepted _ s | calledForUser _ s _ | registeredPegin s _ => s

end Event

structure Feed where
  unread : Option (Nat × List Event)
deriving DecidableEq

namespace Feed

def capacity : Nat := 128

def silent : Feed := ⟨none⟩

def subscribed : Feed := ⟨some (0, [])⟩

def publish (f : Feed) (e : Event) : Except Error Feed :=
  match f.unread with
  | none => .error .noSubscribers
  | some (lost, events) =>
    if events.length < capacity then .ok ⟨some (lost, events ++ [e])⟩
    else .ok ⟨some (lost + 1, events.tail ++ [e])⟩

def publishAll (f : Feed) (events : List Event) : Feed :=
  events.foldl (fun f e => match f.publish e with | .ok f' => f' | .error _ => f) f

def drain (f : Feed) : (Nat × List Event) × Feed :=
  match f.unread with
  | none => ((0, []), f)
  | some unread => (unread, subscribed)

end Feed

end Flyover
