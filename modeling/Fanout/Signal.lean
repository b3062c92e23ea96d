/-! The shutdown signal. It starts open and closes once, either because a transmitter closed it or
because the last transmitter is gone. `Signal` is the signal as the stages of a run see it;
`Broadcast` adds the separate handles and the tasks that wait on them. -/

namespace Fanout

structure Signal where
  /-- Some transmitter closed the signal. -/
  requested : Bool := false
  /-- Transmitters that are still alive. -/
  transmitters : Nat := 1
  deriving DecidableEq, Repr

namespace Signal

/-- What a receiver reports. -/
def isShutdown (s : Signal) : Bool :=
  s.requested || s.transmitters = 0

/-- Closes the signal; the flag tells whether this call did it. -/
def shutdown (s : Signal) : Bool × Signal :=
  (!s.requested, { s with requested := true })

def dropTransmitter (s : Signal) : Signal :=
  { s with transmitters := s.transmitters - 1 }

end Signal

/-- A value that can be watched. It starts as `false`. -/
structure Watched where
  value : Bool := false
  /-- How often the value was changed. -/
  version : Nat := 0
  /-- Nobody is left who could change the value. -/
  hasEnded : Bool := false
  deriving DecidableEq, Repr

/-- A task that waits until a watched value is `true`, or until nobody can change it any more. -/
inductive Waiter
  /-- It has not run yet. -/
  | started
  /-- It saw `false` at a version of the value, and sleeps until it is notified. -/
  | asleep (seen : Nat)
  | notified (seen : Nat)
  | resolved
  deriving DecidableEq, Repr

namespace Waiter

def isResolved : Waiter → Bool
  | .resolved => true
  | _ => false

/-- The task is to run, and has not done so yet. -/
def isRunnable : Waiter → Bool
  | .started | .notified _ => true
  | .asleep _ | .resolved => false

def notify : Waiter → Waiter
  | .asleep seen => .notified seen
  | w => w

/-- Looks at the value, and falls asleep where it has to go on waiting. -/
def look (v : Watched) : Waiter :=
  if v.value then .resolved
  else if v.hasEnded then .resolved
  else .asleep v.version

/-- Lets the task run. A task that was notified looks again only if the version is another one than it
saw. -/
def poll (v : Watched) : Waiter → Waiter
  | .started => look v
  | .notified seen =>
    if v.version = seen then if v.hasEnded then .resolved else .asleep seen
    else look v
  | w => w

end Waiter

/-- A signal with all handles ever made, in order of their making: a handle is alive or dropped. -/
structure Broadcast where
  /-- Whether some transmitter closed the signal. -/
  watched : Watched := {}
  /-- Which transmitters are alive. -/
  transmitters : List Bool := [true]
  /-- Which receivers are alive. -/
  receivers : List Bool := [true]
  /-- The tasks that wait, or did so. Each has a receiver of its own. -/
  waiters : List Waiter := []
  deriving DecidableEq, Repr

namespace Broadcast

/-- An operation on a handle, named by the handle's number. -/
inductive Operation
  | state
  | shutdown (transmitter : Nat)
  | subscribe (transmitter : Nat)
  | cloneTransmitter (transmitter : Nat)
  | cloneReceiver (receiver : Nat)
  | dropTransmitter (transmitter : Nat)
  | dropReceiver (receiver : Nat)
  | wait (receiver : Nat)
  deriving DecidableEq, Repr

inductive Answer
  | done
  | changed (first : Bool)
  | handle (number : Nat)
  | noSuchHandle
  deriving DecidableEq, Repr

/-- The signal that the handles share, as a stage sees it. -/
def signal (b : Broadcast) : Signal :=
  { requested := b.watched.value, transmitters := b.transmitters.count true }

def isAlive (handles : List Bool) (i : Nat) : Bool :=
  handles[i]? = some true

def notifyAll (b : Broadcast) : Broadcast :=
  { b with waiters := b.waiters.map .notify }

/-- Changes the value unless it is `true` already; the flag tells whether this call did it. -/
def shutdown (b : Broadcast) : Bool × Broadcast :=
  if b.watched.value then (false, b)
  else
    let watched := { b.watched with value := true, version := b.watched.version + 1 }
    (true, { b with watched }.notifyAll)

/-- Drops a transmitter. With the last one the value has ended. -/
def dropTransmitter (t : Nat) (b : Broadcast) : Broadcast :=
  let transmitters := b.transmitters.set t false
  if transmitters.contains true then { b with transmitters }
  else { b with transmitters, watched := { b.watched with hasEnded := true } }.notifyAll

/-- Carries one operation out. A handle that was dropped or never made changes nothing. -/
def apply (b : Broadcast) : Operation → Answer × Broadcast
  | .state => (.done, b)
  | .shutdown t =>
    if isAlive b.transmitters t then (.changed b.shutdown.1, b.shutdown.2) else (.noSuchHandle, b)
  | .subscribe t =>
    if isAlive b.transmitters t then
      (.handle b.receivers.length, { b with receivers := b.receivers ++ [true] })
    else (.noSuchHandle, b)
  | .cloneTransmitter t =>
    if isAlive b.transmitters t then
      (.handle b.transmitters.length, { b with transmitters := b.transmitters ++ [true] })
    else (.noSuchHandle, b)
  | .cloneReceiver r =>
    if isAlive b.receivers r then
      (.handle b.receivers.length, { b with receivers := b.receivers ++ [true] })
    else (.noSuchHandle, b)
  | .dropTransmitter t =>
    if isAlive b.transmitters t then (.done, b.dropTransmitter t) else (.noSuchHandle, b)
  | .dropReceiver r =>
    if isAlive b.receivers r then (.done, { b with receivers := b.receivers.set r false })
    else (.noSuchHandle, b)
  | .wait r =>
    if isAlive b.receivers r then
      (.handle b.waiters.length, { b with waiters := b.waiters ++ [.started] })
    else (.noSuchHandle, b)

/-- Lets one waiting task run. -/
def poll (i : Nat) (b : Broadcast) : Broadcast :=
  { b with waiters := b.waiters.modify i (.poll b.watched) }

/-- Lets every waiting task run. -/
def settle (b : Broadcast) : Broadcast :=
  { b with waiters := b.waiters.map (.poll b.watched) }

def step (b : Broadcast) (o : Operation) : Answer × Broadcast :=
  let (answer, next) := b.apply o
  (answer, next.settle)

/-- What a receiver reports: the value is `true`, or nobody can change it any more. -/
def isShutdown (b : Broadcast) : Bool :=
  b.watched.value || b.watched.hasEnded

/-- What each transmitter reports, `none` where it was dropped. -/
def transmitterReports (b : Broadcast) : List (Option Bool) :=
  b.transmitters.map fun alive => if alive then some b.watched.value else none

/-- What each receiver reports, `none` where it was dropped. -/
def receiverReports (b : Broadcast) : List (Option Bool) :=
  b.receivers.map fun alive => if alive then some b.isShutdown else none

/-- Which of the waiting tasks still wait. -/
def pending (b : Broadcast) : List Bool :=
  b.waiters.map fun w => !w.isResolved

end Broadcast

end Fanout
