import CardDesk.Store.Dialogue
import CardDesk.Store.Mishap

/-!
Dialogues that take time, alone or several at once. Time passes only where a call waits. A dialogue
that has not ended when its limit is reached is dropped, what it has done before staying done.
-/

namespace CardDesk

structure Outcome (α : Type) where
  result : Option α
  events : List Event
  world : World

def Outcome.after (e : Event) (o : Outcome α) : Outcome α :=
  { o with events := e :: o.events }

def reached (limit : Option Nat) (time : Nat) : Bool :=
  match limit with
  | none => false
  | some t => t ≤ time

/-- Runs a dialogue from the given time on. A limit reached at the moment at which a wait ends comes
first. -/
def Dialogue.within (limit : Option Nat) : Dialogue α → Nat → World → Outcome α
  | done a, _, w => ⟨some a, [], w⟩
  | note r d, now, w => (d.within limit now w).after (.record r)
  | ask c k, now, w =>
    Outcome.after (.call c) <|
      match w.begin c with
      | (.never, w) => ⟨none, [], w⟩
      | (.answered x, w) => (k x).within limit now w
      | (.passed before after, w) =>
        if reached limit (now + before) then ⟨none, [], w⟩
        else
          let (x, w) := w.settle c
          if reached limit (now + before + after) then ⟨none, [], w⟩
          else (k x).within limit (now + before + after) w

inductive Pending (α : Type) where
  | put (c : Call) (after : Nat) (next : Except StoreError c.Answer → Dialogue α)
  | resume (d : Dialogue α)

inductive Thread (α : Type) where
  | ended (a : α)
  | stalled
  | waiting (due : Nat) (rest : Pending α)

namespace Thread

def due? : Thread α → Option Nat
  | waiting due _ => some due
  | _ => none

def result? : Thread α → Option α
  | ended a => some a
  | _ => none

def start (now : Nat) : Dialogue α → World → Thread α × List Event × World
  | .done a, w => (ended a, [], w)
  | .note r d, w =>
    let (t, events, w) := start now d w
    (t, .record r :: events, w)
  | .ask c k, w =>
    let (t, events, w) := match w.begin c with
      | (.never, w) => (stalled, [], w)
      | (.answered x, w) => start now (k x) w
      | (.passed 0 0, w) =>
        let (x, w) := w.settle c
        start now (k x) w
      | (.passed 0 after, w) =>
        let (x, w) := w.settle c
        (waiting (now + after) (.resume (k x)), [], w)
      | (.passed before after, w) => (waiting (now + before) (.put c after k), [], w)
    (t, .call c :: events, w)

def wake (now : Nat) : Thread α → World → Thread α × List Event × World
  | waiting due (.resume d), w =>
    if due ≤ now then start now d w else (waiting due (.resume d), [], w)
  | waiting due (.put c after k), w =>
    if due ≤ now then
      let (x, w) := w.settle c
      if after = 0 then start now (k x) w else (waiting (now + after) (.resume (k x)), [], w)
    else (waiting due (.put c after k), [], w)
  | t, w => (t, [], w)

def wakeAll (now : Nat) : List (Thread α) → World → List (Thread α) × List Event × World
  | [], w => ([], [], w)
  | t :: ts, w =>
    let (t, events, w) := wake now t w
    let (ts, more, w) := wakeAll now ts w
    (t :: ts, events ++ more, w)

def startAll (now : Nat) : List (Dialogue α) → World → List (Thread α) × List Event × World
  | [], w => ([], [], w)
  | d :: ds, w =>
    let (t, events, w) := start now d w
    let (ts, more, w) := startAll now ds w
    (t :: ts, events ++ more, w)

def finish : Nat → List (Thread α) → World → List (Thread α) × List Event × World
  | 0, ts, w => (ts, [], w)
  | rounds + 1, ts, w =>
    match (ts.filterMap due?).min? with
    | none => (ts, [], w)
    | some now =>
      let (ts, events, w) := wakeAll now ts w
      let (ts, more, w) := finish rounds ts w
      (ts, events ++ more, w)

end Thread

def race (ds : List (Dialogue α)) (w : World) : List (Option α) × List Event × World :=
  let (ts, events, w) := Thread.startAll 0 ds w
  let (ts, more, w) := Thread.finish (2 * ds.length) ts w
  (ts.map Thread.result?, events ++ more, w)

end CardDesk
