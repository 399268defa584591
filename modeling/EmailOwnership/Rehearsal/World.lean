import EmailOwnership.Authentication
import EmailOwnership.Context
import EmailOwnership.Store.Memory
import EmailOwnership.Verification

/-! Surroundings in which operations are tried out.

A `World` is all that an operation can see or change: the memory store, the clock, the
supply of code digits and the log. A `Session` is one operation's view of it, with the
operation's own context. An `Interposition` stands between the operation and the store:
before a call it may let other requests act or cancel the context, and it may answer in
the store's place. -/
namespace EmailOwnership.Rehearsal
open Store (Call Fault Method Reply)

/-- Digits drawn in turn from a cyclic supply, modulo ten. -/
structure Digits where
  supply : List Int
  position : Nat

def Digits.standard : Digits := ⟨[1, 2, 3, 4, 5, 6, 7, 8, 9, 0], 0⟩

def Digits.digitAt (d : Digits) (k : Nat) : Char :=
  Nat.digitChar ((d.supply.getD (k % d.supply.length) 0) % 10).toNat

def Digits.draw (d : Digits) (length : Nat) : String × Digits :=
  (String.ofList ((List.range length).map fun k => d.digitAt (d.position + k)),
    {d with position := d.position + length})

/-- Who delivers the codes: the log, or a sender that fails. -/
inductive Sender
  | console
  | failing (message : String)

structure World where
  memory : Store.Memory.State
  clock : Float
  digits : Digits
  log : List Log.Entry

def World.note (w : World) (entry : Log.Entry) : World := {w with log := w.log ++ [entry]}

/-! ### Effects other than store calls -/

def deliver (sender : Sender) (address code : String) (w : World) : Except String Unit × World :=
  match sender with
  | .console => (.ok (), w.note (.codeDelivered address code))
  | .failing message => (.error message, w)

/-- The codes handed to the sender so far, oldest first. -/
def World.deliveries (w : World) : List (String × String) := w.log.filterMap Log.Entry.delivery?

theorem deliveries_note (w : World) (entry : Log.Entry) :
    (w.note entry).deliveries = w.deliveries ++ entry.delivery?.toList := by
  cases h : entry.delivery? <;> simp [World.deliveries, World.note, h]

theorem delivery?_eq_none {entry : Log.Entry} (h : ∀ a k, entry ≠ .codeDelivered a k) :
    entry.delivery? = none := by
  cases entry with
  | codeDelivered a k => exact absurd rfl (h a k)
  | _ => rfl

def World.draw (w : World) (length : Nat) : String × World :=
  ((w.digits.draw length).1, {w with digits := (w.digits.draw length).2})

theorem length_draw (w : World) (length : Nat) : (w.draw length).1.length = length := by
  simp [World.draw, Digits.draw]

/-! ### Undisturbed operations -/

/-- A store call under a context. -/
def World.perform (context : Context String) (c : Call) (w : World) : Except Fault Reply × World :=
  let (reply, memory) := Store.Memory.perform context w.clock c w.memory
  (reply, {w with memory := memory})

def plainHandler (sender : Sender) (context : Context String) : Program.Handler World
  | .store c, w => w.perform context c
  | .log entry, w => ((), w.note entry)
  | .deliver address code, w => deliver sender address code w
  | .drawCode length, w => w.draw length

/-- Only store calls reach the memory store. -/
theorem handle_memory {sender : Sender} {context : Context String} {effect : Effect}
    (he : ∀ c, effect ≠ .store c) (w : World) :
    (plainHandler sender context effect w).2.memory = w.memory := by
  cases effect with
  | store c => exact absurd rfl (he c)
  | log entry => rfl
  | deliver address code => cases sender <;> rfl
  | drawCode length => rfl

end EmailOwnership.Rehearsal
