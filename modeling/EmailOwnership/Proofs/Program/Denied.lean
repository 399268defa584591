import EmailOwnership.Proofs.Authentication
import EmailOwnership.Proofs.Registry.Outcome

/-! Operations that no store serves.

If every store call comes to one and the same fault, an operation soon ends with an error that
reports it: on the way there are log lines, and perhaps the digits of a code are drawn, but none
is delivered (`Denied`). So where a handler refuses all calls, what neither refused calls nor log
lines nor draws change is as it was when the operation ends (`Denied.run`). -/
namespace EmailOwnership.Program
open Registry (raised report stored stored_bind)
open Store (Call Fault)
variable {α β σ : Type} {fault : Fault} {e : Failure}

/-- Answered by this fault whenever it asks the store, the program ends with this failure, and
delivers nothing. -/
inductive Denied (fault : Fault) (e : Failure) : Program α → Prop
  | fail : Denied fault e (.done (.error e))
  | call {c : Call} {next : (Effect.store c).Reply → Program α} :
    Denied fault e (next (.error fault)) → Denied fault e (.ask (.store c) next)
  | log {entry : Log.Entry} {next : Unit → Program α} :
    entry.delivery? = none → Denied fault e (next ()) → Denied fault e (.ask (.log entry) next)
  | draw {length : Nat} {next : String → Program α} :
    (∀ code, code.length = length → Denied fault e (next code)) →
    Denied fault e (.ask (.drawCode length) next)

theorem Denied.bind {p : Program α} (h : Denied fault e p) (f : α → Program β) :
    Denied fault e (p >>= f) := by
  induction h with
  | fail => exact .fail
  | call _ ih => exact .call ih
  | log hentry _ ih => exact .log hentry ih
  | draw _ ih => exact .draw ih

theorem Denied.map {p : Program α} (h : Denied fault e p) (f : α → β) : Denied fault e (f <$> p) :=
  h.bind fun a => pure (f a)

theorem denied_report (operation : String) (details : Details) :
    Denied fault (raised details fault) (report operation details fault : Program α) := by
  unfold report
  split
  · exact .log rfl .fail
  · exact .fail

/-- An operation of the registry is denied at its first call. -/
theorem denied_stored (operation : String) (details : Details) (c : Call)
    (f : Store.Reply → Program α) :
    Denied fault (raised details fault) (stored operation details c >>= f) := by
  rw [stored_bind]
  exact .call (denied_report operation details)

/-! ### Operations -/

/-- No code that is drawn is empty, so the registry is asked. -/
theorem denied_draw {length : Nat} (hlength : 1 ≤ length) {f : String → Program α}
    (h : ∀ code, code ≠ "" → Denied fault e (f code)) : Denied fault e (drawCode length >>= f) := by
  refine .draw fun code hcode => h code ?_
  rintro rfl
  have hzero : length = 0 := hcode.symm
  omega

theorem denied_add {requestId address code : String} {account : Uuid} (hcode : code ≠ "") :
    Denied fault (raised (Registry.claimDetails requestId account address) fault)
      (Registry.add requestId account address code) := by
  rw [Registry.add_of_code hcode]
  exact denied_stored ..

theorem denied_provision {requestId address code : String} (hcode : code ≠ "") :
    Denied fault
      (raised (Registry.details requestId "provision" [("address", .text address)]) fault)
      (Registry.provision requestId address code) := by
  unfold Registry.provision
  rw [if_neg (by simpa using hcode)]
  exact denied_stored ..

theorem denied_lookup {requestId operation : String} {about : List (String × Detail)} {c : Call} :
    Denied fault (raised (Registry.details requestId operation about) fault)
      (stored operation (Registry.details requestId operation about) c) := by
  rw [← bind_pure (stored ..)]
  exact denied_stored ..

theorem denied_authenticate (requestId handle password : String) :
    Denied fault (raised (Registry.details requestId "authenticate" []) fault)
      (Authentication.authenticate requestId handle password) := by
  have houtcome : Authentication.outcome requestId password (.error fault) =
      .error (raised (Registry.details requestId "authenticate" []) fault) := by
    dsimp only [Authentication.outcome, raised]
    split <;> rfl
  rw [Authentication.authenticate_eq]
  refine .call ?_
  rw [houtcome]
  exact .fail

/-! ### Runs -/

/-- In the states of `P` every store call comes to this fault, and only a delivery leads out. -/
structure Denies (handle : Handler σ) (fault : Fault) (P : σ → Prop) : Prop where
  call : ∀ c s, P s → (handle (.store c) s).1 = .error fault ∧ P (handle (.store c) s).2
  log : ∀ entry s, entry.delivery? = none → P s → P (handle (.log entry) s).2
  draw : ∀ length s, P s →
    String.length (handle (.drawCode length) s).1 = length ∧ P (handle (.drawCode length) s).2

/-- **A denied operation fails and leaves everything else as it was.** -/
theorem Denied.run {p : Program α} (h : Denied fault e p) {handle : Handler σ} {P : σ → Prop}
    (hdenies : Denies handle fault P) {s : σ} (hs : P s) :
    (p.run handle s).1 = .error e ∧ P (p.run handle s).2 := by
  induction h generalizing s with
  | fail => exact ⟨rfl, hs⟩
  | call _ ih =>
    obtain ⟨hanswer, hs'⟩ := hdenies.call _ s hs
    rw [run_ask, hanswer]
    exact ih hs'
  | log hentry _ ih => exact ih (hdenies.log _ s hentry hs)
  | draw _ ih =>
    obtain ⟨hlength, hs'⟩ := hdenies.draw _ s hs
    exact ih _ hlength hs'

end EmailOwnership.Program
