import EmailOwnership.Proofs.Program.Abreast
import EmailOwnership.Proofs.Registry.Outcome

/-! Verifications and removals over different stores.

A code that is nobody's is answered alike, whether its address is unknown, has no owner or awaits
another code (`abreast_verifyEmail`). A removal is answered alike, whether it finds something to
remove or not; only the wording of its log line tells which (`abreast_remove`). -/
namespace EmailOwnership

/-! ### Stores -/

namespace Store.Memory

/-- A record at this address has an owner and this code. -/
def State.Awaits (s : State) (address code : String) : Prop :=
  ∃ r, s.emails.get? address = some r ∧ r.owner ≠ none ∧ r.code = code

theorem step_accountByCode_of_not_awaits {s : State} {address code : String}
    (h : ¬ s.Awaits address code) : step (.accountByCode address code) s = (.ok .nothing, s) := by
  simp only [step]
  split
  · rename_i hr
    rw [if_neg fun hcode => h ⟨_, hr, by simp, hcode⟩]
  · rfl

/-- A removal counts what it has removed. -/
theorem step_deleteEmail_answers (email account : Uuid) (s : State) :
    ∃ n s', step (.deleteEmail email account) s = (.ok (.count n), s') := by
  simp only [step]
  split <;> exact ⟨_, _, rfl⟩

end Store.Memory

/-! ### Operations -/

open Program (Abreast abreast_log)
open Store (Call Reply)
open Store.Memory (State step)
variable {α γ : Type} {reading : Log.Entry → γ} {Q : Except Failure α → Except Failure α → Prop}
  {requestId operation : String} {details details' : Details} {s s' t t' : State}

/-- A call that both stores answer, and what follows. Where the request is done, the reports of that
differ in their details only. -/
theorem Registry.abreast_stored {c c' : Call} {reply reply' : Reply}
    (hstep : step c s = (.ok reply, t)) (hstep' : step c' s' = (.ok reply', t'))
    (hc : c.method = c'.method) (hdone : ∀ message,
      let fault := Store.Fault.interrupted message
      Q (.error (raised details fault)) (.error (raised details' fault)))
    {f f' : Reply → Program α} (hf : Abreast reading Q (f reply) t (f' reply') t') :
    Abreast reading Q (stored operation details c >>= f) s (stored operation details' c' >>= f') s' := by
  rw [stored_bind, stored_bind]
  refine .asked hc (fun message => abreast_log rfl (.done (hdone message))) ?_
  rw [hstep, hstep']
  exact hf

/-- **A code that is nobody's goes one way**, whatever else there is at its address. -/
theorem Verification.abreast_verifyEmail {email code : String}
    (h : ¬ s.Awaits (Address.normalize email) code) (h' : ¬ s'.Awaits (Address.normalize email) code)
    (hfailed : ∀ e, Q (.error e) (.error e)) {f f' : Verification → Program α}
    (hf : Abreast reading Q (f .invalidCode) s (f' .invalidCode) s') :
    Abreast reading Q (verifyEmail requestId email code >>= f) s
      (verifyEmail requestId email code >>= f') s' := by
  unfold verifyEmail Registry.lookupCode
  rw [Program.bind_assoc, Program.bind_assoc]
  exact Registry.abreast_stored (Store.Memory.step_accountByCode_of_not_awaits h)
    (Store.Memory.step_accountByCode_of_not_awaits h') rfl (fun message => hfailed _) hf

/-- **A removal goes one way**, whoever asks for it and whether there is something to remove. -/
theorem Registry.abreast_remove {account account' email : Uuid}
    (hfailed : ∀ e e' : RegistryError, e.kind = .internal → e'.kind = .internal →
      Q (.error (.registry e)) (.error (.registry e'))) {f f' : Unit → Program α}
    (hf : ∀ t t', Abreast Log.Entry.channel Q (f ()) t (f' ()) t') :
    Abreast Log.Entry.channel Q (remove requestId account email >>= f) s
      (remove requestId account' email >>= f') s' := by
  obtain ⟨n, t, hstep⟩ := Store.Memory.step_deleteEmail_answers email account s
  obtain ⟨n', t', hstep'⟩ := Store.Memory.step_deleteEmail_answers email account' s'
  unfold remove
  rw [Program.bind_assoc, Program.bind_assoc]
  refine abreast_stored hstep hstep' rfl (fun message => hfailed _ _ rfl rfl) ?_
  -- found or not, on either side
  split <;> split <;>
  · refine abreast_log ?_ (hf t t')
    rfl

end EmailOwnership
