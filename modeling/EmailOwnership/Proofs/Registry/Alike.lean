import EmailOwnership.Proofs.Program.Alike
import EmailOwnership.Proofs.Registry.Course

/-! The registry and the verification flow under two runs that differ in codes alone.

Every operation is alike for any two codes that it may be given, as long as it has one. So
are the operations of the verification flow, whatever codes they draw; only a verification
depends on the code that it brings, and is left out. -/
namespace EmailOwnership.Registry
open Program (Alike alike_pure alike_fail alike_bind alike_log alike_fieldOf alike_code)
open Store (Call Reply)
variable {α : Type} {R : α → α → Prop} {requestId operation address code code' : String}
  {details : Details} {account : Uuid}

/-! ### Single calls -/

theorem alike_refuse (r : Refusal) (details : Details) :
    Alike R (refuse r details) (refuse r details) := alike_fail _

theorem alike_report (fault : Store.Fault) :
    Alike R (report operation details fault) (report operation details fault) := by
  unfold report
  split
  · exact alike_log (alike_fail _)
  · exact alike_fail _

theorem alike_stored (c c' : Call) (hc : c.redact = c'.redact) (hcode : c.method ≠ .accountByCode)
    {f f' : Reply → Program α}
    (hf : ∀ reply reply', reply.Alike reply' → Alike R (f reply) (f' reply')) :
    Alike R (stored operation details c >>= f) (stored operation details c' >>= f') := by
  rw [stored_bind, stored_bind]
  exact .asked hc hcode (fun fault => alike_report fault) hf

/-- What comes after a reply that is nothing, and after any other. -/
theorem alike_match {f f' : Reply → Program α} (hnothing : Alike R (f .nothing) (f' .nothing))
    (hf : ∀ reply reply', reply ≠ .nothing → reply' ≠ .nothing → reply.Alike reply' →
      Alike R (f reply) (f' reply')) {reply reply' : Reply} (h : reply.Alike reply') :
    Alike R (f reply) (f' reply') := by
  by_cases hreply : reply = .nothing
  · rw [hreply, h.eq_nothing_iff.1 hreply]
    exact hnothing
  · exact hf reply reply' hreply (fun h' => hreply (h.eq_nothing_iff.2 h')) h

/-! ### Claims -/

/-- A conditional write is lost in both runs or in none. -/
theorem alike_write (c c' : Call) (hc : c.redact = c'.redact) (hcode : c.method ≠ .accountByCode)
    {f : Reply → Program Reply} (entry : Log.Entry)
    (hlost : Alike Reply.Alike (f .nothing) (f .nothing))
    (hf : ∀ reply, reply ≠ .nothing → f reply = (do Program.log entry; pure reply)) :
    Alike Reply.Alike (stored operation details c >>= f) (stored operation details c' >>= f) := by
  refine alike_stored c c' hc hcode fun reply reply' h => ?_
  refine alike_match hlost (fun reply reply' hreply hreply' h => ?_) h
  rw [hf reply hreply, hf reply' hreply']
  exact alike_log (alike_pure h)

theorem alike_create : Alike Reply.Alike (create details account address code)
    (create details account address code') := by
  refine alike_write (.createEmail address (some account) code)
    (.createEmail address (some account) code') rfl nofun (.added address account) ?_
    fun reply hreply => ?_
  · exact alike_log (alike_refuse _ _)
  · split
    · exact absurd rfl hreply
    · rfl

theorem alike_takeOver : Alike Reply.Alike (takeOver details account address code)
    (takeOver details account address code') := by
  refine alike_write (.claimUnowned address account code) (.claimUnowned address account code') rfl
    nofun (.unownedClaimed address account) ?_ fun reply hreply => ?_
  · exact alike_log (alike_refuse _ _)
  · split
    · exact absurd rfl hreply
    · rfl

theorem alike_codeLost {look look' : Reply} (h : look.Alike look') :
    Alike Reply.Alike (codeLost details address look) (codeLost details address look') := by
  refine alike_match ?_ (fun look look' hlook hlook' h => ?_) h
  · exact alike_log (alike_refuse _ _)
  · rw [codeLost_known hlook, codeLost_known hlook']
    refine alike_bind (alike_fieldOf h (by decide)) fun verified verified' hv => ?_
    subst hv
    split
    · exact alike_refuse _ _
    · exact alike_log (alike_refuse _ _)

theorem alike_reissue : Alike Reply.Alike (reissue details account address code)
    (reissue details account address code') := by
  refine alike_write (.reissueCode address account code) (.reissueCode address account code') rfl
    nofun (.codeReissued address) ?_ fun reply hreply => ?_
  · exact alike_stored (.getEmail address) _ rfl nofun fun look look' h => alike_codeLost h
  · split
    · exact absurd rfl hreply
    · rfl

theorem alike_claim {look look' : Reply} (h : look.Alike look') :
    Alike Reply.Alike (claim details account address code look)
      (claim details account address code' look') := by
  refine alike_match alike_create (fun look look' hlook hlook' h => ?_) h
  rw [claim_known hlook, claim_known hlook']
  refine alike_bind (alike_fieldOf h (by decide)) fun owner owner' howner => ?_
  subst howner
  split
  · exact alike_takeOver
  split
  · exact alike_refuse _ _
  refine alike_bind (alike_fieldOf h (by decide)) fun verified verified' hv => ?_
  subst hv
  split
  · exact alike_refuse _ _
  · exact alike_reissue

/-- **Claims with any two codes are alike.** -/
theorem alike_add (hcode : code ≠ "") (hcode' : code' ≠ "") :
    Alike Reply.Alike (add requestId account address code) (add requestId account address code') := by
  rw [add_of_code hcode, add_of_code hcode']
  exact alike_stored (.getEmail address) _ rfl nofun fun look look' h => alike_claim h

/-! ### The other operations -/

theorem alike_provision (hcode : code ≠ "") (hcode' : code' ≠ "") :
    Alike Reply.Alike (provision requestId address code) (provision requestId address code') := by
  unfold provision
  rw [if_neg (by simpa using hcode), if_neg (by simpa using hcode')]
  refine alike_write (.createEmail address none code) (.createEmail address none code') rfl nofun
    (.provisioned address) ?_ fun reply hreply => ?_
  · exact alike_refuse _ _
  · split
    · exact absurd rfl hreply
    · rfl

/-- Codes are read back alike, though they need not be the same. -/
theorem alike_getCode :
    Alike (fun _ _ => True) (getCode requestId address) (getCode requestId address) := by
  refine alike_stored (.getEmail address) _ rfl nofun fun reply reply' h => ?_
  by_cases hreply : reply = .nothing
  · obtain rfl := hreply
    obtain rfl := h.eq_nothing_iff.1 rfl
    exact alike_refuse _ _
  · split
    · exact absurd rfl hreply
    split
    · exact absurd (h.eq_nothing_iff.2 rfl) hreply
    exact alike_code h

theorem alike_lookupAccount : Alike Reply.Alike (lookupAccount requestId address)
    (lookupAccount requestId address) := by
  unfold lookupAccount
  rw [← Program.bind_pure (stored _ _ _)]
  exact alike_stored (.accountByEmail address) _ rfl nofun fun reply reply' h => alike_pure h

theorem alike_remove (email : Uuid) :
    Alike Eq (remove requestId account email) (remove requestId account email) := by
  refine alike_stored (.deleteEmail email account) _ rfl nofun fun affected affected' h => ?_
  rw [h.isZero]
  split
  · exact .logged (alike_pure rfl)
  · exact .logged (alike_pure rfl)

end EmailOwnership.Registry

namespace EmailOwnership.Verification
open Program (Alike alike_pure alike_fail alike_bind alike_draw alike_deliver)
open Store (Reply)
variable {requestId email : String} {account : Uuid} {n n' : Nat}

/-! ### The verification flow -/

theorem code_ne_empty {code : String} (hn : 1 ≤ n) (h : code.length = n) : code ≠ "" := by
  rintro rfl
  simp at h
  omega

/-- **A claim is alike for codes of any two lengths**: its answer and all that it logs. -/
theorem alike_addEmail (hn : 1 ≤ n) (hn' : 1 ≤ n') :
    Alike Reply.Alike (addEmail requestId n account email) (addEmail requestId n' account email) := by
  refine alike_draw fun drawn drawn' hdrawn hdrawn' => ?_
  refine alike_bind (Registry.alike_add (code_ne_empty hn hdrawn) (code_ne_empty hn' hdrawn'))
    fun record record' hrecord => ?_
  refine alike_bind Registry.alike_getCode fun code code' _ => ?_
  exact alike_deliver (alike_pure hrecord)

theorem alike_provisionEmail (hn : 1 ≤ n) (hn' : 1 ≤ n') :
    Alike Reply.Alike (provisionEmail requestId n email) (provisionEmail requestId n' email) :=
  alike_draw fun _ _ hdrawn hdrawn' =>
    Registry.alike_provision (code_ne_empty hn hdrawn) (code_ne_empty hn' hdrawn')

end EmailOwnership.Verification
