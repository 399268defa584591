import EmailOwnership.Proofs.Database.Course

/-! What the sessions of the calls are.

Which statements a session sends, what it comes to and how it can fail is read off its text
(`Session.Obeys`). The session of a call sets no limit of its own, and only a row that is too
short for its query makes it fail (`session_keeps`). -/
namespace EmailOwnership.Store.Database
variable {α β : Type}

/-! ### Sessions -/

/-- The session sends statements with `P` only, and as long as its answers satisfy `F` it comes to
values with `Q` and fails with faults with `E`. -/
def Session.Obeys (P : Query → Prop) (F : Query → ResultSet → Prop) (E : Fault → Prop) (Q : α → Prop) :
    Session α → Prop
  | .done a => Q a
  | .fail fault => E fault
  | .drawId next => ∀ u, (next u).Obeys P F E Q
  | .execute query _ next => P query ∧ ∀ r, F query r → (next r).Obeys P F E Q

section Obeys
variable {P : Query → Prop} {F : Query → ResultSet → Prop} {E : Fault → Prop} {R : α → Prop}
  {Q : β → Prop}

theorem Session.Obeys.bind {p : Session α} {f : α → Session β} (hp : p.Obeys P F E R)
    (hf : ∀ a, R a → (f a).Obeys P F E Q) : (p.bind f).Obeys P F E Q := by
  induction p with
  | done a => exact hf a hp
  | fail fault => exact hp
  | drawId next ih => exact fun u => ih u (hp u)
  | execute query parameters next ih => exact ⟨hp.1, fun r hr => ih r (hp.2 r hr)⟩

theorem Session.Obeys.mono {U : Query → Prop} {V : Fault → Prop} {Q : α → Prop} {p : Session α}
    (hp : p.Obeys P F E R) (hP : ∀ q, P q → U q) (hE : ∀ fault, E fault → V fault)
    (hQ : ∀ a, R a → Q a) : p.Obeys U F V Q := by
  induction p with
  | done a => exact hQ a hp
  | fail fault => exact hE fault hp
  | drawId next ih => exact fun u => ih u (hp u)
  | execute query parameters next ih => exact ⟨hP _ hp.1, fun r hr => ih r (hp.2 r hr)⟩

theorem Session.Obeys.run {query : Query} {parameters : List Value} {Q : ResultSet → Prop}
    (hP : P query) (hQ : ∀ r, F query r → Q r) : (Session.run query parameters).Obeys P F E Q :=
  ⟨hP, hQ⟩

theorem Session.Obeys.ofExcept {x : Except Fault α} (hE : ∀ fault, x = .error fault → E fault) :
    (Session.ofExcept x).Obeys P F E fun _ => True := by
  cases x with
  | error fault => exact hE fault rfl
  | ok a => trivial

/-- Limiting a session adds a statement that sets the limit, or else a fault. -/
theorem limited_obeys {body : Session α} {remaining : Option Float} (hlimit : P .setTimeout)
    (hboundless : ∀ seconds, remaining = some seconds → milliseconds? seconds = none →
      E .boundlessTimeout) (hbody : body.Obeys P F E R) : (limited remaining body).Obeys P F E R := by
  cases remaining with
  | none => exact hbody
  | some seconds =>
    cases hn : milliseconds? seconds with
    | none =>
      rw [limited_of_boundless hn]
      exact hboundless seconds rfl hn
    | some n =>
      rw [limited_of_finite hn]
      exact ⟨hlimit, fun _ _ => hbody⟩

end Obeys

/-! ### Rows that fit -/

/-- The number of columns that a query selects. -/
def Query.width : Query → Nat
  | .emails (.select columns _) => columns.length
  | .emails (.insert _ _ returning) => returning.length
  | .emails (.update _ _ returning) => returning.length
  | .emails (.delete _) => 0
  | .setTimeout | .ping | .tagsOf => 1
  | .passwordByHandle | .rolesOf => 2
  | .ownerByCode | .ownerByAddress | .authenticationOf => 3
  | .emailsOf => recordColumns.length

/-- Every row has the columns that were selected. -/
def Fits (query : Query) (r : ResultSet) : Prop := ∀ row ∈ r.rows, query.width ≤ row.length

/-- Only a row that is too short is not read. -/
def Reads (read : Row → Except Fault α) (width : Nat) : Prop :=
  ∀ row fault, read row = .error fault → fault = .malformedRow ∧ row.length < width

theorem emailOfRow_reads : Reads emailOfRow Query.emailsOf.width
  | [], _, rfl | [_], _, rfl | [_, _], _, rfl | [_, _, _], _, rfl | [_, _, _, _], _, rfl =>
    ⟨rfl, by simp [Query.width, recordColumns]⟩

theorem methodOfRow_reads : Reads methodOfRow Query.authenticationOf.width
  | [], _, rfl | [_], _, rfl | [_, _], _, rfl => ⟨rfl, by simp [Query.width]⟩

theorem roleOfRow_reads : Reads roleOfRow Query.rolesOf.width
  | [], _, rfl | [_], _, rfl => ⟨rfl, by simp [Query.width]⟩

theorem tagOfRow_reads : Reads tagOfRow Query.tagsOf.width
  | [], _, rfl => ⟨rfl, by simp [Query.width]⟩

/-- Only a result with a row that is too short is not read. -/
def ReadsResult (read : ResultSet → Except Fault α) (query : Query) : Prop :=
  ∀ r fault, read r = .error fault → fault = .malformedRow ∧ ¬ Fits query r

theorem readsResult_ok (f : ResultSet → α) (query : Query) : ReadsResult (fun r => .ok (f r)) query :=
  nofun

/-- A result is not read for want of a column in one of its rows. -/
theorem not_fits_of_mem {query : Query} {r : ResultSet} {row : Row} (hrow : row ∈ r.rows)
    (hshort : row.length < query.width) : ¬ Fits query r :=
  fun hfits => Nat.not_lt.2 (hfits row hrow) hshort

theorem Reads.mapM {read : Row → Except Fault α} {query : Query} (h : Reads read query.width) :
    ReadsResult (fun r => r.rows.mapM read) query := by
  rintro ⟨rows, count⟩ fault hread
  suffices ∃ row ∈ rows, read row = .error fault by
    obtain ⟨row, hrow, hfault⟩ := this
    exact ⟨(h row fault hfault).1, not_fits_of_mem hrow (h row fault hfault).2⟩
  dsimp only at hread
  induction rows with
  | nil => cases hread
  | cons row rest ih =>
    rw [List.mapM_cons] at hread
    cases hrow : read row with
    | error fault' =>
      rw [hrow] at hread
      cases hread
      exact ⟨row, List.mem_cons_self .., hrow⟩
    | ok a =>
      rw [hrow] at hread
      cases hrest : rest.mapM read with
      | ok as =>
        rw [hrest] at hread
        cases hread
      | error fault' =>
        rw [hrest] at hread
        cases hread
        obtain ⟨row', hmem, hfault⟩ := ih hrest
        exact ⟨row', List.mem_cons_of_mem _ hmem, hfault⟩

theorem record_reads {query : Query} (hwidth : query.width = recordColumns.length) :
    ReadsResult ResultSet.record query := by
  intro r fault hread
  unfold ResultSet.record at hread
  cases hrow : r.rows.head? with
  | none =>
    rw [hrow] at hread
    cases hread
  | some row =>
    rw [hrow] at hread
    dsimp only at hread
    cases hemail : emailOfRow row with
    | ok email =>
      rw [hemail] at hread
      cases hread
    | error fault' =>
      rw [hemail] at hread
      cases hread
      obtain ⟨hfault, hshort⟩ := emailOfRow_reads row fault hemail
      exact ⟨hfault, not_fits_of_mem (List.mem_of_mem_head? hrow) (hwidth ▸ hshort)⟩

theorem credential_reads : ReadsResult credential .passwordByHandle := by
  intro r fault hread
  unfold credential at hread
  cases hrow : r.rows.head? with
  | none =>
    rw [hrow] at hread
    cases hread
  | some row =>
    rw [hrow] at hread
    match row, hrow, hread with
    | [], hrow, rfl | [_], hrow, rfl =>
      exact ⟨rfl, not_fits_of_mem (List.mem_of_mem_head? hrow) (by simp [Query.width])⟩

/-! ### The sessions of the calls -/

/-- A look at a record brings nothing or a record. -/
def Legible (c : Call) (reply : Reply) : Prop :=
  ∀ address, c = .getEmail address → reply = .nothing ∨ ∃ row, reply = .record row

theorem record_legible {r : ResultSet} {reply : Reply} (h : r.record = .ok reply) :
    reply = .nothing ∨ ∃ row, reply = .record row := by
  unfold ResultSet.record at h
  cases hrow : r.rows.head? with
  | none =>
    rw [hrow] at h
    cases h
    exact .inl rfl
  | some row =>
    rw [hrow] at h
    dsimp only at h
    cases hread : emailOfRow row with
    | error fault =>
      rw [hread] at h
      cases h
    | ok email =>
      rw [hread] at h
      cases h
      exact .inr ⟨email, rfl⟩

/-- What was read is malformed only if rows may be too short, and legible for its call. -/
structure WellRead (short : Prop) (c : Call) (x : Except Fault Reply) : Prop where
  fault : ∀ fault, x = .error fault → fault = .malformedRow ∧ short
  reply : ∀ reply, x = .ok reply → Legible c reply

/-- The promises of a session whose answers fit, unless rows may be too short. -/
abbrev Session.Keeps (short : Prop) (Q : α → Prop) (p : Session α) : Prop :=
  p.Obeys (· ≠ .setTimeout) (fun query r => Fits query r ∨ short)
    (fun fault => fault = .malformedRow ∧ short) Q

section Keeps
variable {short : Prop} {c : Call}

theorem ReadsResult.excused {read : ResultSet → Except Fault α} {query : Query} {r : ResultSet}
    (h : ReadsResult read query) (hr : Fits query r ∨ short) (fault : Fault)
    (hread : read r = .error fault) : fault = .malformedRow ∧ short :=
  ⟨(h r fault hread).1, hr.resolve_left (h r fault hread).2⟩

/-- One statement, and the reading of its result. -/
theorem keeps_reading {query : Query} {parameters : Option (List Value)}
    {read : ResultSet → Except Fault Reply} (hquery : query ≠ .setTimeout)
    (hread : ReadsResult read query) (hlegible : ∀ r reply, read r = .ok reply → Legible c reply) :
    (Session.execute query parameters fun r => .done (read r)).Keeps short (WellRead short c) :=
  ⟨hquery, fun r hr => ⟨hread.excused hr, hlegible r⟩⟩

theorem edges_keeps {query : Query} {read : Row → Except Fault α} (hquery : query ≠ .setTimeout)
    (hread : Reads read query.width) (id : Value) :
    (edges query id read).Keeps short fun _ => True :=
  Session.Obeys.bind (R := fun r => Fits query r ∨ short) (.run hquery fun _ hr => hr) fun _ hr =>
    .ofExcept (hread.mapM.excused hr)

/-- An account is put together from its row and from edges. -/
theorem account_keeps {query : Query} (hquery : query ≠ .setTimeout) (hwidth : query.width = 3)
    (parameters : List Value) (withRoles : Bool) :
    (account query parameters withRoles).Keeps short fun _ => True := by
  refine Session.Obeys.bind (R := fun r => Fits query r ∨ short) (.run hquery fun _ hr => hr) fun r hr => ?_
  split
  · trivial
  · refine (edges_keeps (by simp) emailOfRow_reads _).bind fun emails _ => ?_
    refine (edges_keeps (by simp) methodOfRow_reads _).bind fun authentication _ => ?_
    split
    · refine (edges_keeps (by simp) roleOfRow_reads _).bind fun roles _ => ?_
      exact (edges_keeps (by simp) tagOfRow_reads _).bind fun tags _ => trivial
    · trivial
  · -- a row with fewer than three columns does not fit
    rename_i row hshort hhead
    refine ⟨rfl, hr.resolve_left fun hfits => ?_⟩
    have hlength := hfits row (List.mem_of_mem_head? hhead)
    rw [hwidth] at hlength
    match row, hlength with
    | id :: handle :: name :: rest, _ => exact absurd rfl (hshort id handle name rest)

/-- **The session of a call** sets no limit of its own, and is at a loss only for a row that is too
short. -/
theorem session_keeps (short : Prop) (c : Call) : c.session.Keeps short (WellRead short c) := by
  have hother : (∀ address, c ≠ .getEmail address) → ∀ reply, Legible c reply :=
    fun h reply address hc => absurd hc (h address)
  have haccount : (∀ address, c ≠ .getEmail address) → ∀ reply, WellRead short c (.ok reply) :=
    fun h reply => ⟨nofun, fun reply' _ => hother h reply'⟩
  cases c with
  | getEmail address =>
    exact keeps_reading (by simp) (record_reads rfl) fun r reply hr _ _ => record_legible hr
  | createEmail =>
    exact fun u => keeps_reading (by simp) (record_reads rfl) fun _ _ _ => hother (by simp) _
  | claimUnowned | reissueCode =>
    exact keeps_reading (by simp) (record_reads rfl) fun _ _ _ => hother (by simp) _
  | markVerified | deleteEmail | ping =>
    exact keeps_reading (by simp) (readsResult_ok _ _) fun _ _ _ => hother (by simp) _
  | accountByCode | accountByEmail =>
    exact (account_keeps (by simp) rfl _ _).bind fun reply _ => haccount (by simp) reply
  | passwordCredential =>
    exact keeps_reading (by simp) credential_reads fun _ _ _ => hother (by simp) _

end Keeps
end EmailOwnership.Store.Database
