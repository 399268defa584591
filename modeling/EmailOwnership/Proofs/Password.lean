import EmailOwnership.Password.Bcrypt
import EmailOwnership.Proofs.Text.Pieces

/-! Passwords and their own hashes.

Text in the sixty-four digits reads back as the bytes that it writes (`decode?_encode`), and no
digit is a dollar sign. So a hash shows the settings that it was made with (`parse?_head`), and
a password is accepted by every hash that was made of it (`check_hashWith`). A hash that shows its
settings decides about every password that is not too long (`check_of_readable`). -/
namespace EmailOwnership

/-! ### Sixty-four digits -/

namespace Password.Radix64

theorem value?_digit (n : Nat) : value? (digit n) = some (n % 64) := by
  have hall : ∀ k < 64, value? (digits.getD k '.') = some k := by decide +kernel
  exact hall _ (Nat.mod_lt _ (by decide))

theorem digit_ne_dollar (n : Nat) : digit n ≠ '$' := by
  have hall : ∀ k < 64, digits.getD k '.' ≠ '$' := by decide +kernel
  exact hall _ (Nat.mod_lt _ (by decide))

theorem dollar_not_mem_encode (bytes : List UInt8) : '$' ∉ encode bytes := by
  induction bytes using encode.induct with
  | case1 => simp [encode]
  | case2 a => simp [encode, (digit_ne_dollar _).symm]
  | case3 a b => simp [encode, (digit_ne_dollar _).symm]
  | case4 a b c rest ih => simp [encode, (digit_ne_dollar _).symm, ih]

theorem length_encode (bytes : List UInt8) :
    (encode bytes).length = (4 * bytes.length + 2) / 3 := by
  induction bytes using encode.induct with
  | case1 => rfl
  | case2 a => simp [encode]
  | case3 a b => simp [encode]
  | case4 a b c rest ih =>
    simp only [encode, List.length_cons, ih]
    omega

theorem length_ofValues? : ∀ (values : List Nat) {bytes : List UInt8},
    ofValues? values = some bytes → bytes.length = 3 * values.length / 4
  | [], _, h => by
    cases h
    rfl
  | [_], _, h => by cases h
  | [a, b], _, h => by
    simp only [ofValues?] at h
    split at h <;> cases h
    simp
  | [a, b, c], _, h => by
    simp only [ofValues?] at h
    split at h <;> cases h
    simp
  | a :: b :: c :: d :: rest, _, h => by
    obtain ⟨tail, htail, rfl⟩ := Option.map_eq_some_iff.1 h
    simp only [List.length_append, List.length_cons, List.length_nil, length_ofValues? rest htail]
    omega

theorem length_of_mapM {α β : Type} {f : α → Option β} {xs : List α} {ys : List β}
    (h : xs.mapM f = some ys) : ys.length = xs.length := by
  induction xs generalizing ys with
  | nil =>
    cases h
    rfl
  | cons x rest ih =>
    simp only [List.mapM_cons, Option.bind_eq_bind, Option.bind_eq_some_iff] at h
    obtain ⟨y, -, tail, htail, h⟩ := h
    cases h
    rw [List.length_cons, List.length_cons, ih htail]

theorem length_decode? {cs : List Char} {bytes : List UInt8} (h : decode? cs = some bytes) :
    bytes.length = 3 * cs.length / 4 := by
  obtain ⟨values, hvalues, hbytes⟩ := Option.bind_eq_some_iff.1 h
  rw [length_ofValues? values hbytes, length_of_mapM hvalues]

/-- The low byte of a number. -/
theorem ofNat_eq {n : Nat} {a : UInt8} (h : n % 256 = a.toNat) : UInt8.ofNat n = a := by
  apply UInt8.toNat_inj.1
  rw [UInt8.toNat_ofNat', h]

/-- **What is written in these digits is read back.** -/
theorem decode?_encode (bytes : List UInt8) : decode? (encode bytes) = some bytes := by
  suffices h : ∃ values, (encode bytes).mapM value? = some values ∧ ofValues? values = some bytes by
    obtain ⟨values, hvalues, hbytes⟩ := h
    simp [decode?, hvalues, hbytes]
  induction bytes using encode.induct with
  | case1 => exact ⟨[], rfl, rfl⟩
  | case2 a =>
    have ha := a.toNat_lt
    refine ⟨[a.toNat * 16 / 64 % 64, a.toNat * 16 % 64], by simp [encode, value?_digit], ?_⟩
    simp only [ofValues?]
    rw [if_pos (by omega), ofNat_eq (a := a) (by omega)]
  | case3 a b =>
    have ha := a.toNat_lt
    have hb := b.toNat_lt
    let n := (a.toNat * 256 + b.toNat) * 4
    refine ⟨[n / 4096 % 64, n / 64 % 64, n % 64], by simp [encode, value?_digit, n], ?_⟩
    simp only [ofValues?]
    rw [if_pos (by omega), ofNat_eq (a := a) (by omega), ofNat_eq (a := b) (by omega)]
  | case4 a b c rest ih =>
    obtain ⟨values, hvalues, hrest⟩ := ih
    have ha := a.toNat_lt
    have hb := b.toNat_lt
    have hc := c.toNat_lt
    let n := (a.toNat * 256 + b.toNat) * 256 + c.toNat
    refine ⟨n / 262144 % 64 :: n / 4096 % 64 :: n / 64 % 64 :: n % 64 :: values,
      by simp [encode, value?_digit, hvalues, n], ?_⟩
    simp only [ofValues?, hrest]
    rw [ofNat_eq (a := a) (by omega), ofNat_eq (a := b) (by omega), ofNat_eq (a := c) (by omega)]
    rfl

end Password.Radix64

/-! ### Settings and hashes -/

namespace Password

/-- Settings that can be read off a salt. -/
structure Setting.Valid (setting : Setting) : Prop where
  version : setting.version ∈ versions
  cost : minCost ≤ setting.cost ∧ setting.cost ≤ maxCost
  salt : setting.salt.length = 16

theorem cost?_bounds {s : String} {cost : Nat} (h : cost? s = some cost) :
    minCost ≤ cost ∧ cost ≤ maxCost := by
  simp only [cost?] at h
  -- with a sign or without one
  split at h <;>
  · split at h
    · cases h
    · split at h
      · rename_i hbounds
        cases h
        exact hbounds
      · cases h

theorem valid_of_parse? {s : String} {setting : Setting} (h : Setting.parse? s = some setting) :
    setting.Valid := by
  unfold Setting.parse? at h
  split at h
  · split at h
    · rename_i version cost rest _ hshape
      obtain ⟨cost, hcost, h⟩ := Option.bind_eq_some_iff.1 h
      obtain ⟨salt, hsalt, h⟩ := Option.bind_eq_some_iff.1 h
      cases h
      refine ⟨hshape.1, cost?_bounds hcost, ?_⟩
      rw [Radix64.length_decode? hsalt, List.length_take, Nat.min_eq_left hshape.2]
    · cases h
  · cases h

theorem versions_plain : ∀ version ∈ versions, '$' ∉ version.toList ∧ version.toList ≠ [] := by
  decide +kernel

theorem twoDigits_plain : ∀ cost < 32, '$' ∉ (twoDigits cost).toList ∧
    (twoDigits cost).toList ≠ [] ∧ (minCost ≤ cost → cost? (twoDigits cost) = some cost) := by
  decide +kernel

/-- **A hash shows the settings that it begins with.** -/
theorem parse?_head {setting : Setting} (h : setting.Valid) {tail : List Char} (htail : '$' ∉ tail) :
    Setting.parse? (setting.head ++ String.ofList tail) = some setting := by
  obtain ⟨hversion, hversion_ne⟩ := versions_plain _ h.version
  obtain ⟨hcost, hcost_ne, hread⟩ := twoDigits_plain setting.cost (Nat.lt_succ_of_le h.cost.2)
  have hdigits : (Radix64.encode setting.salt).length = 22 := by
    rw [Radix64.length_encode, h.salt]
  have hrest : '$' ∉ Radix64.encode setting.salt ++ tail := by
    simp [Radix64.dollar_not_mem_encode, htail]
  have hrest_ne : Radix64.encode setting.salt ++ tail ≠ [] := by
    intro hnil
    simp [(List.append_eq_nil_iff.1 hnil).1] at hdigits
  have htext : (setting.head ++ String.ofList tail).toList =
      '$' :: (setting.version.toList ++ '$' :: ((twoDigits setting.cost).toList ++
        '$' :: (Radix64.encode setting.salt ++ tail))) := by
    simp [Setting.head]
  have hparts : dollarParts (setting.head ++ String.ofList tail) =
      [setting.version, twoDigits setting.cost,
        String.ofList (Radix64.encode setting.salt ++ tail)] := by
    unfold dollarParts
    rw [htext, ← List.nil_append ('$' :: _), Text.pieces_append List.not_mem_nil,
      Text.pieces_append hversion, Text.pieces_append hcost, Text.pieces_of_not_mem hrest]
    simp [hversion_ne, hcost_ne, hrest_ne]
  unfold Setting.parse?
  simp only [hparts, String.toList_ofList]
  rw [if_pos ⟨h.version, by simp [hdigits]⟩, hread h.cost.1, List.take_left' hdigits,
    Radix64.decode?_encode]
  rfl

/-- **A password is accepted by every hash that was made of it.** -/
theorem check_hashWith {password salt hash : String} (h : hashWith password salt = .ok hash) :
    check password hash = .ok true := by
  unfold hashWith at h
  split at h
  · cases h
  · rename_i hlength
    split at h
    · cases h
    · rename_i setting hsetting
      cases h
      unfold check hashWith
      rw [if_neg hlength, parse?_head (valid_of_parse? hsetting) (Radix64.dollar_not_mem_encode _)]
      simp [Except.map]

/-! ### Lengths -/

theorem length_checksum (setting : Setting) (password : ByteArray) :
    (checksum setting password).length = 23 := by
  have hblocks : ∀ schedule, (encipherBlocks schedule plaintext).length = 24 := by
    intro schedule
    simp [plaintext, encipherBlocks, wordBytes]
  unfold checksum
  rw [List.length_take, hblocks]
  rfl

theorem length_head {setting : Setting} (h : setting.Valid) : setting.head.length = 29 := by
  have hversions : ∀ version ∈ versions, version.length = 2 := by decide +kernel
  have hcosts : ∀ cost < 32, (twoDigits cost).length = 2 := by decide +kernel
  have hcost := hcosts setting.cost (Nat.lt_succ_of_le h.cost.2)
  simp only [Setting.head, String.length_append, hversions _ h.version, hcost, String.length_ofList,
    Radix64.length_encode, h.salt]
  rfl

/-- **All hashes have one length.** -/
theorem length_of_hashWith {password salt hash : String} (h : hashWith password salt = .ok hash) :
    hash.length = 60 := by
  unfold hashWith at h
  split at h
  · cases h
  · split at h
    · cases h
    · rename_i setting hsetting
      cases h
      rw [String.length_append, length_head (valid_of_parse? hsetting), String.length_ofList,
        Radix64.length_encode, length_checksum]

/-- A stored text of another length accepts no password. -/
theorem check_of_length {hash : String} (h : hash.length ≠ 60) (password : String) :
    check password hash ≠ .ok true := by
  unfold check
  cases hmade : hashWith password hash with
  | error failure => nofun
  | ok made =>
    have hne : made ≠ hash := fun heq => h (heq ▸ length_of_hashWith hmade)
    simp [Except.map, hne]

/-! ### Checks -/

/-- The settings of a stored hash can be read off it. -/
def Readable (hash : String) : Prop := (Setting.parse? hash).isSome = true

instance (hash : String) : Decidable (Readable hash) := inferInstanceAs (Decidable (_ = true))

section Checks
variable {password hash : String}

/-- A password that is too long is refused before the hash is looked at. -/
theorem check_of_long (h : maxPasswordBytes < password.utf8ByteSize) (hash : String) :
    check password hash = .error .passwordTooLong := by
  rw [check, hashWith, if_pos h]
  rfl

theorem check_of_unreadable (h : ¬ maxPasswordBytes < password.utf8ByteSize)
    (hhash : ¬ Readable hash) : check password hash = .error .invalidSalt := by
  have hsetting : Setting.parse? hash = none := by simpa [Readable] using hhash
  rw [check, hashWith, if_neg h, hsetting]
  rfl

/-- **A hash that can be read decides about every other password.** -/
theorem check_of_readable (h : ¬ maxPasswordBytes < password.utf8ByteSize)
    (hhash : Readable hash) : ∃ accepted, check password hash = .ok accepted := by
  obtain ⟨setting, hsetting⟩ := Option.isSome_iff_exists.1 hhash
  rw [check, hashWith, if_neg h, hsetting]
  exact ⟨_, rfl⟩

end Checks

/-- A hash that was made can be read. -/
theorem readable_of_hashWith {password salt hash : String} (h : hashWith password salt = .ok hash) :
    Readable hash := by
  unfold hashWith at h
  split at h
  · cases h
  · split at h
    · cases h
    · rename_i setting hsetting
      cases h
      rw [Readable, parse?_head (valid_of_parse? hsetting) (Radix64.dollar_not_mem_encode _)]
      rfl

end Password
end EmailOwnership
