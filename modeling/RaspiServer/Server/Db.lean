import RaspiServer.Server.Json

/-!
# The account tables (`db_management.cpp`)

The `accounts` and `recovery_codes` tables and the statements the login and
signup handlers run on them. Rows are kept in insertion order, which is the
order SQLite returns them in for these unordered `SELECT`s. Any statement may
fail (a busy or broken database): each function takes the failure as an
argument, and a failed statement changes nothing, as SQLite guarantees for a
single statement. `store_recovery_codes` runs its inserts in a transaction, so
it stores all codes or none.

`id` is the primary key of `accounts`; `recovery_codes` has no key, and its
`FOREIGN KEY` clause is not enforced (SQLite's default).
-/

set_option autoImplicit false

namespace RaspiServer.Server

/-- A row of `accounts` (`struct Account`). -/
structure Account where
  id : String
  passwd : String
  otpSecret : String
  useOtp : Bool
  deriving DecidableEq, Repr

/-- A row of `recovery_codes`: the owner, the hashed code and the `used` flag. -/
structure RecoveryRow where
  id : String
  code : String
  used : Bool
  deriving DecidableEq, Repr

/-- The two tables. -/
structure Db where
  accounts : List Account
  recoveryCodes : List RecoveryRow
  deriving DecidableEq, Repr

namespace Db

/-- `insert_data_accounts(db, account)`: the insert violates the primary key
when the id is taken. -/
def insertDataAccounts (db : Db) (account : Account) (fails : Bool) : Bool × Db :=
  if fails ∨ db.accounts.any (fun row => row.id = account.id) then (false, db)
  else (true, { db with accounts := db.accounts ++ [account] })

/-- `get_account_by_id(db, id)`: the first row with the id, or `nullptr` when
there is none or the query fails. -/
def getAccountById (db : Db) (id : String) (fails : Bool) : Option Account :=
  if fails then none else db.accounts.find? fun row => row.id = id

/-- `store_otp_secret(db, id, secret)`: `UPDATE accounts SET otp_secret`. -/
def storeOtpSecret (db : Db) (id secret : String) (fails : Bool) : Bool × Db :=
  if fails then (false, db)
  else (true, { db with accounts := db.accounts.map fun row =>
    if row.id = id then { row with otpSecret := secret } else row })

/-- `store_recovery_codes(db, id, codes)`: one transaction of inserts, each
row unused. -/
def storeRecoveryCodes (db : Db) (id : String) (codes : List String) (fails : Bool) : Bool × Db :=
  if fails then (false, db)
  else (true, { db with recoveryCodes := db.recoveryCodes ++ codes.map fun code => ⟨id, code, false⟩ })

/-- `get_hashed_recovery_codes(db, id)`: the unused hashes of `id`. A query
that fails after `k` rows returns the `k` rows read so far (`cut = some k`). -/
def getHashedRecoveryCodes (db : Db) (id : String) (cut : Option Nat) : List String :=
  let codes := (db.recoveryCodes.filter fun row => row.id = id ∧ row.used = false).map (·.code)
  match cut with
  | none => codes
  | some k => codes.take k

/-- `verify_recovery_code(db, id, input)`. -/
def verifyRecoveryCode (verify : String → String → Bool) (db : Db) (id input : String)
    (cut : Option Nat) : Bool :=
  (db.getHashedRecoveryCodes id cut).any fun hashed => verify hashed input

/-- `invalidate_recovery_code(db, id, input_code)`: a second read of the unused
hashes, then `UPDATE recovery_codes SET used = 1 WHERE id = ? AND code = ?`
for the first that verifies; `true` when a row changed. -/
def invalidateRecoveryCode (verify : String → String → Bool) (db : Db) (id inputCode : String)
    (cut : Option Nat) (updateFails : Bool) : Bool × Db :=
  match (db.getHashedRecoveryCodes id cut).find? fun hash => verify hash inputCode with
  | none => (false, db)
  | some matchedHash =>
      if matchedHash = "" ∨ updateFails then (false, db)
      else
        (db.recoveryCodes.any (fun row => row.id = id ∧ row.code = matchedHash),
          { db with recoveryCodes := db.recoveryCodes.map fun row =>
              if row.id = id ∧ row.code = matchedHash then { row with used := true } else row })

/-! ## Statement lemmas -/

@[simp] theorem insertDataAccounts_recoveryCodes (db : Db) (account : Account) (fails : Bool) :
    (db.insertDataAccounts account fails).2.recoveryCodes = db.recoveryCodes := by
  unfold insertDataAccounts
  split <;> rfl

theorem insertDataAccounts_false {db : Db} {account : Account} {fails : Bool}
    (failed : (db.insertDataAccounts account fails).1 = false) :
    (db.insertDataAccounts account fails).2 = db := by
  unfold insertDataAccounts at failed ⊢
  split
  · rfl
  · rename_i inserted
    simp only [inserted, if_false] at failed
    cases failed

/-- The insert is refused for an id that has a row, whatever else happens. -/
theorem insertDataAccounts_taken {db : Db} {account : Account} {fails : Bool}
    (taken : ∃ row ∈ db.accounts, row.id = account.id) : (db.insertDataAccounts account fails).1 = false := by
  obtain ⟨row, member, named⟩ := taken
  have found : db.accounts.any (fun row => row.id = account.id) = true :=
    List.any_eq_true.mpr ⟨row, member, by simpa using named⟩
  simp [insertDataAccounts, found]

@[simp] theorem storeOtpSecret_recoveryCodes (db : Db) (id secret : String) (fails : Bool) :
    (db.storeOtpSecret id secret fails).2.recoveryCodes = db.recoveryCodes := by
  unfold storeOtpSecret
  split <;> rfl

@[simp] theorem storeRecoveryCodes_accounts (db : Db) (id : String) (codes : List String) (fails : Bool) :
    (db.storeRecoveryCodes id codes fails).2.accounts = db.accounts := by
  unfold storeRecoveryCodes
  split <;> rfl

theorem mem_getHashedRecoveryCodes {db : Db} {id : String} {cut : Option Nat} {hash : String}
    (member : hash ∈ db.getHashedRecoveryCodes id cut) : ⟨id, hash, false⟩ ∈ db.recoveryCodes := by
  have unused : hash ∈ (db.recoveryCodes.filter fun row => row.id = id ∧ row.used = false).map (·.code) := by
    unfold getHashedRecoveryCodes at member
    cases cut with
    | none => exact member
    | some k => exact List.mem_of_mem_take member
  obtain ⟨row, kept, rfl⟩ := List.mem_map.mp unused
  obtain ⟨present, owner⟩ := List.mem_filter.mp kept
  simp only [decide_eq_true_eq] at owner
  obtain ⟨rfl, unusedRow⟩ := owner
  cases row
  simp_all

theorem mem_getHashedRecoveryCodes_none {db : Db} {id hash : String}
    (row : ⟨id, hash, false⟩ ∈ db.recoveryCodes) : hash ∈ db.getHashedRecoveryCodes id none := by
  simp only [getHashedRecoveryCodes, List.mem_map, List.mem_filter, decide_eq_true_eq]
  exact ⟨_, ⟨row, rfl, rfl⟩, rfl⟩

theorem verifyRecoveryCode_true {verify : String → String → Bool} {db : Db} {id input : String}
    {cut : Option Nat} (verified : db.verifyRecoveryCode verify id input cut = true) :
    ∃ hash, ⟨id, hash, false⟩ ∈ db.recoveryCodes ∧ verify hash input = true := by
  obtain ⟨hash, member, accepted⟩ := List.any_eq_true.mp verified
  exact ⟨hash, mem_getHashedRecoveryCodes member, accepted⟩

@[simp] theorem invalidateRecoveryCode_accounts (verify : String → String → Bool) (db : Db)
    (id inputCode : String) (cut : Option Nat) (updateFails : Bool) :
    (db.invalidateRecoveryCode verify id inputCode cut updateFails).2.accounts = db.accounts := by
  unfold invalidateRecoveryCode
  split
  · rfl
  · split <;> rfl

theorem verifyRecoveryCode_false {verify : String → String → Bool} {db : Db} {id input : String}
    (cut : Option Nat) (spent : ∀ hash, ⟨id, hash, false⟩ ∈ db.recoveryCodes → verify hash input = false) :
    db.verifyRecoveryCode verify id input cut = false := by
  cases verified : db.verifyRecoveryCode verify id input cut with
  | false => rfl
  | true =>
      obtain ⟨hash, row, accepts⟩ := verifyRecoveryCode_true verified
      rw [spent hash row] at accepts
      cases accepts

/-- After a complete second read whose `UPDATE` runs, no unused row of the id
verifies the input, when its unused hashes are non-empty and at most one of
them verifies it: every row with the matched hash is marked used. -/
theorem invalidateRecoveryCode_spent {verify : String → String → Bool} {db : Db} {id input : String}
    (stored : ∀ hash, ⟨id, hash, false⟩ ∈ db.recoveryCodes → hash ≠ "")
    (oneHash : ∀ hash hash', ⟨id, hash, false⟩ ∈ db.recoveryCodes → ⟨id, hash', false⟩ ∈ db.recoveryCodes →
      verify hash input = true → verify hash' input = true → hash = hash')
    {hash : String} (unused : ⟨id, hash, false⟩ ∈ (db.invalidateRecoveryCode verify id input none false).2.recoveryCodes) :
    verify hash input = false := by
  unfold invalidateRecoveryCode at unused
  split at unused
  next missed => simpa using List.find?_eq_none.mp missed hash (mem_getHashedRecoveryCodes_none unused)
  next matched found =>
    have matchedRow := mem_getHashedRecoveryCodes (List.mem_of_find?_eq_some found)
    have accepts : verify matched input = true := by simpa using List.find?_some found
    rw [if_neg (by simpa using stored matched matchedRow)] at unused
    obtain ⟨row, old, marked⟩ := List.mem_map.mp unused
    split at marked
    case isTrue => simp at marked
    case isFalse other =>
      subst marked
      cases rejects : verify hash input with
      | false => rfl
      | true => exact absurd (oneHash _ _ old matchedRow rejects accepts) (by simpa using other)

theorem invalidateRecoveryCode_updateFails (verify : String → String → Bool) (db : Db)
    (id inputCode : String) (cut : Option Nat) :
    db.invalidateRecoveryCode verify id inputCode cut true = (false, db) := by
  unfold invalidateRecoveryCode
  split
  · rfl
  · simp

end Db

end RaspiServer.Server
