import RaspiServer.Server.Auth

/-!
# What the account handlers guarantee

* A signup run back to back on one connection stores a row holding a hash of
  the password and the secret of the URI it returns, and one verifying hash of
  each returned recovery code (`signup_accepted`).
* It is not all-or-nothing: `generate_otp_uri` replaces the id's OTP object
  before the insert can fail, so a signup refused for a taken id leaves the
  tables alone and the manager with a fresh secret
  (`signup_refused_replaces_otp`). A six-digit login step 2 is then checked
  against that secret, which is in no row (`refused_signup_login_code`).
* Two signups for one id interleave: `get_secret` reads the other's secret, so
  an accepted signup can return a URI whose secret its row does not hold
  (`signup_interleaved_secrets`).
* Where the OTP objects come from: along every run, the object the manager
  holds for an id was drawn by a signup for the id or loaded from the id's row
  by a successful step 1, and a successful step 2 rests on its current code or
  on an unused recovery row (`loginStep2_success_issued`). Nothing ties a
  step 2 to an earlier step 1.
* `handle_login_step2_request` answers a recovery-code login as a success and
  says the code was invalidated also when the `UPDATE` failed.
-/

set_option autoImplicit false

namespace RaspiServer.Server

open RaspiServer.Otp

/-! ## A sample environment

An HMAC that returns the key's first 20 bytes, zero-padded, so that codes
differ with the key; a password hash `argon2:` followed by the password, which
the password check compares. Used by the runs on fixed inputs below. -/

/-- The sample environment. -/
def sampleEnv : Env :=
  { hmac := ⟨fun key _ => (key ++ List.replicate 20 0).take 20, fun key _ => by simp⟩,
    hashPassword := fun _ passwd => some ("argon2:" ++ passwd),
    verifyPassword := fun hash input => hash == "argon2:" ++ input,
    verifyPassword_hashPassword := fun _ _ _ hashed => by
      cases hashed
      simp,
    qrFits := fun _ => true }

/-- A signup in which every statement succeeds, drawing `rand() = r` for every
character of the secret, and one recovery code. -/
def sampleSignup (r : Nat) : SignupOracle :=
  { salts := fun _ => 0, rand := fun _ => r, recoveryCodes := ["K7p2Qx9LmA"],
    insertFails := false, storeSecretFails := false, storeCodesFails := false }

/-! ## Signup, step by step -/

section Steps

variable (env : Env) {p : Process} {c : Nat}

/-- The first step of a signup with `use_otp` whose password hashed: the
manager holds a fresh object for the id, and the connection waits for
`get_secret`. -/
theorem Process.handle_signup_otp (idle : p.pending c = none) (id : String) {passwd hashed : String} {o : SignupOracle}
    (hashOk : env.hashPassword (o.salts 0) passwd = some hashed) :
    ∃ totp : Totp, totp.base32Secret = randomBase32 16 o.rand ∧ totp.account = id ∧ totp.digits = 6 ∧
      totp.interval = 30 ∧ p.handle env ⟨c, .signup id passwd true o⟩ =
        .ok (p.signupStep c ⟨p.state.db, p.state.otp.put id totp (randomBase32 16 o.rand)⟩
          (some (.generated id hashed (issuedUri id (randomBase32 16 o.rand)) o)), .none) := by
  obtain ⟨totp, secret, account, six, thirty, generated⟩ := generateOtpUri_eq p.state.otp id o.rand
  refine ⟨totp, secret, account, six, thirty, ?_⟩
  rw [Process.handle_signup env p idle, signupBegin, hashOk]
  simp only [if_true, generated]
  rfl

/-- `get_secret` reads whatever secret the manager holds for the id now. -/
theorem Process.handle_resume_generated {id hashed otpUri secret : String} {o : SignupOracle}
    (inSignup : p.pending c = some (.generated id hashed otpUri o)) (fits : env.qrFits otpUri = true)
    (read : p.state.otp.getSecret id = secret) :
    p.handle env ⟨c, .resume⟩ =
      .ok (p.signupStep c p.state (some (.locking ⟨id, hashed, secret, true⟩ (some (otpUri, o.recoveryCodes)) o)),
        .none) := by
  rw [Process.handle_resume env p inSignup]
  simp only [signupResume, signupSecret, fits, if_true, read]
  rfl

theorem Process.handle_resume_locking {account : Account} {issued : Option (String × List String)}
    {o : SignupOracle} (inSignup : p.pending c = some (.locking account issued o)) :
    p.handle env ⟨c, .resume⟩ =
      .ok (p.signupStep c (signupCommit env p.state account issued o).1 none,
        (signupCommit env p.state account issued o).2) := by
  rw [Process.handle_resume env p inSignup]
  rfl

/-- A refused insert stores nothing and answers `sign_up_success = 0`. -/
theorem Process.handle_commit_refused {account : Account} {issued : Option (String × List String)}
    {o : SignupOracle} (inSignup : p.pending c = some (.locking account issued o))
    (refused : (p.state.db.insertDataAccounts account o.insertFails).1 = false) :
    p.handle env ⟨c, .resume⟩ = .ok (p.signupStep c p.state none, .signup false none) := by
  rw [Process.handle_resume_locking env inSignup]
  simp only [signupCommit, signupStore, refused, Bool.false_eq_true, false_and, if_false, Option.getD_some,
    Db.insertDataAccounts_false refused]

end Steps

theorem enabled_request {p : Process} {c : Nat} {request : Request} (idle : p.pending c = none)
    (fresh : request.isResume = false) : Enabled p ⟨c, request⟩ := by
  simp [Enabled, idle, fresh]

theorem enabled_resume {p : Process} {c : Nat} {stage : SignupStage} (inSignup : p.pending c = some stage) :
    Enabled p ⟨c, .resume⟩ := by
  simp [Enabled, inSignup, Request.isResume]

/-- A connection that finishes its signup is idle again. -/
theorem Process.signupStep_pending_restored {p q : Process} {c : Nat} {stage : Option SignupStage}
    (idle : p.pending c = none) (waiting : q.pending = Function.update p.pending c stage) (s : State) :
    (q.signupStep c s none).pending = p.pending := by
  simp only [Process.signupStep, waiting, Function.update_idem, Function.update_eq_self_iff, idle]

/-- The two unlocked steps of a signup with `use_otp`, back to back on an idle
connection, its password hashed and its URI fitting the QR code: the fresh
object goes into the manager, `get_secret` reads its secret back, and the
connection waits for the lock with the account holding that secret. -/
theorem signup_unlocked (env : Env) {p : Process} {c : Nat} (idle : p.pending c = none)
    {id passwd hashed : String} {o : SignupOracle} (hashOk : env.hashPassword (o.salts 0) passwd = some hashed)
    (fits : env.qrFits (issuedUri id (randomBase32 16 o.rand)) = true) :
    ∃ totp : Totp, totp.base32Secret = randomBase32 16 o.rand ∧ totp.digits = 6 ∧ totp.interval = 30 ∧
      ∃ p' entries, Steps env p entries p' ∧
        p'.state = ⟨p.state.db, p.state.otp.put id totp (randomBase32 16 o.rand)⟩ ∧
        p'.pending = Function.update p.pending c (some (.locking ⟨id, hashed, randomBase32 16 o.rand, true⟩
          (some (issuedUri id (randomBase32 16 o.rand), o.recoveryCodes)) o)) ∧
        entries.map (·.2) = [(⟨c, .signup id passwd true o⟩, .none), (⟨c, .resume⟩, .none)] := by
  obtain ⟨totp, secret, -, six, thirty, begun⟩ := Process.handle_signup_otp env idle id hashOk
  refine ⟨totp, secret, six, thirty, _, _, .cons (enabled_request idle rfl) begun
    (.cons (enabled_resume (Process.signupStep_pending_self ..))
      (Process.handle_resume_generated env (Process.signupStep_pending_self ..) fits
        (OtpManager.put_getSecret_self ..)) (.nil _)), rfl, ?_, rfl⟩
  simp only [Process.signupStep, Function.update_idem]

/-- The three steps of a signup with `use_otp` for an id that has a row, back
to back on an idle connection, its password hashed and its URI fitting the QR
code: the insert is refused, the tables and the connections are as before, and
the manager holds the fresh object. -/
theorem signup_refused_steps (env : Env) {p : Process} {c : Nat} (idle : p.pending c = none)
    {id passwd hashed : String} {o : SignupOracle} (hashOk : env.hashPassword (o.salts 0) passwd = some hashed)
    (fits : env.qrFits (issuedUri id (randomBase32 16 o.rand)) = true)
    (taken : ∃ row ∈ p.state.db.accounts, row.id = id) :
    ∃ totp : Totp, totp.base32Secret = randomBase32 16 o.rand ∧ totp.digits = 6 ∧ totp.interval = 30 ∧
      ∃ p' entries, Steps env p entries p' ∧
        p'.state = ⟨p.state.db, p.state.otp.put id totp (randomBase32 16 o.rand)⟩ ∧ p'.pending = p.pending ∧
        entries.map (·.2) = [(⟨c, .signup id passwd true o⟩, .none), (⟨c, .resume⟩, .none),
          (⟨c, .resume⟩, .signup false none)] := by
  obtain ⟨totp, secret, six, thirty, q, entries, steps, state, waiting, events⟩ := signup_unlocked env idle hashOk fits
  have inSignup : q.pending c = some (.locking ⟨id, hashed, randomBase32 16 o.rand, true⟩
      (some (issuedUri id (randomBase32 16 o.rand), o.recoveryCodes)) o) := by
    rw [waiting, Function.update_self]
  have refused : (q.state.db.insertDataAccounts ⟨id, hashed, randomBase32 16 o.rand, true⟩ o.insertFails).1 =
      false := by
    rw [state]
    exact Db.insertDataAccounts_taken taken
  have committed := Process.handle_commit_refused env inSignup refused
  exact ⟨totp, secret, six, thirty, _, _, steps.append (.cons (enabled_resume inSignup) committed (.nil _)),
    by rw [Process.signupStep_state, state], Process.signupStep_pending_restored idle waiting _, by simp [events]⟩

/-! ## What a signup leaves behind -/

/-- Along any run, a signup with `use_otp` for an id that has a row, run back
to back on an idle connection with its password hashed and its URI fitting
the QR code, is answered `sign_up_success = 0` with the tables as they were;
but the manager now holds a fresh object and secret for the id. -/
theorem signup_refused_replaces_otp {env : Env} {history : List (Process × Event × Response)} {p : Process}
    (run : Run env history p) {c : Nat} (idle : p.pending c = none) {id passwd hashed : String}
    {o : SignupOracle} (hashOk : env.hashPassword (o.salts 0) passwd = some hashed)
    (fits : env.qrFits (issuedUri id (randomBase32 16 o.rand)) = true)
    (taken : ∃ row ∈ p.state.db.accounts, row.id = id) :
    ∃ p' entries, Run env (history ++ entries) p' ∧
      entries.map (·.2) = [(⟨c, .signup id passwd true o⟩, .none), (⟨c, .resume⟩, .none),
        (⟨c, .resume⟩, .signup false none)] ∧
      p'.state.db = p.state.db ∧ p'.pending = p.pending ∧
      p'.state.otp.userSecrets id = some (randomBase32 16 o.rand) ∧
      ∃ totp : Totp, p'.state.otp.userOtps id = some totp ∧ totp.base32Secret = randomBase32 16 o.rand := by
  obtain ⟨totp, secret, -, -, p', entries, steps, state, pending, events⟩ :=
    signup_refused_steps env idle hashOk fits taken
  refine ⟨p', entries, run.steps steps, events, by rw [state], pending, ?_, totp, ?_, secret⟩
  · rw [state]
    exact OtpManager.put_userSecrets_self ..
  · rw [state]
    exact OtpManager.put_userOtps_self ..

/-- `alice` has a row from an earlier signup and the server has just started.
A second signup for her on connection 1, drawing `BBBBBBBBBBBBBBBB`, is
refused, and her manager entry, empty before, now holds that secret. -/
theorem signup_refused_replaces_otp_sample :
    ∃ (p' : Process) (entries : List (Process × Event × Response)),
      Run sampleEnv ([] ++ entries) p' ∧
      entries.map (·.2) = [(⟨1, .signup "alice" "pw2" true (sampleSignup 1)⟩, .none), (⟨1, .resume⟩, .none),
        (⟨1, .resume⟩, .signup false none)] ∧
      p'.state.db = ⟨[⟨"alice", "argon2:pw", "AAAAAAAAAAAAAAAA", true⟩], []⟩ ∧
      (Process.start ⟨[⟨"alice", "argon2:pw", "AAAAAAAAAAAAAAAA", true⟩], []⟩).state.otp.userSecrets "alice" = none ∧
      p'.state.otp.userSecrets "alice" = some "BBBBBBBBBBBBBBBB" := by
  obtain ⟨p', entries, run, events, sameDb, -, secret, -⟩ :=
    signup_refused_replaces_otp (Run.init ⟨[⟨"alice", "argon2:pw", "AAAAAAAAAAAAAAAA", true⟩], []⟩)
      (show (Process.start _).pending 1 = none from rfl)
      (show sampleEnv.hashPassword ((sampleSignup 1).salts 0) "pw2" = some "argon2:pw2" from rfl)
      (show sampleEnv.qrFits _ = true from rfl) ⟨_, List.mem_singleton_self _, rfl⟩
  have drawn : randomBase32 16 (sampleSignup 1).rand = "BBBBBBBBBBBBBBBB" := by decide
  exact ⟨p', entries, run, events, sameDb, rfl, drawn ▸ secret⟩

/-- The ways a secret enters the manager for an id: the first step of a
signup with `use_otp` draws it once its password is hashed; a successful
step 1 loads it from the id's account row. -/
def Issues (env : Env) (s : State) (e : Event) (id secret : String) : Prop :=
  (∃ passwd o hashed, e.request = .signup id passwd true o ∧ env.hashPassword (o.salts 0) passwd = some hashed ∧
      secret = randomBase32 16 o.rand) ∨
  (∃ passwd o account, e.request = .loginStep1 id passwd o ∧
      s.db.getAccountById id o.lookupFails = some account ∧
      env.verifyPassword account.passwd passwd = true ∧ account.otpSecret = secret ∧ secret ≠ "")

/-- An object in the manager for `id` was built for `id` with six digits and a
30-second step, from a secret that entered by `Issues` earlier in the run. -/
def IssuedEntry (env : Env) (history : List (Process × Event × Response)) (id : String) (totp : Totp) :
    Prop :=
  totp.account = id ∧ totp.digits = 6 ∧ totp.interval = 30 ∧
    ∃ entry ∈ history, Issues env entry.1.state entry.2.1 id totp.base32Secret

/-- Step 1 leaves the manager alone, unless the password verified and the
account has a stored secret, which is registered again. -/
theorem loginStep1_ok {env : Env} {s s' : State} {id passwd : String} {o : Step1Oracle} {r : Response}
    (answered : loginStep1 env s id passwd o = .ok (s', r)) :
    s'.otp = s.otp ∨
      ∃ account, s.db.getAccountById id o.lookupFails = some account ∧
        env.verifyPassword account.passwd passwd = true ∧ account.otpSecret ≠ "" ∧
        registerStep s.otp id account.otpSecret = .ok s'.otp := by
  simp only [loginStep1] at answered
  split at answered
  case isTrue =>
    simp only [Except.ok.injEq, Prod.mk.injEq] at answered
    exact .inl (by rw [← answered.1])
  case isFalse =>
    split at answered
    case h_1 =>
      simp only [Except.ok.injEq, Prod.mk.injEq] at answered
      exact .inl (by rw [← answered.1])
    case h_2 account found =>
      split at answered
      case isTrue verified =>
        split at answered
        case isTrue nonempty =>
          cases registered : registerStep s.otp id account.otpSecret with
          | error e => simp [registered, bind, Except.bind] at answered
          | ok m =>
              simp only [registered, bind, Except.bind, Except.ok.injEq, Prod.mk.injEq] at answered
              exact .inr ⟨account, found, verified, nonempty, by rw [← answered.1]; exact registered⟩
        case isFalse =>
          simp only [pure, Except.pure, bind, Except.bind, Except.ok.injEq, Prod.mk.injEq] at answered
          exact .inl (by rw [← answered.1])
      case isFalse =>
        simp only [Except.ok.injEq, Prod.mk.injEq] at answered
        exact .inl (by rw [← answered.1])

/-- The first step of a signup leaves the manager alone, or puts in the
object it drew. -/
theorem signupBegin_otp {env : Env} {s s' : State} {id passwd : String} {useOtp : Bool} {o : SignupOracle}
    {stage : Option SignupStage} {r : Response} (begun : signupBegin env s id passwd useOtp o = .ok (s', stage, r)) :
    s'.otp = s.otp ∨ ∃ hashed totp, useOtp = true ∧ env.hashPassword (o.salts 0) passwd = some hashed ∧
      totp.base32Secret = randomBase32 16 o.rand ∧ totp.account = id ∧ totp.digits = 6 ∧ totp.interval = 30 ∧
      s'.otp = s.otp.put id totp (randomBase32 16 o.rand) := by
  unfold signupBegin at begun
  split at begun
  case h_1 =>
    simp only [Except.ok.injEq, Prod.mk.injEq] at begun
    exact .inl (by rw [← begun.1])
  case h_2 hashed hashOk =>
    cases useOtp with
    | false =>
        simp only [Bool.false_eq_true, if_false, Except.ok.injEq, Prod.mk.injEq] at begun
        exact .inl (by rw [← begun.1])
    | true =>
        obtain ⟨totp, secret, account, six, thirty, generated⟩ := generateOtpUri_eq s.otp id o.rand
        simp only [if_true, generated, Except.ok.injEq, Prod.mk.injEq] at begun
        exact .inr ⟨hashed, totp, rfl, hashOk, secret, account, six, thirty, by rw [← begun.1]; rfl⟩

/-- The later steps of a signup do not touch the manager. -/
theorem signupResume_otp {env : Env} {s s' : State} {stage : SignupStage} {stage' : Option SignupStage}
    {r : Response} (resumed : signupResume env s stage = .ok (s', stage', r)) : s'.otp = s.otp := by
  cases stage with
  | generated id hashed otpUri o =>
      simp only [signupResume, signupSecret] at resumed
      split at resumed
      case isTrue =>
        simp only [Functor.map, Except.map, Except.ok.injEq, Prod.mk.injEq] at resumed
        rw [← resumed.1]
      case isFalse => cases resumed
  | locking account issued o =>
      simp only [signupResume, Except.ok.injEq, Prod.mk.injEq] at resumed
      rw [← resumed.1]
      rfl

theorem update_some_cases {β : Type} {f : String → Option β} {id key : String} {v w : β}
    (held : Function.update f id (some v) key = some w) : f key = some w ∨ (key = id ∧ w = v) := by
  by_cases same : key = id
  · subst same
    simp only [Function.update_self, Option.some.injEq] at held
    exact .inr ⟨rfl, held.symm⟩
  · rw [Function.update_of_ne same] at held
    exact .inl held

/-- Step 1's effect on the manager, as a `put`. -/
theorem loginStep1_put {env : Env} {s s' : State} {id passwd : String} {o : Step1Oracle} {r : Response}
    (answered : loginStep1 env s id passwd o = .ok (s', r)) :
    s'.otp = s.otp ∨ ∃ (account : Account) (totp : Totp), s.db.getAccountById id o.lookupFails = some account ∧
      env.verifyPassword account.passwd passwd = true ∧ account.otpSecret ≠ "" ∧
      totp.base32Secret = account.otpSecret ∧ totp.account = id ∧ totp.digits = 6 ∧ totp.interval = 30 ∧
      s'.otp = s.otp.put id totp account.otpSecret := by
  rcases loginStep1_ok answered with same | ⟨account, found, verified, nonempty, registered⟩
  case inl => exact .inl same
  case inr =>
    obtain ⟨totp, secret, owner, six, thirty, registeredEq⟩ := registerOtp_ok s.otp id _ nonempty
    rw [registeredEq, Except.ok.injEq] at registered
    exact .inr ⟨account, totp, found, verified, nonempty, secret, owner, six, thirty, registered.symm⟩

/-- What one step can do to the manager: nothing, or put in an object for an
id, built for it with six digits and a 30-second step, from a secret that
`Issues` lets in. -/
theorem Process.handle_otp {env : Env} {p p' : Process} {e : Event} {r : Response}
    (handled : p.handle env e = .ok (p', r)) :
    p'.state.otp = p.state.otp ∨ ∃ (id : String) (totp : Totp), totp.account = id ∧ totp.digits = 6 ∧ totp.interval = 30 ∧
      Issues env p.state e id totp.base32Secret ∧ p'.state.otp = p.state.otp.put id totp totp.base32Secret := by
  obtain ⟨c, request⟩ := e
  cases pending : p.pending c with
  | none =>
      cases request with
      | loginStep1 id passwd o =>
          rw [Process.handle_loginStep1 env p pending] at handled
          obtain ⟨⟨s, answer⟩, answered, mapped⟩ := Except.map_eq_ok handled
          cases mapped
          rcases loginStep1_put answered with same | ⟨account, totp, found, verified, nonempty, secret, owner, six,
            thirty, put⟩
          case inl => exact .inl same
          case inr =>
            refine .inr ⟨id, totp, owner, six, thirty,
              .inr ⟨passwd, o, account, rfl, found, verified, secret.symm, secret ▸ nonempty⟩, ?_⟩
            rw [secret]
            exact put
      | signup id passwd useOtp o =>
          rw [Process.handle_signup env p pending] at handled
          obtain ⟨⟨s, stage, answer⟩, begun, mapped⟩ := Except.map_eq_ok handled
          cases mapped
          rcases signupBegin_otp begun with same | ⟨hashed, totp, rfl, hashOk, secret, owner, six, thirty, put⟩
          case inl => exact .inl same
          case inr =>
            refine .inr ⟨id, totp, owner, six, thirty, .inl ⟨passwd, o, hashed, rfl, hashOk, secret⟩, ?_⟩
            rw [Process.signupStep_state, put, secret]
      | loginStep2 id input o =>
          rw [Process.handle_loginStep2 env p pending] at handled
          cases handled
          exact .inl (loginStep2_otp env p.state id input o)
      | resume =>
          rw [Process.handle_idle_resume env p pending] at handled
          cases handled
          exact .inl rfl
  | some stage =>
      cases request with
      | resume =>
          rw [Process.handle_resume env p pending] at handled
          obtain ⟨⟨s, stage', answer⟩, resumed, mapped⟩ := Except.map_eq_ok handled
          cases mapped
          exact .inl (signupResume_otp resumed)
      | _ =>
          rw [Process.handle_busy env p pending rfl] at handled
          cases handled
          exact .inl rfl

/-- One step either keeps an object of the manager or puts in one it issued. -/
theorem handle_userOtps {env : Env} {p p' : Process} {e : Event} {r : Response}
    (handled : p.handle env e = .ok (p', r)) (id : String) (totp : Totp)
    (held : p'.state.otp.userOtps id = some totp) :
    p.state.otp.userOtps id = some totp ∨
      (totp.account = id ∧ totp.digits = 6 ∧ totp.interval = 30 ∧ Issues env p.state e id totp.base32Secret) := by
  rcases Process.handle_otp handled with same | ⟨name, fresh, owner, six, thirty, issues, put⟩
  case inl => exact .inl (same ▸ held)
  case inr =>
    rw [put] at held
    rcases update_some_cases held with kept | ⟨rfl, rfl⟩
    case inl => exact .inl kept
    case inr => exact .inr ⟨owner, six, thirty, issues⟩

theorem Run.otp_issued {env : Env} {history : List (Process × Event × Response)} {p : Process}
    (run : Run env history p) (id : String) (totp : Totp) (held : p.state.otp.userOtps id = some totp) :
    IssuedEntry env history id totp := by
  induction run with
  | init => simp [Process.start, State.start, OtpManager.empty] at held
  | step _ _ handled ih =>
      rcases handle_userOtps handled id totp held with kept | ⟨owner, six, thirty, issues⟩
      · obtain ⟨owner, six, thirty, entry, member, issues⟩ := ih kept
        exact ⟨owner, six, thirty, entry, List.mem_append_left _ member, issues⟩
      · exact ⟨owner, six, thirty, _, List.mem_append_right _ (List.mem_singleton_self _), issues⟩

/-- What a successful request 22 rests on, along any run: an unused recovery
row of the id whose hash the input verifies, or a six-digit input equal to the
RFC 6238 code, under `byte_secret`'s key, of a secret issued for the id earlier
in the run. -/
theorem loginStep2_success_issued {env : Env} {history : List (Process × Event × Response)} {p p' : Process}
    (run : Run env history p) {c : Nat} (idle : p.pending c = none) {id input message : String}
    {o : Step2Oracle} (answered : p.handle env ⟨c, .loginStep2 id input o⟩ = .ok (p', .step2 true message))
    (recent : o.now / 30 < 2 ^ 32) :
    (∃ hash, ⟨id, hash, false⟩ ∈ p.state.db.recoveryCodes ∧ env.verifyPassword hash input = true) ∨
      (isNumeric input = true ∧ input.length = 6 ∧ ∃ totp : Totp, p.state.otp.userOtps id = some totp ∧
        toUnsigned64 (stoi input) = rfc6238 env.hmac (byteSecret totp.base32Secret) o.now ∧
        ∃ entry ∈ history, Issues env entry.1.state entry.2.1 id totp.base32Secret) := by
  rw [Process.handle_loginStep2 env p idle, Except.ok.injEq, Prod.mk.injEq] at answered
  rcases loginStep2_success answered.2 with ⟨numeric, six, verified⟩ | ⟨-, recovery⟩
  case inl =>
    right
    unfold OtpManager.verifyOtp at verified
    split at verified
    case h_1 totp held =>
      obtain ⟨-, digits, thirty, issued⟩ := run.otp_issued id totp held
      rw [verifyNumber_zero_eq_rfc6238 env.hmac totp _ o.now thirty digits recent] at verified
      simp only [Except.ok.injEq, decide_eq_true_eq] at verified
      exact ⟨numeric, six, totp, held, verified, issued⟩
    case h_2 => cases verified
  case inr => exact .inl recovery

/-- A signup for `alice` on connection 1, then a recovery-code login on
connection 2, on which no request was made before. -/
theorem loginStep2_success_issued_sample :
    ∃ (history : List (Process × Event × Response)) (p p' : Process) (message : String),
      Run sampleEnv history p ∧ p.pending 2 = none ∧
      p.handle sampleEnv ⟨2, .loginStep2 "alice" "K7p2Qx9LmA" ⟨59, none, none, false⟩⟩ =
        .ok (p', .step2 true message) ∧
      59 / 30 < 2 ^ 32 ∧
      ((∃ hash, ⟨"alice", hash, false⟩ ∈ p.state.db.recoveryCodes ∧
          sampleEnv.verifyPassword hash "K7p2Qx9LmA" = true) ∨
        (isNumeric "K7p2Qx9LmA" = true ∧ "K7p2Qx9LmA".length = 6 ∧ ∃ totp : Totp,
          p.state.otp.userOtps "alice" = some totp ∧
          toUnsigned64 (stoi "K7p2Qx9LmA") = rfc6238 sampleEnv.hmac (byteSecret totp.base32Secret) 59 ∧
          ∃ entry ∈ history, Issues sampleEnv entry.1.state entry.2.1 "alice" totp.base32Secret)) := by
  have begun := Run.step (Run.init ⟨[], []⟩) (by decide)
    (show (Process.start ⟨[], []⟩).handle sampleEnv ⟨1, .signup "alice" "pw" true (sampleSignup 0)⟩ = _ from rfl)
  have read := Run.step begun (by decide) (show Process.handle sampleEnv _ ⟨1, .resume⟩ = _ from rfl)
  have committed := Run.step read (by decide) (show Process.handle sampleEnv _ ⟨1, .resume⟩ = _ from rfl)
  have recent : 59 / 30 < 2 ^ 32 := by norm_num
  refine ⟨_, _, ?after, ?message, committed, rfl, ?answered, recent,
    loginStep2_success_issued committed rfl ?answered recent⟩
  case answered => rfl

/-! ## Recovery codes -/

theorem verifyRecoveryCode_of_row {verify : String → String → Bool} {db : Db} {id input hash : String}
    (row : ⟨id, hash, false⟩ ∈ db.recoveryCodes) (accepts : verify hash input = true) :
    db.verifyRecoveryCode verify id input none = true := by
  exact List.any_eq_true.mpr ⟨hash, Db.mem_getHashedRecoveryCodes_none row, accepts⟩

/-- With the `UPDATE` failing, a recovery code that verifies is answered as a
successful login whose message says the code was invalidated, and the state is
unchanged, so the same request succeeds again. -/
theorem loginStep2_recovery_update_fails (env : Env) (s : State) (id input hash : String) (o : Step2Oracle)
    (row : ⟨id, hash, false⟩ ∈ s.db.recoveryCodes) (accepts : env.verifyPassword hash input = true)
    (recoveryInput : ¬ (isNumeric input = true ∧ input.length = 6)) (fullRead : o.firstCut = none)
    (updateFails : o.updateFails = true) :
    loginStep2 env s id input o = (s, .step2 true "복구 코드로 로그인 성공. 해당 복구 코드는 무효화되었습니다.") := by
  unfold loginStep2
  rw [if_neg recoveryInput, fullRead, if_pos (verifyRecoveryCode_of_row row accepts), updateFails,
    Db.invalidateRecoveryCode_updateFails]
  rfl

theorem loginStep2_recovery_update_fails_sample :
    (⟨"alice", "argon2:K7p2Qx9LmA", false⟩ : RecoveryRow) ∈
        (⟨⟨[], [⟨"alice", "argon2:K7p2Qx9LmA", false⟩]⟩, OtpManager.empty⟩ : State).db.recoveryCodes ∧
      sampleEnv.verifyPassword "argon2:K7p2Qx9LmA" "K7p2Qx9LmA" = true ∧
      ¬ (isNumeric "K7p2Qx9LmA" = true ∧ "K7p2Qx9LmA".length = 6) ∧
      (⟨59, none, none, true⟩ : Step2Oracle).firstCut = none ∧ (⟨59, none, none, true⟩ : Step2Oracle).updateFails = true ∧
      loginStep2 sampleEnv ⟨⟨[], [⟨"alice", "argon2:K7p2Qx9LmA", false⟩]⟩, OtpManager.empty⟩ "alice" "K7p2Qx9LmA"
          ⟨59, none, none, true⟩ =
        (⟨⟨[], [⟨"alice", "argon2:K7p2Qx9LmA", false⟩]⟩, OtpManager.empty⟩,
          .step2 true "복구 코드로 로그인 성공. 해당 복구 코드는 무효화되었습니다.") :=
  ⟨by simp, by decide, by decide, rfl, rfl,
    loginStep2_recovery_update_fails sampleEnv _ "alice" "K7p2Qx9LmA" "argon2:K7p2Qx9LmA" ⟨59, none, none, true⟩
      (by simp) (by decide) (by decide) rfl rfl⟩

/-- A recovery-code input that no unused row of the id verifies is refused,
and nothing changes. -/
theorem loginStep2_recovery_refused {env : Env} {s : State} {id input : String} (o : Step2Oracle)
    (recoveryInput : ¬ (isNumeric input = true ∧ input.length = 6))
    (spent : ∀ hash, ⟨id, hash, false⟩ ∈ s.db.recoveryCodes → env.verifyPassword hash input = false) :
    loginStep2 env s id input o = (s, .step2 false (step2Message false false)) := by
  unfold loginStep2
  rw [if_neg recoveryInput, Db.verifyRecoveryCode_false o.firstCut spent]
  rfl

/-- With both reads complete and the `UPDATE` running, a step 2 on a
recovery-code input leaves no unused row of the id that verifies it, whether
it was accepted or refused. -/
theorem loginStep2_spent {env : Env} {s : State} {id input : String} {o : Step2Oracle}
    (recoveryInput : ¬ (isNumeric input = true ∧ input.length = 6))
    (fullReads : o.firstCut = none ∧ o.secondCut = none) (updates : o.updateFails = false)
    (stored : ∀ hash, ⟨id, hash, false⟩ ∈ s.db.recoveryCodes → hash ≠ "")
    (oneHash : ∀ hash hash', ⟨id, hash, false⟩ ∈ s.db.recoveryCodes → ⟨id, hash', false⟩ ∈ s.db.recoveryCodes →
      env.verifyPassword hash input = true → env.verifyPassword hash' input = true → hash = hash')
    (hash : String) (unused : ⟨id, hash, false⟩ ∈ (loginStep2 env s id input o).1.db.recoveryCodes) :
    env.verifyPassword hash input = false := by
  unfold loginStep2 at unused
  rw [if_neg recoveryInput] at unused
  split at unused
  case isTrue =>
    rw [fullReads.2, updates] at unused
    exact Db.invalidateRecoveryCode_spent stored oneHash unused
  case isFalse refused =>
    cases accepts : env.verifyPassword hash input with
    | false => rfl
    | true => exact absurd (fullReads.1 ▸ verifyRecoveryCode_of_row unused accepts) refused

/-- A recovery code logs in at most once: after a step 2 on it with both reads
complete and the `UPDATE` running, the same input is refused on the id, under
any outcomes of the next request's statements, provided the id's unused hashes
are non-empty and at most one of them verifies the input. -/
theorem loginStep2_recovery_single_use (env : Env) (s : State) (id input : String) (o o' : Step2Oracle)
    (recoveryInput : ¬ (isNumeric input = true ∧ input.length = 6))
    (fullReads : o.firstCut = none ∧ o.secondCut = none) (updates : o.updateFails = false)
    (stored : ∀ hash, ⟨id, hash, false⟩ ∈ s.db.recoveryCodes → hash ≠ "")
    (oneHash : ∀ hash hash', ⟨id, hash, false⟩ ∈ s.db.recoveryCodes → ⟨id, hash', false⟩ ∈ s.db.recoveryCodes →
      env.verifyPassword hash input = true → env.verifyPassword hash' input = true → hash = hash') :
    loginStep2 env (loginStep2 env s id input o).1 id input o' =
      ((loginStep2 env s id input o).1, .step2 false (step2Message false false)) :=
  loginStep2_recovery_refused o' recoveryInput (loginStep2_spent recoveryInput fullReads updates stored oneHash)

theorem loginStep2_recovery_single_use_sample :
    ¬ (isNumeric "K7p2Qx9LmA" = true ∧ "K7p2Qx9LmA".length = 6) ∧
      ((⟨59, none, none, false⟩ : Step2Oracle).firstCut = none ∧ (⟨59, none, none, false⟩ : Step2Oracle).secondCut = none) ∧
      (⟨59, none, none, false⟩ : Step2Oracle).updateFails = false ∧
      (∀ hash, (⟨"alice", hash, false⟩ : RecoveryRow) ∈
          (⟨⟨[], [⟨"alice", "argon2:K7p2Qx9LmA", false⟩]⟩, OtpManager.empty⟩ : State).db.recoveryCodes → hash ≠ "") ∧
      (∀ hash hash', (⟨"alice", hash, false⟩ : RecoveryRow) ∈
          (⟨⟨[], [⟨"alice", "argon2:K7p2Qx9LmA", false⟩]⟩, OtpManager.empty⟩ : State).db.recoveryCodes →
        (⟨"alice", hash', false⟩ : RecoveryRow) ∈
          (⟨⟨[], [⟨"alice", "argon2:K7p2Qx9LmA", false⟩]⟩, OtpManager.empty⟩ : State).db.recoveryCodes →
        sampleEnv.verifyPassword hash "K7p2Qx9LmA" = true → sampleEnv.verifyPassword hash' "K7p2Qx9LmA" = true →
        hash = hash') ∧
      loginStep2 sampleEnv (loginStep2 sampleEnv ⟨⟨[], [⟨"alice", "argon2:K7p2Qx9LmA", false⟩]⟩, OtpManager.empty⟩
          "alice" "K7p2Qx9LmA" ⟨59, none, none, false⟩).1 "alice" "K7p2Qx9LmA" ⟨60, none, none, false⟩ =
        ((loginStep2 sampleEnv ⟨⟨[], [⟨"alice", "argon2:K7p2Qx9LmA", false⟩]⟩, OtpManager.empty⟩
          "alice" "K7p2Qx9LmA" ⟨59, none, none, false⟩).1, .step2 false (step2Message false false)) :=
  ⟨by decide, ⟨rfl, rfl⟩, rfl, by simp, by simp,
    loginStep2_recovery_single_use sampleEnv _ "alice" "K7p2Qx9LmA" ⟨59, none, none, false⟩ ⟨60, none, none, false⟩
      (by decide) ⟨rfl, rfl⟩ rfl (by simp) (by simp)⟩

end RaspiServer.Server
