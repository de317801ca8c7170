import RaspiServer.Server.Db
import RaspiServer.Otp.Manager

/-!
# Signup and two-step login (`request_handlers.cpp`)

`handle_login_step1_request` (request 8), `handle_signup_request` (request 9)
and `handle_login_step2_request` (request 22) over the state they share: the
two account tables and the process-wide `OTPManager`. Every connection has its
own thread, and the threads interleave.

A login request is one step. A signup is three, because only its insert and
stores run under `db_mutex`: `hash_password` and `generate_otp_uri`, which
writes the manager; `get_secret`, which reads it again, with the QR code and
the recovery codes; and the critical section, after which it answers. Other
threads' steps run between them. A thread reads its next request only once it
has answered the last.

What a handler does not decide itself is an input of the step: the outcome of
every SQL statement, the random draws of `random_base32`,
`generate_recovery_codes` and the salts of `hash_password`, and the clock. The
run's fixed environment is the HMAC, `hash_password` with `verify_password`,
and the QR encoder's capacity. The server starts from whatever tables its
database file holds, and from an empty manager.
-/

set_option autoImplicit false

namespace RaspiServer.Server

open RaspiServer.Otp

/-- The state the three handlers share. -/
structure State where
  db : Db
  otp : OtpManager

/-- The server's state at start-up: the tables of the database file
`tcp_server.cpp` opens, and no OTP objects. -/
def State.start (db : Db) : State := ⟨db, OtpManager.empty⟩

/-- What stays fixed over a run. `hashPassword salt passwd` is
`crypto_pwhash_str` of `passwd` with the salt it draws, `none` when it fails
and `hash_password` throws `runtime_error`. `qrFits uri` says whether
`QrCode::encodeText` at error-correction level `MEDIUM` can hold the text; it
throws `data_too_long` otherwise. -/
structure Env where
  hmac : Hmac
  hashPassword : Nat → String → Option String
  verifyPassword : String → String → Bool
  /-- `crypto_pwhash_str_verify` accepts the password a hash was made from. -/
  verifyPassword_hashPassword : ∀ salt passwd hashed, hashPassword salt passwd = some hashed →
    verifyPassword hashed passwd = true
  qrFits : String → Bool

/-- Outcomes a login step 1 depends on. -/
structure Step1Oracle where
  lookupFails : Bool

/-- Outcomes a signup depends on: the salts `hash_password` draws (`salts 0`
for the password, `salts (k + 1)` for the `k`-th recovery code), the `rand()`
values, the five recovery codes and the statements' failures. -/
structure SignupOracle where
  salts : Nat → Nat
  rand : Nat → Nat
  recoveryCodes : List String
  insertFails : Bool
  storeSecretFails : Bool
  storeCodesFails : Bool

/-- Outcomes a login step 2 depends on: the time, how far each of the two
`SELECT`s of unused hashes gets, and whether the `UPDATE` fails. -/
structure Step2Oracle where
  now : Nat
  firstCut : Option Nat
  secondCut : Option Nat
  updateFails : Bool

/-- A decoded request, or the next step of a signup the connection is in. -/
inductive Request where
  | loginStep1 (id passwd : String) (oracle : Step1Oracle)
  | signup (id passwd : String) (useOtp : Bool) (oracle : SignupOracle)
  | loginStep2 (id input : String) (oracle : Step2Oracle)
  | resume

def Request.isResume : Request → Bool
  | .resume => true
  | _ => false

/-- A request on a connection. -/
structure Event where
  connection : Nat
  request : Request

/-- The answer sent, if any. The QR code's SVG, a function of the URI, is left
out. -/
inductive Response where
  | none
  /-- `request_id` 19. -/
  | step1 (success : Bool) (requiresOtp : Option Bool) (message : Option String)
  /-- `request_id` 20: the URI and the recovery codes when signup succeeded with OTP. -/
  | signup (success : Bool) (issued : Option (String × List String))
  /-- `request_id` 23. -/
  | step2 (success : Bool) (message : String)
  deriving DecidableEq, Repr

/-! ## Login -/

/-- The `register_otp` call of step 1; it cannot throw for a non-empty secret
(`registerOtp_ok`), and a throw would leave the handler. -/
def registerStep (m : OtpManager) (id secret : String) : Except CppException OtpManager :=
  match m.registerOtp id secret with
  | .ok m => .ok m
  | .error _ => .error .logicError

/-- `handle_login_step1_request` on a decoded id and password. -/
def loginStep1 (env : Env) (s : State) (id passwd : String) (o : Step1Oracle) :
    Except CppException (State × Response) :=
  if id = "" ∨ passwd = "" then .ok (s, .none)
  else
    match s.db.getAccountById id o.lookupFails with
    | none => .ok (s, .step1 false none none)
    | some account =>
        if env.verifyPassword account.passwd passwd then do
          let otp ← if account.otpSecret ≠ "" then registerStep s.otp id account.otpSecret else pure s.otp
          let message := if account.useOtp then "ID/PW 검증 완료. OTP 또는 복구 코드를 입력하세요."
            else "ID/PW 검증 완료. 바로 로그인 가능합니다."
          .ok ({ s with otp }, .step1 true (some account.useOtp) (some message))
        else .ok (s, .step1 false none none)

/-- `std::all_of(input, ::isdigit)` on a non-empty input. -/
def isNumeric (input : String) : Bool := input ≠ "" ∧ input.toList.all Char.isDigit

/-- `std::stoi` of a string of decimal digits. -/
def stoi (input : String) : Int := Nat.ofDigitChars 10 input.toList 0

/-- The texts of the step-2 answer. -/
def step2Message (success viaRecovery : Bool) : String :=
  if success then
    if viaRecovery then "복구 코드로 로그인 성공. 해당 복구 코드는 무효화되었습니다."
    else "OTP 검증 성공. 로그인 완료."
  else "OTP 또는 복구 코드가 올바르지 않습니다."

/-- `handle_login_step2_request` on a decoded id and input. A six-digit input
goes to `verify_otp`; anything else is tried as a recovery code, and
`invalidate_recovery_code`'s result is not looked at. An exception inside the
`try` (the HMAC size check) is caught as `std::exception`. -/
def loginStep2 (env : Env) (s : State) (id input : String) (o : Step2Oracle) : State × Response :=
  if isNumeric input ∧ input.length = 6 then
    let success := match s.otp.verifyOtp env.hmac id (stoi input) o.now with
      | .ok verified => verified
      | .error _ => false
    (s, .step2 success (step2Message success false))
  else if s.db.verifyRecoveryCode env.verifyPassword id input o.firstCut then
    let db := (s.db.invalidateRecoveryCode env.verifyPassword id input o.secondCut o.updateFails).2
    ({ s with db }, .step2 true (step2Message true true))
  else (s, .step2 false (step2Message false false))

/-! ## Signup -/

/-- Where a connection's signup stands between its steps. -/
inductive SignupStage where
  /-- `generate_otp_uri` returned `otpUri`; `get_secret` comes next. -/
  | generated (id hashedPasswd otpUri : String) (o : SignupOracle)
  /-- The critical section comes next, with the account and, for an OTP
  account, the URI and the plain recovery codes. -/
  | locking (account : Account) (issued : Option (String × List String)) (o : SignupOracle)

/-- `hash_recovery_codes`: `hash_password` of each code in turn, the first
failure throwing. -/
def hashRecoveryCodes (env : Env) (salts : Nat → Nat) (codes : List String) : Option (List String) :=
  codes.zipIdx.mapM fun drawn => env.hashPassword (salts (drawn.2 + 1)) drawn.1

/-- The first step of `handle_signup_request`: `hash_password`, then, with
`use_otp`, `generate_otp_uri`, which puts a fresh object for the id in the
manager. A failed hash is the `runtime_error` the handler catches: it answers
at once. -/
def signupBegin (env : Env) (s : State) (id passwd : String) (useOtp : Bool) (o : SignupOracle) :
    Except CppException (State × Option SignupStage × Response) :=
  match env.hashPassword (o.salts 0) passwd with
  | none => .ok (s, none, .signup false none)
  | some hashedPasswd =>
      if useOtp then
        match s.otp.generateOtpUri id o.rand with
        | .error _ => .error .logicError
        | .ok (otp, otpUri) => .ok ({ s with otp }, some (.generated id hashedPasswd otpUri o), .none)
      else .ok (s, some (.locking ⟨id, hashedPasswd, "", false⟩ none o), .none)

/-- The second step with `use_otp`: `get_secret` reads the manager as it is
now; the QR code throws `data_too_long` past its capacity, which is no
`runtime_error`; then `generate_recovery_codes`. -/
def signupSecret (env : Env) (s : State) (id hashedPasswd otpUri : String) (o : SignupOracle) :
    Except CppException SignupStage :=
  let otpSecret := s.otp.getSecret id
  if env.qrFits otpUri then .ok (.locking ⟨id, hashedPasswd, otpSecret, true⟩ (some (otpUri, o.recoveryCodes)) o)
  else .error .lengthError

/-- The critical section of a signup: the insert and, for an OTP account, the
secret, the hashed codes and their rows. `none` is the `runtime_error` of a
failed code hash, which the handler catches after the insert. -/
def signupStore (env : Env) (db : Db) (account : Account) (codes : List String) (o : SignupOracle) :
    Option Bool × Db :=
  let inserted := db.insertDataAccounts account o.insertFails
  if inserted.1 ∧ account.useOtp then
    let db := (inserted.2.storeOtpSecret account.id account.otpSecret o.storeSecretFails).2
    match hashRecoveryCodes env o.salts codes with
    | none => (none, db)
    | some hashedCodes => (some true, (db.storeRecoveryCodes account.id hashedCodes o.storeCodesFails).2)
  else (some inserted.1, inserted.2)

/-- The last step: the critical section and the answer. -/
def signupCommit (env : Env) (s : State) (account : Account) (issued : Option (String × List String))
    (o : SignupOracle) : State × Response :=
  let (stored, db) := signupStore env s.db account ((issued.map (·.2)).getD []) o
  let signUpSuccess := stored.getD false
  ({ s with db }, .signup signUpSuccess (if signUpSuccess ∧ account.useOtp then issued else none))

/-- The next step of a signup. -/
def signupResume (env : Env) (s : State) : SignupStage → Except CppException (State × Option SignupStage × Response)
  | .generated id hashedPasswd otpUri o =>
      (fun stage => (s, some stage, .none)) <$> signupSecret env s id hashedPasswd otpUri o
  | .locking account issued o =>
      let (s, r) := signupCommit env s account issued o
      .ok (s, none, r)

/-! ## The server process -/

/-- The shared state, and the signup each connection's thread is in. -/
structure Process where
  state : State
  pending : Nat → Option SignupStage

/-- The process at start-up: no connection in a signup. -/
def Process.start (db : Db) : Process := ⟨State.start db, fun _ => none⟩

/-- A thread takes a new request only when it is in no signup, and resumes
only the signup it is in. -/
def Enabled (p : Process) (e : Event) : Prop := (p.pending e.connection).isSome = e.request.isResume

instance (p : Process) (e : Event) : Decidable (Enabled p e) := inferInstanceAs (Decidable (_ = _))

/-- The process after a signup step of connection `c`. -/
def Process.signupStep (p : Process) (c : Nat) (s : State) (stage : Option SignupStage) : Process :=
  ⟨s, Function.update p.pending c stage⟩

/-- One event, as the connection's thread takes it: a request through
`route_request`, or the next step of its signup. -/
def Process.handle (env : Env) (p : Process) (e : Event) : Except CppException (Process × Response) :=
  match p.pending e.connection, e.request with
  | none, .loginStep1 id passwd o => (fun (s, r) => ({ p with state := s }, r)) <$> loginStep1 env p.state id passwd o
  | none, .signup id passwd useOtp o =>
      (fun (s, stage, r) => (p.signupStep e.connection s stage, r)) <$> signupBegin env p.state id passwd useOtp o
  | none, .loginStep2 id input o => .ok ({ p with state := (loginStep2 env p.state id input o).1 },
      (loginStep2 env p.state id input o).2)
  | some stage, .resume =>
      (fun (s, stage, r) => (p.signupStep e.connection s stage, r)) <$> signupResume env p.state stage
  -- not `Enabled`
  | _, _ => .ok (p, .none)

/-- Runs from start-up over any tables: each entry is the process a step met,
the event and its answer. A thrown exception ends the process, so a run only
continues through answered steps. -/
inductive Run (env : Env) : List (Process × Event × Response) → Process → Prop
  | init (db : Db) : Run env [] (Process.start db)
  | step {history : List (Process × Event × Response)} {p p' : Process} {e : Event} {r : Response} :
      Run env history p → Enabled p e → p.handle env e = .ok (p', r) → Run env (history ++ [(p, e, r)]) p'

/-- A segment of a run from `p` to `p'`: each entry the process a step met,
the event and its answer. -/
inductive Steps (env : Env) : Process → List (Process × Event × Response) → Process → Prop
  | nil (p : Process) : Steps env p [] p
  | cons {p p' p'' : Process} {e : Event} {r : Response} {rest : List (Process × Event × Response)} :
      Enabled p e → p.handle env e = .ok (p', r) → Steps env p' rest p'' → Steps env p ((p, e, r) :: rest) p''

/-- A run continues through any segment from where it stands. -/
theorem Run.steps {env : Env} {history entries : List (Process × Event × Response)} {p p' : Process}
    (run : Run env history p) (steps : Steps env p entries p') : Run env (history ++ entries) p' := by
  induction steps generalizing history with
  | nil => rwa [List.append_nil]
  | cons enabled handled _ ih =>
      have longer := ih (Run.step run enabled handled)
      rwa [List.append_assoc, List.singleton_append] at longer

theorem Steps.append {env : Env} {p q r : Process} {first second : List (Process × Event × Response)}
    (head : Steps env p first q) (tail : Steps env q second r) : Steps env p (first ++ second) r := by
  induction head with
  | nil => exact tail
  | cons enabled handled _ ih => exact .cons enabled handled (ih tail)

/-! ## Step lemmas -/

theorem Except.map_eq_ok {ε α β : Type} {f : α → β} {x : Except ε α} {y : β} (mapped : f <$> x = .ok y) :
    ∃ a, x = .ok a ∧ f a = y := by
  cases x with
  | error e => cases mapped
  | ok a => exact ⟨a, rfl, Except.ok.inj mapped⟩

@[simp] theorem Process.signupStep_state (p : Process) (c : Nat) (s : State) (stage : Option SignupStage) :
    (p.signupStep c s stage).state = s := rfl

@[simp] theorem Process.signupStep_pending_self (p : Process) (c : Nat) (s : State) (stage : Option SignupStage) :
    (p.signupStep c s stage).pending c = stage := Function.update_self ..

theorem Process.handle_loginStep1 (env : Env) (p : Process) {c : Nat} (idle : p.pending c = none)
    (id passwd : String) (o : Step1Oracle) :
    p.handle env ⟨c, .loginStep1 id passwd o⟩ =
      (fun (s, r) => ({ p with state := s }, r)) <$> loginStep1 env p.state id passwd o := by
  simp only [Process.handle, idle]

theorem Process.handle_signup (env : Env) (p : Process) {c : Nat} (idle : p.pending c = none)
    (id passwd : String) (useOtp : Bool) (o : SignupOracle) :
    p.handle env ⟨c, .signup id passwd useOtp o⟩ =
      (fun (s, stage, r) => (p.signupStep c s stage, r)) <$> signupBegin env p.state id passwd useOtp o := by
  simp only [Process.handle, idle]

theorem Process.handle_loginStep2 (env : Env) (p : Process) {c : Nat} (idle : p.pending c = none)
    (id input : String) (o : Step2Oracle) :
    p.handle env ⟨c, .loginStep2 id input o⟩ =
      .ok ({ p with state := (loginStep2 env p.state id input o).1 }, (loginStep2 env p.state id input o).2) := by
  simp only [Process.handle, idle]

theorem Process.handle_resume (env : Env) (p : Process) {c : Nat} {stage : SignupStage}
    (inSignup : p.pending c = some stage) :
    p.handle env ⟨c, .resume⟩ =
      (fun (s, stage, r) => (p.signupStep c s stage, r)) <$> signupResume env p.state stage := by
  simp only [Process.handle, inSignup]

/-- A new request on a connection in a signup changes nothing; it is not `Enabled`. -/
theorem Process.handle_busy (env : Env) (p : Process) {c : Nat} {stage : SignupStage}
    (inSignup : p.pending c = some stage) {request : Request} (fresh : request.isResume = false) :
    p.handle env ⟨c, request⟩ = .ok (p, .none) := by
  cases request <;> simp_all [Process.handle, Request.isResume]

/-- Resuming an idle connection changes nothing; it is not `Enabled`. -/
theorem Process.handle_idle_resume (env : Env) (p : Process) {c : Nat} (idle : p.pending c = none) :
    p.handle env ⟨c, .resume⟩ = .ok (p, .none) := by
  simp only [Process.handle, idle]

theorem registerOtp_ok (m : OtpManager) (id secret : String) (nonempty : secret ≠ "") :
    ∃ totp : Totp, totp.base32Secret = secret ∧ totp.account = id ∧ totp.digits = 6 ∧
      totp.interval = 30 ∧ registerStep m id secret =
        .ok { userOtps := Function.update m.userOtps id (some totp),
              userSecrets := Function.update m.userSecrets id (some secret) } := by
  have created : Totp.create secret 6 30 =
      .ok { base32Secret := secret, digits := 6, interval := 30, account := "", issuer := "",
            secret_ne := nonempty, digits_ge := by decide, digits_le := by decide } := by
    rw [Totp.create, dif_pos ⟨nonempty, by decide, by decide⟩]
  refine ⟨{ base32Secret := secret, digits := 6, interval := 30, account := id, issuer := otpIssuer,
            secret_ne := nonempty, digits_ge := by decide, digits_le := by decide }, rfl, rfl, rfl, rfl, ?_⟩
  simp only [registerStep, OtpManager.registerOtp, if_neg nonempty, created]
  rfl

/-- Step 2 changes only the recovery rows, and only through the recovery branch. -/
theorem loginStep2_otp (env : Env) (s : State) (id input : String) (o : Step2Oracle) :
    (loginStep2 env s id input o).1.otp = s.otp := by
  unfold loginStep2
  split
  · rfl
  · split <;> rfl

/-- What a successful step 2 rests on: a six-digit input that `verify_otp`
accepted, or an input that verifies the hash of an unused recovery row of the
id. -/
theorem loginStep2_success {env : Env} {s : State} {id input : String} {o : Step2Oracle}
    {message : String} (answered : (loginStep2 env s id input o).2 = .step2 true message) :
    (isNumeric input ∧ input.length = 6 ∧ s.otp.verifyOtp env.hmac id (stoi input) o.now = .ok true) ∨
      (¬ (isNumeric input ∧ input.length = 6) ∧
        ∃ hash, ⟨id, hash, false⟩ ∈ s.db.recoveryCodes ∧ env.verifyPassword hash input = true) := by
  unfold loginStep2 at answered
  split at answered
  case isTrue numeric =>
    refine .inl ⟨numeric.1, numeric.2, ?_⟩
    split at answered
    case h_1 verified result =>
      simp only [Response.step2.injEq] at answered
      rw [result, answered.1]
    case h_2 => simp at answered
  case isFalse notNumeric =>
    split at answered
    case isTrue accepted => exact .inr ⟨notNumeric, Db.verifyRecoveryCode_true accepted⟩
    case isFalse => simp at answered

end RaspiServer.Server
