import HotAirBalloon.Library.Table
import HotAirBalloon.Python.DateTime
import HotAirBalloon.Python.Text
import HotAirBalloon.Python.Uuid
import HotAirBalloon.Python.Value

/-!
# Registration of users

The entity `User`, the table `users` and the use case `RegisterUser`. `validate_email` of
email-validator is an argument, as are the values of `uuid4()` and of the two readings of the clock.
`registerAll_rows` says what a sequence of registrations leaves in the table.
-/

namespace HotAirBalloon.Users

open Python Library

/-! ## The entity -/

inductive UserStatus where
  | active
  | suspended
  | deactivated
  deriving DecidableEq

namespace UserStatus

def value : UserStatus → String
  | active => "active"
  | suspended => "suspended"
  | deactivated => "deactivated"

/-- `UserStatus(value)`. -/
def ofValue (text : String) : Except PyError UserStatus :=
  if text = "active" then .ok active
  else if text = "suspended" then .ok suspended
  else if text = "deactivated" then .ok deactivated
  else .error (PyError.valueError ("'" ++ text ++ "' is not a valid UserStatus"))

end UserStatus

structure User where
  id : Uuid
  email : String
  displayName : String
  createdAt : DateTime
  status : UserStatus
  updatedAt : DateTime
  emailVerifiedAt : Option DateTime := none
  lastLoginAt : Option DateTime := none
  deactivatedAt : Option DateTime := none
  sourceSystem : Option String := none

/-- `validate_email(email, check_deliverability=False)`: the normalized address, or what is wrong
with it. -/
abbrev EmailValidator := String → Except String String

/-- `" ".join(display_name.split())`. -/
def normalizedName (displayName : String) : String := " ".intercalate (splitWords displayName)

/-- `User.register`, with the two readings of the clock. -/
def User.register (validateEmail : EmailValidator) (email displayName : String)
    (sourceSystem : Option String) (userId : Uuid) (createdAt updatedAt : DateTime) :
    Except PyError User :=
  match validateEmail (strip email) with
  | .error message => .error ⟨"InvalidEmailError", message, true⟩
  | .ok normalizedEmail =>
    if 2 ≤ (normalizedName displayName).length ∧ (normalizedName displayName).length ≤ 100 then
      .ok {
        id := userId
        email := normalizedEmail
        displayName := normalizedName displayName
        createdAt := createdAt
        status := .active
        updatedAt := updatedAt
        sourceSystem := sourceSystem }
    else .error ⟨"InvalidDisplayNameError",
      "Display name must contain between 2 and 100 characters", true⟩

/-! ## The table -/

structure UserRecord where
  id : Uuid
  email : String
  displayName : String
  createdAt : DateTime
  status : String
  updatedAt : DateTime
  emailVerifiedAt : Option DateTime
  lastLoginAt : Option DateTime
  deactivatedAt : Option DateTime
  sourceSystem : Option String
  deriving DecidableEq

namespace UserRecord

/-- `from_entity`. -/
def fromEntity (user : User) : UserRecord where
  id := user.id
  email := user.email
  displayName := user.displayName
  createdAt := user.createdAt
  status := user.status.value
  updatedAt := user.updatedAt
  emailVerifiedAt := user.emailVerifiedAt
  lastLoginAt := user.lastLoginAt
  deactivatedAt := user.deactivatedAt
  sourceSystem := user.sourceSystem

/-- `to_entity`. -/
def toEntity (row : UserRecord) : Except PyError User := do
  let status ← UserStatus.ofValue row.status
  return {
    id := row.id
    email := row.email
    displayName := row.displayName
    createdAt := row.createdAt
    status := status
    updatedAt := row.updatedAt
    emailVerifiedAt := row.emailVerifiedAt
    lastLoginAt := row.lastLoginAt
    deactivatedAt := row.deactivatedAt
    sourceSystem := row.sourceSystem }

/-- The widths of the text columns. -/
def fits (row : UserRecord) : Bool :=
  row.email.length ≤ 320 && row.displayName.length ≤ 100 && row.status.length ≤ 20 &&
    row.sourceSystem.all (fun sourceSystem => sourceSystem.length ≤ 50)

end UserRecord

abbrev UserTable := Table UserRecord.id

/-- `EmailAlreadyRegisteredError(email)`. -/
def emailAlreadyRegistered (email : String) : PyError :=
  ⟨"EmailAlreadyRegisteredError", email, true⟩

namespace UserRepository

/-- `get_by_email`. -/
def getByEmail (users : UserTable) (email : String) : Except PyError (Option User) :=
  match users.rows.find? (fun row => row.email = email) with
  | none => .ok none
  | some row => row.toEntity.map some

/-- `add`: the primary key and the unique index on the email. -/
def add (users : UserTable) (user : User) : Except PyError UserTable :=
  let row := UserRecord.fromEntity user
  if !row.fits then
    .error ⟨"DBAPIError", "value too long for type character varying", true⟩
  else if (users.find? row.id).isSome || users.rows.any (fun other => other.email = row.email) then
    .error (emailAlreadyRegistered user.email)
  else .ok (users.put row)

end UserRepository

/-! ## The use case -/

structure RegisterUserCommand where
  email : String
  displayName : String
  sourceSystem : String := "unknown"

structure UserDTO where
  id : Uuid
  email : String
  displayName : String
  createdAt : DateTime
  sourceSystem : Option String
  deriving DecidableEq

/-- `UserDTO.from_entity`. -/
def UserDTO.fromEntity (user : User) : UserDTO where
  id := user.id
  email := user.email
  displayName := user.displayName
  createdAt := user.createdAt
  sourceSystem := user.sourceSystem

/-- A call of `RegisterUser.execute`: its command, the new id and the readings of the clock. -/
structure Registration where
  command : RegisterUserCommand
  userId : Uuid
  createdAt : DateTime
  updatedAt : DateTime

namespace Registration

variable (validateEmail : EmailValidator) (registration : Registration)

/-- The entity that the call builds. -/
def user : Except PyError User :=
  User.register validateEmail registration.command.email registration.command.displayName
    (some registration.command.sourceSystem) registration.userId registration.createdAt
    registration.updatedAt

/-- `RegisterUser.execute`: what it returns and the table it commits; when it raises, the unit of
work rolls back. -/
def execute (users : UserTable) : Except PyError (UserDTO × UserTable) := do
  let user ← registration.user validateEmail
  let known ← UserRepository.getByEmail users user.email
  if known.isSome then throw (emailAlreadyRegistered registration.command.email)
  else
    let users' ← UserRepository.add users user
    return (UserDTO.fromEntity user, users')

end Registration

/-- Registrations one after another, as long as they succeed. -/
def registerAll (validateEmail : EmailValidator) (registrations : List Registration)
    (users : UserTable) : Except PyError UserTable :=
  registrations.foldlM
    (fun users registration => (registration.execute validateEmail users).map Prod.snd) users

/-! ## What is registered -/

section

variable {validateEmail : EmailValidator} {registration : Registration} {users users' : UserTable}

/-- A row of a registered user. -/
structure Registered (validateEmail : EmailValidator) (registration : Registration)
    (row : UserRecord) : Prop where
  email : validateEmail (strip registration.command.email) = .ok row.email
  displayName : row.displayName = normalizedName registration.command.displayName
  nameLength : 2 ≤ row.displayName.length ∧ row.displayName.length ≤ 100
  createdAt : row.createdAt = registration.createdAt
  updatedAt : row.updatedAt = registration.updatedAt
  status : row.status = "active"
  emailVerifiedAt : row.emailVerifiedAt = none
  lastLoginAt : row.lastLoginAt = none
  deactivatedAt : row.deactivatedAt = none

theorem registered_of_user {user : User} (h : registration.user validateEmail = .ok user) :
    Registered validateEmail registration (UserRecord.fromEntity user) := by
  unfold Registration.user User.register at h
  split at h
  · cases h
  · rename_i normalizedEmail hemail
    split at h
    · rename_i hlength
      cases h
      exact ⟨hemail, rfl, hlength, rfl, rfl, rfl, rfl, rfl, rfl⟩
    · cases h

/-- A registration adds one row, under a new email. -/
theorem execute_rows {dto : UserDTO}
    (h : registration.execute validateEmail users = .ok (dto, users')) :
    ∃ row, Registered validateEmail registration row ∧ users'.rows = users.rows ++ [row] := by
  unfold Registration.execute at h
  cases huser : registration.user validateEmail with
  | error e => rw [huser] at h; cases h
  | ok user =>
    rw [huser] at h
    change (do
      let known ← UserRepository.getByEmail users user.email
      if known.isSome then throw _ else
        let users' ← UserRepository.add users user
        return (UserDTO.fromEntity user, users') : Except PyError _) = _ at h
    cases hknown : UserRepository.getByEmail users user.email with
    | error e => rw [hknown] at h; cases h
    | ok known =>
      rw [hknown] at h
      change (if known.isSome then throw _ else do
        let users' ← UserRepository.add users user
        return (UserDTO.fromEntity user, users') : Except PyError _) = _ at h
      split at h
      · cases h
      · cases hadd : UserRepository.add users user with
        | error e => rw [hadd] at h; cases h
        | ok added =>
          rw [hadd] at h
          cases h
          refine ⟨UserRecord.fromEntity user, registered_of_user huser, ?_⟩
          unfold UserRepository.add at hadd
          dsimp only at hadd
          split at hadd
          · cases hadd
          · split at hadd
            · cases hadd
            · rename_i hfresh
              cases hadd
              apply Table.rows_put_of_find?_eq_none
              rw [← Option.not_isSome_iff_eq_none]
              intro hfound
              apply hfresh
              rw [hfound]
              rfl

/-- The rows after some registrations, in their order. -/
theorem registerAll_rows {registrations : List Registration}
    (h : registerAll validateEmail registrations users = .ok users') :
    ∃ rows, List.Forall₂ (Registered validateEmail) registrations rows ∧
      users'.rows = users.rows ++ rows := by
  induction registrations generalizing users with
  | nil =>
    cases h
    exact ⟨[], .nil, (List.append_nil _).symm⟩
  | cons registration rest ih =>
    unfold registerAll at h
    rw [List.foldlM_cons] at h
    cases hfirst : registration.execute validateEmail users with
    | error e => rw [hfirst] at h; cases h
    | ok pair =>
      obtain ⟨dto, users₁⟩ := pair
      rw [hfirst] at h
      obtain ⟨row, hregistered, hrows⟩ := execute_rows hfirst
      obtain ⟨rows, hforall, hrows'⟩ := ih h
      refine ⟨row :: rows, .cons hregistered hforall, ?_⟩
      rw [hrows', hrows, List.append_assoc]
      rfl

end

end HotAirBalloon.Users
